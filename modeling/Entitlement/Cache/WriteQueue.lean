import Entitlement.Cache.Memory
import Entitlement.Cache.Tally
import Entitlement.Width

/-! # Filling the cache

Batches for the cache wait in a queue of bounded length. One worker takes them off
the queue in order and writes them, each within a limited time. Whoever offers a
batch never waits and never hears of a failure: a batch that cannot be accepted is
dropped, and a write that fails or takes too long is given up.

Time passes only when it is said to. A worker that is idle takes the next batch as
soon as time begins to pass. -/

namespace Entitlement.Cache

/-! ## Writing a batch -/

inductive Attempt (κ : Type) where
  | over (outcome : Except Fault Unit) (cache : κ)
  /-- It takes this many milliseconds and then writes. -/
  | lasts (milliseconds : Nat)
  | endless
  | fatal

structure Writer (κ : Type) where
  start : κ → KeyBatch → Attempt κ
  finish : κ → KeyBatch → κ

def Memory.writer : Writer Memory where
  start cache batch :=
    match cache.mode with
    | .sound => .over (.ok ()) (cache.putAll batch)
    | .broken => .over (.error Operation.writeCache.failure) cache
    | .readOnly => .over (.error Operation.writeCache.failure) cache
    | .slow milliseconds => .lasts milliseconds
    | .hanging => .endless
    | .fatal => .fatal
  finish cache batch := cache.putAll batch

/-! ## The queue -/

structure Writing where
  batch : KeyBatch
  /-- The milliseconds left until it is over. -/
  left : Nat
  succeeds : Bool
deriving DecidableEq

structure WriteQueue where
  capacity : Nat
  /-- The milliseconds that a write may take. -/
  timeout : Nat
  waiting : List KeyBatch
  writing : Option Writing
  accepting : Bool
  working : Bool
  awaited : Bool
deriving DecidableEq

namespace WriteQueue

def maxCapacity : Nat := Width.max64 / 8

def start? (capacity timeout : Nat) : Option WriteQueue :=
  if maxCapacity < capacity then none
  else
    some {
      capacity := max capacity 1
      timeout := timeout
      waiting := []
      writing := none
      accepting := true
      working := true
      awaited := false }

def submit (queue : WriteQueue) (batch : KeyBatch) : Note × WriteQueue :=
  if !queue.accepting || !queue.working then (.droppedClosed, queue)
  else if queue.capacity ≤ queue.waiting.length then (.droppedFull, queue)
  else (.enqueued, { queue with waiting := queue.waiting ++ [batch] })

/-! ## The worker -/

/-- Where the worker got to: the queue, the cache, and what was noted on the way. -/
structure Progress (κ : Type) where
  queue : WriteQueue
  cache : κ
  notes : List Note

variable {κ : Type}

/-- The time left of a budget after `span` milliseconds, if they fit into it; without
a budget there is always time. -/
def spend? (budget : Option Nat) (span : Nat) : Option (Option Nat) :=
  match budget with
  | none => some none
  | some left => if span ≤ left then some (some (left - span)) else none

def leftAfter (budget : Option Nat) (span : Nat) : Nat :=
  span - budget.getD 0

def conclude (writer : Writer κ) (batch : KeyBatch) (succeeds : Bool) (cache : κ) : κ × Note :=
  if succeeds then (writer.finish cache batch, .completed batch.length) else (cache, .timedOut)

def drain (writer : Writer κ) (queue : WriteQueue) (budget : Option Nat) :
    List KeyBatch → κ → List Note → Progress κ
  | [], cache, notes => ⟨{ queue with waiting := [], writing := none }, cache, notes⟩
  | batch :: rest, cache, notes =>
      let lasting (span : Nat) (succeeds : Bool) : Progress κ :=
        match spend? budget span with
        | some budget =>
            let (cache, note) := conclude writer batch succeeds cache
            drain writer queue budget rest cache (notes ++ [note])
        | none =>
            let writing : Writing := ⟨batch, leftAfter budget span, succeeds⟩
            ⟨{ queue with waiting := rest, writing := some writing }, cache, notes⟩
      match writer.start cache batch with
      | .over (.ok ()) cache =>
          drain writer queue budget rest cache (notes ++ [.completed batch.length])
      | .over (.error _) cache =>
          drain writer queue budget rest cache (notes ++ [.refused])
      | .lasts span =>
          if span ≤ queue.timeout then lasting span true else lasting queue.timeout false
      | .endless => lasting queue.timeout false
      | .fatal =>
          ⟨{ queue with waiting := [], writing := none, working := false }, cache, notes⟩

/-- Lets the worker work for as long as the budget of time lasts; without a budget,
until nothing is left to do. -/
def run (writer : Writer κ) (queue : WriteQueue) (budget : Option Nat) (cache : κ) :
    Progress κ :=
  match queue.writing with
  | none => drain writer queue budget queue.waiting cache []
  | some writing =>
      match spend? budget writing.left with
      | some budget =>
          let (cache, note) := conclude writer writing.batch writing.succeeds cache
          drain writer queue budget queue.waiting cache [note]
      | none =>
          let writing := { writing with left := leftAfter budget writing.left }
          ⟨{ queue with writing := some writing }, cache, []⟩

def advance (writer : Writer κ) (queue : WriteQueue) (milliseconds : Nat) (cache : κ) :
    Progress κ :=
  run writer queue (some milliseconds) cache

/-! ## The end -/

/-- Begins a shutdown, after which no batch is accepted. Only the first one waits for the worker;
says whether this one does. -/
def close (queue : WriteQueue) : Bool × WriteQueue :=
  (!queue.awaited, { queue with accepting := false, awaited := true })

/-- Shuts the queue down. If this is for the first time, the batches that were accepted have been
dealt with at the end; a shutdown while another one waits is over at once. -/
def shutdown (writer : Writer κ) (queue : WriteQueue) (cache : κ) : Progress κ :=
  let (waits, queue) := queue.close
  if waits then run writer queue none cache else ⟨queue, cache, []⟩

theorem shutdown_of_not_awaited {queue : WriteQueue} (isFirst : queue.awaited = false)
    (writer : Writer κ) (cache : κ) :
    queue.shutdown writer cache = run writer queue.close.2 none cache := by
  simp [shutdown, close, isFirst]

theorem shutdown_of_awaited {queue : WriteQueue} (awaited : queue.awaited = true)
    (writer : Writer κ) (cache : κ) :
    queue.shutdown writer cache = ⟨queue.close.2, cache, []⟩ := by
  simp [shutdown, close, awaited]

end WriteQueue
end Entitlement.Cache
