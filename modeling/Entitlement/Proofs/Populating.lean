import Entitlement.Cache.Station
import Mathlib.Data.List.Induction
import Mathlib.Data.List.Nodup

/-! # Batches on their way to the cache

Producers, the worker and the end of a program meet at the queue in front of the cache in any
order. A ledger keeps what happened there step by step: which batches were accepted, which ones
the worker has begun to write, and what was noted. Whatever the order, no accepted batch is lost,
repeated or overtaken, and the counters add up. The queue that runs with a clock takes such steps
only, and hands the batches that it begins to write to the cache behind it. -/

namespace Entitlement

/-! ## Counters -/

namespace Note

def kind : Note → Note
  | completed _ => completed 0
  | decided _ => decided .denied
  | note => note

def endsWrite : Note → Bool
  | completed _ | refused | timedOut => true
  | _ => false

def fates : List Note := [enqueued, droppedFull, droppedClosed, completed 0, refused, timedOut]

theorem counter_eq_iff {note fate : Note} (isKind : note.kind ∈ fates) (isFate : fate ∈ fates) :
    note.counter = fate.counter ↔ note.kind = fate := by
  have distinct : (fates.map counter).Nodup := by decide +kernel
  have sameCounter : note.counter = note.kind.counter := by
    cases note with
    | decided => simp [kind, fates] at isKind
    | _ => rfl
  rw [sameCounter]
  exact ⟨List.inj_on_of_nodup_map distinct isKind isFate, congrArg counter⟩

end Note

namespace Tally

def total (notes : List Note) (counter : String) : Nat :=
  ((counters notes).lookup counter).getD 0

theorem lookup_map_self {value : String → Nat} (names : List String) (name : String) :
    (names.map fun name => (name, value name)).lookup name =
      if name ∈ names then some (value name) else none := by
  induction names with
  | nil => rfl
  | cons first names induction =>
      rw [List.map_cons, List.lookup_cons, induction]
      by_cases same : name = first
      · simp [same]
      · simp [same, beq_false_of_ne same]

theorem total_eq_count (notes : List Note) (counter : String) :
    total notes counter = (notes.map (·.counter)).count counter := by
  rw [total, counters, lookup_map_self]
  simp only [List.mem_eraseDups]
  split
  · rfl
  · rename_i absent
    exact (List.count_eq_zero.mpr absent).symm

theorem total_eq_count_kind {notes : List Note} (areFates : ∀ note ∈ notes, note.kind ∈ Note.fates)
    {fate : Note} (isFate : fate ∈ Note.fates) :
    total notes fate.counter = (notes.map Note.kind).count fate := by
  rw [total_eq_count]
  induction notes with
  | nil => rfl
  | cons note notes induction =>
      rcases List.forall_mem_cons.mp areFates with ⟨isKind, areKinds⟩
      simp only [List.map_cons, List.count_cons, induction areKinds, beq_iff_eq,
        Note.counter_eq_iff isKind isFate]

end Tally

namespace Cache

theorem WriteQueue.submit_cases (queue : WriteQueue) (batch : KeyBatch) :
    (queue.submit batch = (.droppedClosed, queue) ∧
      (queue.accepting = false ∨ queue.working = false)) ∨
    (queue.submit batch = (.droppedFull, queue) ∧ queue.accepting = true ∧ queue.working = true ∧
      queue.capacity ≤ queue.waiting.length) ∨
    (queue.submit batch = (.enqueued, { queue with waiting := queue.waiting ++ [batch] }) ∧
      queue.accepting = true ∧ queue.working = true ∧ queue.waiting.length < queue.capacity) := by
  rw [submit]
  cases queue.accepting <;> cases queue.working <;> simp
  by_cases full : queue.capacity ≤ queue.waiting.length
  · simp [full]
  · simp [full, Nat.lt_of_not_le full]

def WriteQueue.pending (queue : WriteQueue) : List KeyBatch :=
  (queue.writing.map (·.batch)).toList ++ queue.waiting

theorem WriteQueue.pending_of_idle {queue : WriteQueue} (idle : queue.writing = none) :
    queue.pending = queue.waiting := by
  rw [pending, idle]
  rfl

theorem WriteQueue.pending_of_writing {queue : WriteQueue} {writing : Writing}
    (isWriting : queue.writing = some writing) :
    queue.pending = writing.batch :: queue.waiting := by
  rw [pending, isWriting]
  rfl

theorem WriteQueue.length_pending (queue : WriteQueue) :
    queue.pending.length = queue.waiting.length + queue.writing.toList.length := by
  rw [pending, List.length_append, Nat.add_comm]
  cases queue.writing <;> rfl

theorem WriteQueue.pending_eq_nil_iff {queue : WriteQueue} :
    queue.pending = [] ↔ queue.waiting = [] ∧ queue.writing = none := by
  rw [pending]
  cases queue.writing <;> simp

def Writer.NeverFatal {κ : Type} (writer : Writer κ) : Prop :=
  ∀ cache batch, writer.start cache batch ≠ .fatal

namespace WriteQueue

section

variable {κ : Type} (writer : Writer κ) (queue : WriteQueue)

/-- The worker changes nothing but what waits and what is being written, unless a batch brings it
down. -/
theorem drain_cases (budget : Option Nat) (waiting : List KeyBatch) (cache : κ)
    (notes : List Note) :
    (∃ waitingThen writingThen, (drain writer queue budget waiting cache notes).queue =
      { queue with waiting := waitingThen, writing := writingThen }) ∨
    (∃ before batch, writer.start before batch = .fatal) ∧
      (drain writer queue budget waiting cache notes).queue =
        { queue with waiting := [], writing := none, working := false } := by
  induction waiting generalizing budget cache notes with
  | nil => exact Or.inl ⟨[], none, rfl⟩
  | cons batch rest induction =>
      rw [drain]
      rcases tried : writer.start cache batch with ⟨_ | _, cache⟩ | span | _ | _
      · exact induction ..
      · exact induction ..
      · dsimp only
        split
        · cases spend? budget span with
          | none => exact Or.inl ⟨rest, _, rfl⟩
          | some left => exact induction ..
        · cases spend? budget queue.timeout with
          | none => exact Or.inl ⟨rest, _, rfl⟩
          | some left => exact induction ..
      · dsimp only
        cases spend? budget queue.timeout with
        | none => exact Or.inl ⟨rest, _, rfl⟩
        | some left => exact induction ..
      · exact Or.inr ⟨⟨cache, batch, tried⟩, rfl⟩

theorem run_cases (budget : Option Nat) (cache : κ) :
    (∃ waitingThen writingThen, (run writer queue budget cache).queue =
      { queue with waiting := waitingThen, writing := writingThen }) ∨
    (∃ before batch, writer.start before batch = .fatal) ∧
      (run writer queue budget cache).queue =
        { queue with waiting := [], writing := none, working := false } := by
  rw [run]
  split
  · exact drain_cases ..
  · dsimp only
    split
    · exact drain_cases ..
    · exact Or.inl ⟨queue.waiting, _, rfl⟩

theorem switches_of_run (budget : Option Nat) (cache : κ) :
    (run writer queue budget cache).queue.accepting = queue.accepting ∧
      (run writer queue budget cache).queue.awaited = queue.awaited := by
  rcases run_cases writer queue budget cache with ⟨waiting, writing, ran⟩ | ⟨-, ran⟩ <;>
    exact ⟨by rw [ran], by rw [ran]⟩

variable {writer}

theorem working_run (lasts : writer.NeverFatal) (budget : Option Nat) (cache : κ) :
    (run writer queue budget cache).queue.working = queue.working := by
  rcases run_cases writer queue budget cache with ⟨_, _, ran⟩ | ⟨⟨before, batch, fatal⟩, -⟩
  · rw [ran]
  · exact absurd fatal (lasts before batch)

end

end WriteQueue

def Writer.handOver {κ : Type} (writer : Writer κ) (timeout : Nat) (cache : κ)
    (batch : KeyBatch) : κ × Option Note :=
  match writer.start cache batch with
  | .over (.ok ()) later => (later, some (.completed batch.length))
  | .over (.error _) later => (later, some .refused)
  | .lasts span => (WriteQueue.conclude writer batch (span ≤ timeout) cache).map id some
  | .endless => (WriteQueue.conclude writer batch false cache).map id some
  | .fatal => (cache, none)

def Writer.handAll {κ : Type} (writer : Writer κ) (timeout : Nat) (first : κ)
    (batches : List KeyBatch) : κ × List Note :=
  batches.foldl (fun before batch =>
    let handed := writer.handOver timeout before.1 batch
    (handed.1, before.2 ++ handed.2.toList)) (first, [])

theorem Writer.handAll_concat {κ : Type} {writer : Writer κ} {timeout : Nat}
    {first cache later : κ} {batches : List KeyBatch} {notes : List Note} {batch : KeyBatch}
    {note? : Option Note} (filled : writer.handAll timeout first batches = (cache, notes))
    (handed : writer.handOver timeout cache batch = (later, note?)) :
    writer.handAll timeout first (batches ++ [batch]) = (later, notes ++ note?.toList) := by
  rw [handAll] at filled ⊢
  rw [List.foldl_concat, filled, handed]

/-! ## Steps -/

inductive Ending where
  | written
  | refused
  | timedOut
deriving DecidableEq

def Ending.note (batch : KeyBatch) : Ending → Note
  | written => .completed batch.length
  | refused => .refused
  | timedOut => .timedOut

theorem Ending.endsWrite_note (ending : Ending) (batch : KeyBatch) :
    (ending.note batch).endsWrite = true := by
  cases ending <;> rfl

inductive Move where
  | submit (batch : KeyBatch)
  | take (left : Nat) (succeeds : Bool)
  | wait (left : Nat)
  | finish (ending : Ending)
  | collapse
  | close
  | settle
deriving DecidableEq

def Move.isWork : Move → Bool
  | take _ _ | wait _ | finish _ | collapse => true
  | submit _ | close | settle => false

def Move.offered? : Move → Option KeyBatch
  | submit batch => some batch
  | _ => none

inductive Use where
  | offer (batch : KeyBatch)
  | pass (milliseconds : Nat)
  | close
  | stop
deriving DecidableEq

def Use.offered? : Use → Option KeyBatch
  | offer batch => some batch
  | _ => none

def Use.isShutdown : Use → Bool
  | close | stop => true
  | offer _ | pass _ => false

def Station.use {κ : Type} (writer : Writer κ) (station : Station κ) : Use → Station κ
  | .offer batch => (station.offer batch).2
  | .pass milliseconds => station.advance writer milliseconds
  | .close => station.close.2
  | .stop => station.shutdown writer

structure Ledger where
  queue : WriteQueue
  notes : List Note
  offers : Nat
  accepted : List KeyBatch
  started : List KeyBatch
  settled : Bool

namespace Ledger

def start (queue : WriteQueue) : Ledger := ⟨queue, [], 0, [], [], false⟩

def step? (ledger : Ledger) : Move → Option Ledger
  | .submit batch =>
      let (fate, queue) := ledger.queue.submit batch
      some { ledger with
        queue
        notes := ledger.notes ++ [fate]
        offers := ledger.offers + 1
        accepted := if fate = .enqueued then ledger.accepted ++ [batch] else ledger.accepted }
  | .take left succeeds =>
      match ledger.queue.writing, ledger.queue.waiting with
      | none, batch :: rest =>
          some { ledger with
            queue := { ledger.queue with waiting := rest, writing := some ⟨batch, left, succeeds⟩ }
            started := ledger.started ++ [batch] }
      | _, _ => none
  | .wait left =>
      ledger.queue.writing.map fun writing =>
        { ledger with queue := { ledger.queue with writing := some { writing with left } } }
  | .finish ending =>
      ledger.queue.writing.map fun writing =>
        { ledger with
          queue := { ledger.queue with writing := none }
          notes := ledger.notes ++ [ending.note writing.batch] }
  | .collapse =>
      some { ledger with
        queue := { ledger.queue with waiting := [], writing := none, working := false } }
  | .close => some { ledger with queue := ledger.queue.close.2 }
  | .settle =>
      if ledger.queue.accepting = false ∧ ledger.queue.pending = [] then
        some { ledger with settled := true }
      else none

def run? (ledger : Ledger) (moves : List Move) : Option Ledger := moves.foldlM step? ledger

def count (ledger : Ledger) (fate : Note) : Nat := (ledger.notes.map Note.kind).count fate

/-! ## What every step keeps -/

/-- A ledger that is in order. Everything that was accepted has been begun or waits, in the order
of acceptance, and the notes account for it, as long as the worker has not been brought down. -/
structure Sound (capacity : Nat) (ledger : Ledger) : Prop where
  capacity_eq : ledger.queue.capacity = max capacity 1
  fits : ledger.queue.waiting.length ≤ max capacity 1
  inOrder : ledger.queue.working = true →
    ledger.started ++ ledger.queue.waiting = ledger.accepted
  atMostOnce : ledger.started <+: ledger.accepted
  gone : ledger.queue.working = false → ledger.queue.pending = []
  ended : ledger.settled = true → ledger.queue.accepting = false ∧ ledger.queue.pending = []
  areFates : ∀ note ∈ ledger.notes, note.kind ∈ Note.fates
  offers_eq : ledger.offers =
    ledger.count .enqueued + ledger.count .droppedFull + ledger.count .droppedClosed
  enqueued_eq : ledger.queue.working = true → ledger.count .enqueued =
    ledger.count (.completed 0) + ledger.count .refused + ledger.count .timedOut +
      ledger.queue.pending.length

theorem sound_start {capacity timeout : Nat} {queue : WriteQueue}
    (started : WriteQueue.start? capacity timeout = some queue) : (start queue).Sound capacity := by
  rw [WriteQueue.start?] at started
  split at started
  · cases started
  · cases started
    constructor <;> simp [start, count, WriteQueue.pending]

theorem count_concat (notes : List Note) (note fate : Note) :
    ((notes ++ [note]).map Note.kind).count fate =
      (notes.map Note.kind).count fate + if note.kind = fate then 1 else 0 := by
  simp [List.count_singleton]

section

variable {capacity : Nat} {ledger later : Ledger}

theorem Sound.areFates_concat (sound : ledger.Sound capacity) {note : Note}
    (isFate : note.kind ∈ Note.fates) :
    ∀ other ∈ ledger.notes ++ [note], other.kind ∈ Note.fates :=
  List.forall_mem_append.mpr ⟨sound.areFates, List.forall_mem_singleton.mpr isFate⟩

theorem Sound.busy (sound : ledger.Sound capacity) {batch : KeyBatch} {rest : List KeyBatch}
    (isPending : ledger.queue.pending = batch :: rest) :
    ledger.queue.working = true ∧ ledger.settled = false := by
  have notDone : ledger.queue.pending ≠ [] := by
    rw [isPending]
    exact List.cons_ne_nil _ _
  constructor
  · exact Bool.of_not_eq_false fun isGone => notDone (sound.gone isGone)
  · exact Bool.of_not_eq_true fun isSettled => notDone (sound.ended isSettled).2

theorem Sound.submit (sound : ledger.Sound capacity) (batch : KeyBatch)
    (reached : ledger.step? (.submit batch) = some later) : later.Sound capacity := by
  have offers := sound.offers_eq
  have balance := sound.enqueued_eq
  simp only [count] at offers balance
  rw [step?] at reached
  rcases ledger.queue.submit_cases batch with ⟨fate, -⟩ | ⟨fate, -⟩ |
    ⟨fate, accepting, working, notFull⟩
  all_goals
    rw [fate] at reached
    cases reached
  -- A batch that is dropped only moves the counter of dropped ones.
  iterate 2
    refine {
      sound with
      areFates := sound.areFates_concat (by decide)
      offers_eq := ?_
      enqueued_eq := ?_ }
    · simp only [count, count_concat, Note.kind, reduceCtorEq, if_true, if_false]
      omega
    · simpa only [count, count_concat, Note.kind, reduceCtorEq, if_false, Nat.add_zero]
        using balance
  · exact {
      capacity_eq := sound.capacity_eq
      fits := by
        rw [List.length_append, List.length_singleton, ← sound.capacity_eq]
        exact notFull
      inOrder := fun _ => by rw [← List.append_assoc, sound.inOrder working, if_pos rfl]
      atMostOnce := by
        rw [if_pos rfl]
        exact sound.atMostOnce.trans (List.prefix_append _ _)
      gone := fun notWorking => absurd notWorking (by simp [working])
      ended := fun settled => absurd (sound.ended settled).1 (by simp [accepting])
      areFates := sound.areFates_concat (by decide)
      offers_eq := by
        simp only [count, count_concat, Note.kind, reduceCtorEq, if_true, if_false]
        omega
      enqueued_eq := fun _ => by
        have isPending : ({ ledger.queue with
            waiting := ledger.queue.waiting ++ [batch] } : WriteQueue).pending =
            ledger.queue.pending ++ [batch] := (List.append_assoc ..).symm
        simp only [isPending, count, count_concat, Note.kind, reduceCtorEq, if_true, if_false,
          List.length_append, List.length_singleton, balance working]
        omega }

theorem Sound.take (sound : ledger.Sound capacity) (left : Nat) (succeeds : Bool)
    (reached : ledger.step? (.take left succeeds) = some later) : later.Sound capacity := by
  rw [step?] at reached
  split at reached
  · rename_i batch rest idle isWaiting
    cases reached
    have isPending : ledger.queue.pending = batch :: rest := by
      rw [WriteQueue.pending_of_idle idle, isWaiting]
    rcases sound.busy isPending with ⟨working, notSettled⟩
    have inOrder := sound.inOrder working
    have fits := sound.fits
    rw [isWaiting] at inOrder fits
    exact {
      sound with
      fits := Nat.le_of_succ_le fits
      inOrder := fun _ => by rw [← inOrder, List.append_assoc, List.singleton_append]
      atMostOnce := by
        rw [← inOrder, List.append_cons]
        exact List.prefix_append _ _
      gone := fun notWorking => absurd notWorking (by simp [working])
      ended := fun settled => absurd settled (by simp [notSettled])
      enqueued_eq := fun _ => by
        rw [WriteQueue.pending_of_writing rfl, ← isPending]
        exact sound.enqueued_eq working }
  · cases reached

theorem Sound.wait (sound : ledger.Sound capacity) (left : Nat)
    (reached : ledger.step? (.wait left) = some later) : later.Sound capacity := by
  rw [step?, Option.map_eq_some_iff] at reached
  rcases reached with ⟨writing, isWriting, rfl⟩
  have isPending : ({ ledger.queue with
      writing := some { writing with left } } : WriteQueue).pending = ledger.queue.pending := by
    rw [WriteQueue.pending_of_writing isWriting]
    rfl
  exact {
    sound with
    gone := fun notWorking => isPending.trans (sound.gone notWorking)
    ended := fun settled => ⟨(sound.ended settled).1, isPending.trans (sound.ended settled).2⟩
    enqueued_eq := fun working => by
      rw [isPending]
      exact sound.enqueued_eq working }

theorem Sound.finish (sound : ledger.Sound capacity) (ending : Ending)
    (reached : ledger.step? (.finish ending) = some later) : later.Sound capacity := by
  rw [step?, Option.map_eq_some_iff] at reached
  rcases reached with ⟨writing, isWriting, rfl⟩
  have isPending := WriteQueue.pending_of_writing isWriting
  rcases sound.busy isPending with ⟨working, notSettled⟩
  have offers := sound.offers_eq
  have balance := sound.enqueued_eq working
  rw [isPending] at balance
  simp only [count, List.length_cons] at offers balance
  refine {
    sound with
    gone := fun notWorking => absurd notWorking (by simp [working])
    ended := fun settled => absurd settled (by simp [notSettled])
    areFates := sound.areFates_concat
      (by cases ending <;> simp [Ending.note, Note.kind, Note.fates])
    offers_eq := ?_
    enqueued_eq := fun _ => ?_ }
  · cases ending <;>
      simpa only [count, count_concat, Ending.note, Note.kind, reduceCtorEq, if_false, Nat.add_zero]
        using offers
  · rw [WriteQueue.pending_of_idle rfl]
    cases ending <;>
      simp only [count, count_concat, Ending.note, Note.kind, reduceCtorEq, if_true, if_false] <;>
      omega

theorem Sound.step (sound : ledger.Sound capacity) {move : Move}
    (reached : ledger.step? move = some later) : later.Sound capacity := by
  cases move with
  | submit batch => exact sound.submit batch reached
  | take left succeeds => exact sound.take left succeeds reached
  | wait left => exact sound.wait left reached
  | finish ending => exact sound.finish ending reached
  | collapse =>
      cases reached
      exact {
        sound with
        fits := Nat.zero_le _
        inOrder := fun working => nomatch working
        gone := fun _ => rfl
        ended := fun settled => ⟨(sound.ended settled).1, rfl⟩
        enqueued_eq := fun working => nomatch working }
  | close =>
      cases reached
      exact { sound with ended := fun settled => ⟨rfl, (sound.ended settled).2⟩ }
  | settle =>
      rw [step?] at reached
      split at reached
      · rename_i isOver
        cases reached
        exact { sound with ended := fun _ => isOver }
      · cases reached

end

theorem run?_cons (ledger : Ledger) (move : Move) (moves : List Move) :
    ledger.run? (move :: moves) = (ledger.step? move).bind (·.run? moves) :=
  List.foldlM_cons

theorem run?_cons_eq_some_iff {ledger later : Ledger} {move : Move} {moves : List Move} :
    ledger.run? (move :: moves) = some later ↔
      ∃ next, ledger.step? move = some next ∧ next.run? moves = some later := by
  rw [run?_cons, Option.bind_eq_some_iff]

theorem run?_append (ledger : Ledger) (moves others : List Move) :
    ledger.run? (moves ++ others) = (ledger.run? moves).bind (·.run? others) :=
  List.foldlM_append

theorem Sound.run {capacity : Nat} {ledger later : Ledger} {moves : List Move}
    (sound : ledger.Sound capacity) (reached : ledger.run? moves = some later) :
    later.Sound capacity := by
  induction moves generalizing ledger with
  | nil =>
      cases reached
      exact sound
  | cons move moves induction =>
      rcases run?_cons_eq_some_iff.mp reached with ⟨next, isNext, onwards⟩
      exact induction (sound.step isNext) onwards

theorem ready_start {capacity timeout : Nat} {queue : WriteQueue}
    (started : WriteQueue.start? capacity timeout = some queue) :
    queue.accepting = true ∧ queue.working = true ∧ queue.awaited = false ∧
      queue.writing = none := by
  rw [WriteQueue.start?] at started
  split at started <;> cases started
  exact ⟨rfl, rfl, rfl, rfl⟩

/-- Only the beginning of a shutdown stops the queue from accepting and has the worker awaited,
and only a collapse stops the worker. -/
theorem switches_step {ledger later : Ledger} {move : Move}
    (reached : ledger.step? move = some later) :
    (later.queue.accepting = true ↔ ledger.queue.accepting = true ∧ .close ≠ move) ∧
      (later.queue.working = true ↔ ledger.queue.working = true ∧ .collapse ≠ move) ∧
      (later.queue.awaited = true ↔ ledger.queue.awaited = true ∨ .close = move) := by
  cases move with
  | submit batch =>
      rw [step?] at reached
      rcases ledger.queue.submit_cases batch with ⟨fate, -⟩ | ⟨fate, -⟩ | ⟨fate, -⟩
      all_goals
        rw [fate] at reached
        cases reached
        simp
  | take left succeeds =>
      rw [step?] at reached
      split at reached <;> cases reached
      simp
  | wait left | finish ending =>
      rw [step?, Option.map_eq_some_iff] at reached
      rcases reached with ⟨writing, -, rfl⟩
      simp
  | collapse | close =>
      cases reached
      simp [WriteQueue.close]
  | settle =>
      rw [step?] at reached
      split at reached <;> cases reached
      simp

theorem switches_run {ledger later : Ledger} {moves : List Move}
    (reached : ledger.run? moves = some later) :
    (later.queue.accepting = true ↔ ledger.queue.accepting = true ∧ .close ∉ moves) ∧
      (later.queue.working = true ↔ ledger.queue.working = true ∧ .collapse ∉ moves) ∧
      (later.queue.awaited = true ↔ ledger.queue.awaited = true ∨ .close ∈ moves) := by
  induction moves generalizing ledger with
  | nil =>
      cases reached
      simp
  | cons move moves induction =>
      rcases run?_cons_eq_some_iff.mp reached with ⟨next, isNext, onwards⟩
      rcases induction onwards with ⟨accepting, working, awaited⟩
      rcases switches_step isNext with ⟨acceptingNext, workingNext, awaitedNext⟩
      rw [accepting, working, awaited, acceptingNext, workingNext, awaitedNext, List.mem_cons,
        not_or, List.mem_cons, not_or, and_assoc, and_assoc, or_assoc]
      exact ⟨Iff.rfl, Iff.rfl, Iff.rfl⟩

theorem settled_step {ledger later : Ledger} {move : Move}
    (settled : ledger.settled = true ∨ .settle = move) (reached : ledger.step? move = some later) :
    later.settled = true := by
  cases move with
  | submit | collapse | close =>
      cases reached
      simpa using settled
  | take =>
      rw [step?] at reached
      split at reached <;> cases reached
      simpa using settled
  | wait | finish =>
      rw [step?, Option.map_eq_some_iff] at reached
      rcases reached with ⟨writing, -, rfl⟩
      simpa using settled
  | settle =>
      rw [step?] at reached
      split at reached <;> cases reached
      rfl

theorem settled_run {ledger later : Ledger} {moves : List Move}
    (settled : ledger.settled = true ∨ .settle ∈ moves) (reached : ledger.run? moves = some later) :
    later.settled = true := by
  induction moves generalizing ledger with
  | nil =>
      cases reached
      simpa using settled
  | cons move moves induction =>
      rcases run?_cons_eq_some_iff.mp reached with ⟨next, isNext, onwards⟩
      rw [List.mem_cons] at settled
      rcases settled with settled | rfl | settles
      · exact induction (Or.inl (settled_step (Or.inl settled) isNext)) onwards
      · exact induction (Or.inl (settled_step (Or.inr rfl) isNext)) onwards
      · exact induction (Or.inr settles) onwards

/-! ## The worker -/

def Works (ledger later : Ledger) : Prop :=
  ∃ moves, (∀ move ∈ moves, move.isWork) ∧ ledger.run? moves = some later

theorem Works.refl (ledger : Ledger) : ledger.Works ledger := ⟨[], by simp, rfl⟩

theorem Works.head {ledger next later : Ledger} {move : Move} (isWork : move.isWork)
    (reached : ledger.step? move = some next) (rest : next.Works later) : ledger.Works later := by
  rcases rest with ⟨moves, areWork, reachedLast⟩
  exact ⟨move :: moves, List.forall_mem_cons.mpr ⟨isWork, areWork⟩, by
    rw [run?_cons, reached, Option.bind_some, reachedLast]⟩

theorem collapsed {ledger : Ledger} : ledger.step? .collapse = some { ledger with
    queue := { ledger.queue with waiting := [], writing := none, working := false } } := rfl

theorem step?_take {ledger : Ledger} {batch : KeyBatch} {rest : List KeyBatch}
    (idle : ledger.queue.writing = none) (isWaiting : ledger.queue.waiting = batch :: rest)
    (left : Nat) (succeeds : Bool) :
    ledger.step? (.take left succeeds) = some { ledger with
      queue := { ledger.queue with waiting := rest, writing := some ⟨batch, left, succeeds⟩ }
      started := ledger.started ++ [batch] } := by
  simp only [step?, idle, isWaiting]

theorem step?_wait {ledger : Ledger} {writing : Writing}
    (isWriting : ledger.queue.writing = some writing) (left : Nat) :
    ledger.step? (.wait left) = some { ledger with
      queue := { ledger.queue with writing := some { writing with left } } } := by
  rw [step?, isWriting]
  rfl

theorem step?_finish {ledger : Ledger} {writing : Writing}
    (isWriting : ledger.queue.writing = some writing) (ending : Ending) :
    ledger.step? (.finish ending) = some { ledger with
      queue := { ledger.queue with writing := none }
      notes := ledger.notes ++ [ending.note writing.batch] } := by
  rw [step?, isWriting]
  rfl

theorem Works.batch {ledger later : Ledger} {batch : KeyBatch} {rest : List KeyBatch}
    (idle : ledger.queue.writing = none) (isWaiting : ledger.queue.waiting = batch :: rest)
    (ending : Ending)
    (works : Works { ledger with
      queue := { ledger.queue with waiting := rest }
      notes := ledger.notes ++ [ending.note batch]
      started := ledger.started ++ [batch] } later) : ledger.Works later := by
  rcases works with ⟨moves, areWork, reached⟩
  have finished : Works { ledger with
      queue := { ledger.queue with waiting := rest, writing := some ⟨batch, 0, true⟩ }
      started := ledger.started ++ [batch] } later := by
    refine ⟨.finish ending :: moves, List.forall_mem_cons.mpr ⟨rfl, areWork⟩, ?_⟩
    simpa [run?_cons, step?, idle] using reached
  exact .head rfl (step?_take idle isWaiting 0 true) finished

theorem works_waiting (ledger : Ledger) (waiting : List KeyBatch) (endings : List Ending)
    (idle : ledger.queue.writing = none) (isWaiting : ledger.queue.waiting = waiting)
    (each : endings.length = waiting.length) :
    ledger.Works { ledger with
      queue := { ledger.queue with waiting := [] }
      notes := ledger.notes ++ List.zipWith (fun ending batch => ending.note batch) endings waiting
      started := ledger.started ++ waiting } := by
  induction waiting generalizing ledger endings with
  | nil =>
      have isSame : ({ ledger.queue with waiting := [] } : WriteQueue) = ledger.queue := by
        rw [← isWaiting]
      simpa [isSame] using Works.refl ledger
  | cons batch rest induction =>
      rcases endings with _ | ⟨ending, endings⟩
      · cases each
      · refine .batch idle isWaiting ending ?_
        simpa using induction { ledger with
          queue := { ledger.queue with waiting := rest }
          notes := ledger.notes ++ [ending.note batch]
          started := ledger.started ++ [batch] } endings idle rfl (Nat.succ.inj each)

/-- The worker gets through the batch that is being written and through all that wait, whatever
becomes of them. -/
theorem works_pending (ledger : Ledger) {endings : List Ending}
    (each : endings.length = ledger.queue.pending.length) :
    ledger.Works { ledger with
      queue := { ledger.queue with waiting := [], writing := none }
      notes := ledger.notes ++
        List.zipWith (fun ending batch => ending.note batch) endings ledger.queue.pending
      started := ledger.started ++ ledger.queue.waiting } := by
  rw [WriteQueue.pending] at each ⊢
  rcases isWriting : ledger.queue.writing with _ | writing
  · rw [isWriting] at each
    have works := works_waiting ledger _ endings isWriting rfl (by simpa using each)
    simpa [isWriting] using works
  · rw [isWriting] at each
    rcases endings with _ | ⟨ending, endings⟩
    · cases each
    · refine .head rfl (step?_finish isWriting ending) ?_
      have works := works_waiting { ledger with
          queue := { ledger.queue with writing := none }
          notes := ledger.notes ++ [ending.note writing.batch] }
        _ endings rfl rfl (by simpa using each)
      simpa using works

/-! ## The queue that runs with a clock -/

section

variable {κ : Type} {writer : Writer κ} {first cache later : κ} {ledger : Ledger}
  {batch : KeyBatch} {rest : List KeyBatch}

/-- A cache is what the batches that the worker is done with make of it, handed over one after the
other, and the notes tell what became of each. The one that is being written will be done with as
foreseen. -/
def Fills (writer : Writer κ) (first : κ) (ledger : Ledger) (cache : κ) : Prop :=
  ∃ past, ledger.started = past ++ (ledger.queue.writing.map (·.batch)).toList ∧
    writer.handAll ledger.queue.timeout first past =
      (cache, ledger.notes.filter Note.endsWrite) ∧
    ∀ writing, ledger.queue.writing = some writing →
      writer.handOver ledger.queue.timeout cache writing.batch =
        (WriteQueue.conclude writer writing.batch writing.succeeds cache).map id some

theorem fills_start {queue : WriteQueue} (idle : queue.writing = none) :
    (start queue).Fills writer first first :=
  ⟨[], by simp [start, idle], rfl, fun writing isWriting => nomatch idle.symm.trans isWriting⟩

theorem Fills.submitted {next : Ledger} (fills : ledger.Fills writer first cache)
    (reached : ledger.step? (.submit batch) = some next) : next.Fills writer first cache := by
  rw [step?] at reached
  rcases ledger.queue.submit_cases batch with ⟨fate, -⟩ | ⟨fate, -⟩ | ⟨fate, -⟩
  all_goals
    rw [fate] at reached
    cases reached
    simpa [Fills, Note.endsWrite] using fills

theorem Fills.taken (fills : ledger.Fills writer first cache)
    (idle : ledger.queue.writing = none) (left : Nat) {succeeds : Bool}
    (handed : writer.handOver ledger.queue.timeout cache batch =
      (WriteQueue.conclude writer batch succeeds cache).map id some) :
    Fills writer first { ledger with
      queue := { ledger.queue with waiting := rest, writing := some ⟨batch, left, succeeds⟩ }
      started := ledger.started ++ [batch] } cache := by
  rcases fills with ⟨past, isStarted, isFilled, -⟩
  refine ⟨past, by simp [isStarted, idle], isFilled, fun writing isWriting => ?_⟩
  cases isWriting
  exact handed

theorem Fills.waited {writing : Writing} (fills : ledger.Fills writer first cache)
    (isWriting : ledger.queue.writing = some writing) (left : Nat) :
    Fills writer first { ledger with
      queue := { ledger.queue with writing := some { writing with left } } } cache := by
  rcases fills with ⟨past, isStarted, isFilled, foreseen⟩
  refine ⟨past, by rw [isStarted, isWriting]; rfl, isFilled, fun other isOther => ?_⟩
  cases isOther
  exact foreseen writing isWriting

theorem Fills.finished {writing : Writing} (fills : ledger.Fills writer first cache)
    (isWriting : ledger.queue.writing = some writing) {ending : Ending}
    (handed : writer.handOver ledger.queue.timeout cache writing.batch =
      (later, some (ending.note writing.batch))) :
    Fills writer first { ledger with
      queue := { ledger.queue with writing := none }
      notes := ledger.notes ++ [ending.note writing.batch] } later := by
  rcases fills with ⟨past, isStarted, isFilled, -⟩
  refine ⟨past ++ [writing.batch], ?_, ?_, by simp⟩
  · simpa [isWriting] using isStarted
  · rw [Writer.handAll_concat isFilled handed]
    simp [Ending.endsWrite_note]

theorem Fills.done (fills : ledger.Fills writer first cache)
    (idle : ledger.queue.writing = none) {ending : Ending}
    (handed : writer.handOver ledger.queue.timeout cache batch =
      (later, some (ending.note batch))) :
    Fills writer first { ledger with
      queue := { ledger.queue with waiting := rest }
      notes := ledger.notes ++ [ending.note batch]
      started := ledger.started ++ [batch] } later := by
  rcases fills with ⟨past, isStarted, isFilled, -⟩
  refine ⟨past ++ [batch], by simp [isStarted, idle], ?_, by simp [idle]⟩
  rw [Writer.handAll_concat isFilled handed]
  simp [Ending.endsWrite_note]

theorem Fills.fatal (fills : ledger.Fills writer first cache)
    (idle : ledger.queue.writing = none)
    (handed : writer.handOver ledger.queue.timeout cache batch = (cache, none)) :
    Fills writer first { ledger with
      queue := { ledger.queue with waiting := [], writing := none, working := false }
      started := ledger.started ++ [batch] } cache := by
  rcases fills with ⟨past, isStarted, isFilled, -⟩
  refine ⟨past ++ [batch], by simp [isStarted, idle], ?_, by simp⟩
  rw [Writer.handAll_concat isFilled handed]
  simp

end

section

variable {κ : Type} (writer : Writer κ) {first : κ}

def Follows (first : κ) (ledger : Ledger) (progress : WriteQueue.Progress κ)
    (noted : List Note) : Prop :=
  ∃ later news, ledger.Works later ∧ later.queue = progress.queue ∧
    later.notes = ledger.notes ++ news ∧ progress.notes = noted ++ news ∧
    later.Fills writer first progress.cache

variable {writer} in
theorem Follows.head {ledger next : Ledger} {progress : WriteQueue.Progress κ} {noted : List Note}
    {note : Note} (noting : next.notes = ledger.notes ++ [note])
    (works : ∀ later, next.Works later → ledger.Works later)
    (follows : next.Follows writer first progress (noted ++ [note])) :
    ledger.Follows writer first progress noted := by
  rcases follows with ⟨later, news, worked, isQueue, isNoted, areNotes, fills⟩
  exact ⟨later, note :: news, works later worked, isQueue, by rw [isNoted, noting]; simp,
    by rw [areNotes]; simp, fills⟩

theorem follows_drain (queue : WriteQueue) (waiting : List KeyBatch) (ledger : Ledger)
    (isQueue : ledger.queue = { queue with waiting, writing := none }) (budget : Option Nat)
    (cache : κ) (fills : ledger.Fills writer first cache) (noted : List Note) :
    ledger.Follows writer first (WriteQueue.drain writer queue budget waiting cache noted)
      noted := by
  induction waiting generalizing ledger budget cache noted with
  | nil =>
      exact ⟨ledger, [], .refl ledger, isQueue, by simp, by simp [WriteQueue.drain], fills⟩
  | cons batch rest induction =>
      have idle : ledger.queue.writing = none := by rw [isQueue]
      have isWaiting : ledger.queue.waiting = batch :: rest := by rw [isQueue]
      have isTimeout : queue.timeout = ledger.queue.timeout := by rw [isQueue]
      -- The worker writes the batch and goes on with the rest.
      have goesOn (ending : Ending) (budget : Option Nat) {later : κ}
          (handed : writer.handOver queue.timeout cache batch =
            (later, some (ending.note batch))) :
          ledger.Follows writer first (WriteQueue.drain writer queue budget rest later
            (noted ++ [ending.note batch])) noted := by
        rw [isTimeout] at handed
        refine .head rfl (fun _ => Works.batch idle isWaiting ending)
          (induction _ ?_ budget later (fills.done idle handed) _)
        rw [isQueue]
      -- The time is up before the batch is written.
      have stays (left : Nat) {succeeds : Bool}
          (handed : writer.handOver queue.timeout cache batch =
            (WriteQueue.conclude writer batch succeeds cache).map id some) :
          ledger.Follows writer first ⟨{ queue with
            waiting := rest, writing := some ⟨batch, left, succeeds⟩ }, cache, noted⟩ noted := by
        rw [isTimeout] at handed
        refine ⟨_, [], .head rfl (step?_take idle isWaiting left succeeds) (.refl _), ?_, by simp,
          by simp, fills.taken idle left handed⟩
        rw [isQueue]
      rw [WriteQueue.drain]
      rcases tried : writer.start cache batch with ⟨_ | _, later⟩ | span | _ | _
      · refine goesOn .refused budget ?_
        rw [Writer.handOver, tried]
        rfl
      · refine goesOn .written budget ?_
        rw [Writer.handOver, tried]
        rfl
      · dsimp only
        split
        · rename_i inTime
          have handed : writer.handOver queue.timeout cache batch =
              (WriteQueue.conclude writer batch true cache).map id some := by
            simp [Writer.handOver, tried, inTime]
          rcases WriteQueue.spend? budget span with _ | left
          · exact stays _ handed
          · exact goesOn .written left handed
        · rename_i late
          have handed : writer.handOver queue.timeout cache batch =
              (WriteQueue.conclude writer batch false cache).map id some := by
            simp [Writer.handOver, tried, late]
          rcases WriteQueue.spend? budget queue.timeout with _ | left
          · exact stays _ handed
          · exact goesOn .timedOut left handed
      · have handed : writer.handOver queue.timeout cache batch =
            (WriteQueue.conclude writer batch false cache).map id some := by
          rw [Writer.handOver, tried]
        dsimp only
        rcases WriteQueue.spend? budget queue.timeout with _ | left
        · exact stays _ handed
        · exact goesOn .timedOut left handed
      · have handed : writer.handOver ledger.queue.timeout cache batch = (cache, none) := by
          rw [Writer.handOver, tried]
        refine ⟨_, [], .head rfl (step?_take idle isWaiting 0 true)
          (.head rfl collapsed (.refl _)), ?_, by simp, by simp, fills.fatal idle handed⟩
        simp [isQueue]

theorem follows_run (ledger : Ledger) (budget : Option Nat) (cache : κ)
    (fills : ledger.Fills writer first cache) :
    ledger.Follows writer first (WriteQueue.run writer ledger.queue budget cache) [] := by
  rw [WriteQueue.run]
  rcases isWriting : ledger.queue.writing with _ | writing
  · refine follows_drain writer _ _ ledger ?_ budget cache fills []
    rw [← isWriting]
  · -- The write under way ends first, if there is time for that.
    have ⟨_, _, _, foreseen⟩ := fills
    have handed := foreseen writing isWriting
    have goesOn (ending : Ending) (budget : Option Nat) {later : κ}
        (handed : writer.handOver ledger.queue.timeout cache writing.batch =
          (later, some (ending.note writing.batch))) :
        ledger.Follows writer first (WriteQueue.drain writer ledger.queue budget
          ledger.queue.waiting later [ending.note writing.batch]) [] :=
      .head rfl (fun _ => .head rfl (step?_finish isWriting ending))
        (follows_drain writer _ _ _ rfl budget later (fills.finished isWriting handed)
          ([] ++ [ending.note writing.batch]))
    dsimp only
    rcases WriteQueue.spend? budget writing.left with _ | left
    · have waited := step?_wait isWriting (WriteQueue.leftAfter budget writing.left)
      exact ⟨_, [], .head rfl waited (.refl _), rfl, by simp, rfl, fills.waited isWriting _⟩
    · cases succeeds : writing.succeeds with
      | true =>
          rw [succeeds] at handed
          exact goesOn .written left handed
      | false =>
          rw [succeeds] at handed
          exact goesOn .timedOut left handed

/-- Without a limit of time nothing is left to do, unless the worker was brought down before. -/
theorem pending_drain (queue : WriteQueue) (waiting : List KeyBatch) (cache : κ)
    (noted : List Note) :
    (WriteQueue.drain writer queue none waiting cache noted).queue.pending = [] := by
  induction waiting generalizing cache noted with
  | nil => rfl
  | cons batch rest induction =>
      rw [WriteQueue.drain]
      rcases writer.start cache batch with ⟨_ | _, cache⟩ | span | _ | _
      · exact induction ..
      · exact induction ..
      · dsimp only
        split <;> exact induction ..
      · exact induction ..
      · rfl

theorem pending_run (queue : WriteQueue) (cache : κ) :
    (WriteQueue.run writer queue none cache).queue.pending = [] := by
  rw [WriteQueue.run]
  split <;> exact pending_drain ..

structure At (first : κ) (ledger : Ledger) (station : Station κ) : Prop where
  queue_eq : station.queue = some ledger.queue
  notes_eq : station.notes = ledger.notes
  fills : ledger.Fills writer first station.cache

variable {writer} in
theorem Follows.accept {ledger : Ledger} {progress : WriteQueue.Progress κ}
    (follows : ledger.Follows writer first progress []) {station : Station κ}
    (noted : station.notes = ledger.notes) :
    ∃ later, ledger.Works later ∧ later.At writer first (station.accept progress) := by
  rcases follows with ⟨later, news, works, isQueue, isNoted, areNotes, fills⟩
  refine ⟨later, works, congrArg some isQueue.symm, ?_, fills⟩
  rw [Station.accept, noted, isNoted, areNotes, List.nil_append]

theorem shutdown_eq_self {station : Station κ} {queue : WriteQueue}
    (isQueue : station.queue = some queue) (closed : queue.accepting = false)
    (awaited : queue.awaited = true) : station.shutdown writer = station := by
  have same : queue.close.2 = queue := by rw [WriteQueue.close, ← closed, ← awaited]
  rcases station with ⟨cache, _, notes⟩
  cases isQueue
  simp [Station.shutdown, WriteQueue.shutdown_of_awaited awaited, Station.accept, same]

/-- The steps that a program takes with some uses offer the same batches, and a shutdown begins with
them if it does with the uses. -/
structure Reflect (moves : List Move) (uses : List Use) : Prop where
  offers : moves.filterMap Move.offered? = uses.filterMap Use.offered?
  closes : .close ∈ moves ↔ ∃ use ∈ uses, use.isShutdown

theorem Reflect.append {moves others : List Move} {uses later : List Use}
    (first : Reflect moves uses) (second : Reflect others later) :
    Reflect (moves ++ others) (uses ++ later) where
  offers := by rw [List.filterMap_append, List.filterMap_append, first.offers, second.offers]
  closes := by
    rw [List.mem_append, first.closes, second.closes]
    simp only [List.mem_append, or_and_right, exists_or]

theorem reflect_of_work {moves : List Move} (areWork : ∀ move ∈ moves, move.isWork) :
    Reflect moves [] where
  offers := by
    apply List.filterMap_eq_nil_iff.mpr
    intro move isMove
    cases move with
    | submit batch => cases areWork _ isMove
    | _ => rfl
  closes := ⟨fun isMove => (Bool.false_ne_true (areWork _ isMove)).elim, by simp⟩

theorem exists_run_of_use {ledger : Ledger} {station : Station κ}
    (isAt : ledger.At writer first station) (use : Use) :
    ∃ moves later, ledger.run? moves = some later ∧ later.At writer first (station.use writer use) ∧
      Reflect moves [use] ∧ (use = .stop → ledger.queue.awaited = false → .settle ∈ moves) := by
  have ⟨isQueue, areNotes, fills⟩ := isAt
  have closed : ledger.step? .close = some { ledger with queue := ledger.queue.close.2 } := rfl
  cases use with
  | offer batch =>
      have offered : station.use writer (.offer batch) = ⟨station.cache,
          some (ledger.queue.submit batch).2,
          ledger.notes ++ [(ledger.queue.submit batch).1]⟩ := by
        simp only [Station.use, Station.offer, isQueue, Station.note, areNotes]
      rw [offered]
      exact ⟨[.submit batch], _, rfl, ⟨rfl, rfl, fills.submitted rfl⟩,
        ⟨rfl, by simp [Use.isShutdown]⟩, by simp⟩
  | pass milliseconds =>
      rcases (follows_run writer ledger (some milliseconds) station.cache fills).accept areNotes
        with ⟨later, ⟨moves, areWork, reached⟩, isLater⟩
      have works := reflect_of_work areWork
      refine ⟨moves, later, reached, ?_, ⟨works.offers, works.closes.trans ?_⟩, by simp⟩
      · simpa only [Station.use, Station.advance, isQueue, WriteQueue.advance] using isLater
      · simp [Use.isShutdown]
  | close =>
      refine ⟨[.close], _, by rw [run?_cons, closed]; rfl, ?_, ⟨rfl, by simp [Use.isShutdown]⟩,
        by simp⟩
      rw [Station.use, Station.close, isQueue]
      exact ⟨rfl, areNotes, fills⟩
  | stop =>
      cases isAwaited : ledger.queue.awaited with
      | true =>
          -- The shutdown finds another one under way.
          refine ⟨[.close], _, by rw [run?_cons, closed]; rfl, ?_, ⟨rfl, by simp [Use.isShutdown]⟩,
            by simp⟩
          have offHand := WriteQueue.shutdown_of_awaited isAwaited writer station.cache
          simp only [Station.use, Station.shutdown, isQueue, offHand, Station.accept,
            List.append_nil]
          exact ⟨rfl, areNotes, fills⟩
      | false =>
          rcases (follows_run writer { ledger with queue := ledger.queue.close.2 } none
            station.cache fills).accept areNotes with ⟨later, ⟨moves, areWork, reached⟩, isLater⟩
          have isOver : later.queue.accepting = false ∧ later.queue.pending = [] := by
            have isQueue := isLater.queue_eq
            rw [Station.accept, Option.some.injEq] at isQueue
            rw [← isQueue]
            exact ⟨(WriteQueue.switches_of_run writer _ none station.cache).1,
              pending_run writer _ station.cache⟩
          have settles : later.step? .settle = some { later with settled := true } := if_pos isOver
          have works := reflect_of_work areWork
          refine ⟨.close :: moves ++ [.settle], { later with settled := true }, ?_, ?_, ?_,
            fun _ _ => List.mem_concat_self ..⟩
          · rw [run?_append, run?_cons, closed, Option.bind_some, reached, Option.bind_some,
              run?_cons, settles]
            rfl
          · have waits := WriteQueue.shutdown_of_not_awaited isAwaited writer station.cache
            simp only [Station.use, Station.shutdown, isQueue, waits]
            exact ⟨isLater.queue_eq, isLater.notes_eq, isLater.fills⟩
          · exact ⟨by simp [List.filterMap_cons, works.offers, Move.offered?, Use.offered?],
              by simp [Use.isShutdown]⟩

/-- Whatever a program does with a station from the start, it takes steps that could be taken. The
first shutdown, if nothing else happens meanwhile, is over in the end. -/
theorem exists_run_of_uses {queue : WriteQueue} (idle : queue.writing = none)
    (fresh : queue.awaited = false) (cache : κ) (uses : List Use) :
    ∃ moves ledger, (start queue).run? moves = some ledger ∧
      ledger.At writer cache (uses.foldl (Station.use writer) ⟨cache, some queue, []⟩) ∧
      Reflect moves uses ∧ (uses.find? Use.isShutdown = some .stop → .settle ∈ moves) := by
  induction uses using List.reverseRecOn with
  | nil =>
      exact ⟨[], start queue, rfl, ⟨rfl, rfl, fills_start idle⟩, ⟨rfl, by simp⟩, by simp⟩
  | append_singleton uses use induction =>
      rcases induction with ⟨moves, ledger, reached, isAt, reflect, settles⟩
      rcases exists_run_of_use writer isAt use with
        ⟨others, later, reachedLast, isLast, reflectLast, settlesLast⟩
      refine ⟨moves ++ others, later, ?_, ?_, reflect.append reflectLast, fun isStop => ?_⟩
      · rw [run?_append, reached, Option.bind_some, reachedLast]
      · rw [List.foldl_concat]
        exact isLast
      · rw [List.find?_append] at isStop
        cases found : uses.find? Use.isShutdown with
        | some earlier =>
            rw [found, Option.some_or] at isStop
            exact List.mem_append_left _ (settles (found.trans isStop))
        | none =>
            rw [found, Option.none_or] at isStop
            have isLast := List.mem_singleton.mp (List.mem_of_find?_eq_some isStop)
            have notClosed : .close ∉ moves := fun isMove =>
              have ⟨other, isUse, isShutdown⟩ := reflect.closes.mp isMove
              List.find?_eq_none.mp found other isUse isShutdown
            have notAwaited : ledger.queue.awaited = false := by
              apply Bool.of_not_eq_true
              rw [(switches_run reached).2.2, start, fresh]
              simp [notClosed]
            exact List.mem_append_right _ (settlesLast isLast.symm notAwaited)

variable {writer} in
theorem working_use (lasts : writer.NeverFatal) (use : Use) {station : Station κ}
    {queue : WriteQueue} (isQueue : station.queue = some queue) (working : queue.working = true) :
    ∃ later, (station.use writer use).queue = some later ∧ later.working = true := by
  cases use with
  | offer batch =>
      have offered : (station.use writer (.offer batch)).queue = some (queue.submit batch).2 := by
        rw [Station.use, Station.offer, isQueue]
        rfl
      rw [offered]
      rcases queue.submit_cases batch with ⟨fate, -⟩ | ⟨fate, -⟩ | ⟨fate, -⟩
      all_goals
        rw [fate]
        exact ⟨_, rfl, working⟩
  | pass milliseconds =>
      rw [Station.use, Station.advance, isQueue]
      exact ⟨_, rfl, (WriteQueue.working_run _ lasts ..).trans working⟩
  | close =>
      rw [Station.use, Station.close, isQueue]
      exact ⟨_, rfl, working⟩
  | stop =>
      rw [Station.use, Station.shutdown, isQueue]
      cases isAwaited : queue.awaited with
      | true =>
          refine ⟨_, rfl, ?_⟩
          rw [WriteQueue.shutdown_of_awaited isAwaited]
          exact working
      | false =>
          refine ⟨_, rfl, ?_⟩
          rw [WriteQueue.shutdown_of_not_awaited isAwaited]
          exact (WriteQueue.working_run _ lasts ..).trans working

variable {writer} in
theorem working_uses (lasts : writer.NeverFatal) (uses : List Use) (station : Station κ)
    {queue : WriteQueue} (isQueue : station.queue = some queue) (working : queue.working = true) :
    ∃ later, (uses.foldl (Station.use writer) station).queue = some later ∧
      later.working = true := by
  induction uses generalizing station queue with
  | nil => exact ⟨queue, isQueue, working⟩
  | cons use uses induction =>
      rcases working_use lasts use isQueue working with ⟨next, isNext, stillWorking⟩
      exact induction _ isNext stillWorking

end

/-! ## The account -/

/-- In whatever order producers, the worker and the end of the program meet at a queue, and
whatever becomes of the writes: the worker begins to write the accepted batches only, each at most
once and in the order of acceptance. No more batches wait than the queue is meant for, and one is
not accepted only if as many wait, if a shutdown has begun, or if the worker was brought down; once
a shutdown has begun, none is accepted. Unless the worker was brought down, no batch is lost: all
that were accepted have been begun when the shutdown that waits for the worker is over, and the
worker can get through the rest at any moment, whatever becomes of each. The counters account for
every offer and for every accepted batch.

All that a program can do with a station consists of such steps, and the cache is what the begun
batches make of it that are done with, in this order and each handed over once. A writer that is
never fatal does not bring down the worker. A shutdown that comes first and runs to its end is one
that waits for the worker; one that finds another begun is over at once and changes nothing. -/
theorem batches_accounted {capacity timeout : Nat} {queue : WriteQueue}
    (started : WriteQueue.start? capacity timeout = some queue) :
    (∀ moves ledger, (start queue).run? moves = some ledger →
      ledger.started <+: ledger.accepted ∧
      ledger.queue.waiting.length ≤ max capacity 1 ∧
      (∀ batch, (ledger.queue.submit batch).1 ≠ .enqueued →
        ledger.queue.waiting.length = max capacity 1 ∨ .close ∈ moves ∨ .collapse ∈ moves) ∧
      (.close ∈ moves →
        ∀ batch, ledger.queue.submit batch = (.droppedClosed, ledger.queue)) ∧
      ledger.offers = Tally.total ledger.notes Note.enqueued.counter +
        Tally.total ledger.notes Note.droppedFull.counter +
        Tally.total ledger.notes Note.droppedClosed.counter ∧
      (.collapse ∉ moves →
        ledger.started ++ ledger.queue.waiting = ledger.accepted ∧
        (.settle ∈ moves → ledger.started = ledger.accepted ∧ ledger.queue.writing = none) ∧
        (∀ endings : List Ending, endings.length = ledger.queue.pending.length →
          ∃ later, ledger.Works later ∧ later.started = ledger.accepted ∧
            later.queue.pending = [] ∧
            later.notes = ledger.notes ++
              List.zipWith (fun ending batch => ending.note batch) endings ledger.queue.pending) ∧
        Tally.total ledger.notes Note.enqueued.counter =
          Tally.total ledger.notes (Note.completed 0).counter +
            Tally.total ledger.notes Note.refused.counter +
            Tally.total ledger.notes Note.timedOut.counter +
            ledger.queue.waiting.length + ledger.queue.writing.toList.length)) ∧
    ∀ (κ : Type) (writer : Writer κ) (cache : κ) (uses : List Use),
      let station := uses.foldl (Station.use writer) ⟨cache, some queue, []⟩
      (∃ moves ledger, (start queue).run? moves = some ledger ∧
        ledger.At writer cache station ∧ Reflect moves uses ∧
        (uses.find? Use.isShutdown = some .stop → .settle ∈ moves) ∧
        (writer.NeverFatal → .collapse ∉ moves)) ∧
      ((∃ use ∈ uses, use.isShutdown) → station.shutdown writer = station) := by
  rcases ready_start started with ⟨acceptingFirst, workingFirst, freshFirst, idleFirst⟩
  refine ⟨fun moves ledger reached => ?_, fun κ writer cache uses => ?_⟩
  · have sound := (sound_start started).run reached
    rcases switches_run reached with ⟨accepting_iff, working_iff, -⟩
    have isTotal {fate : Note} (isFate : fate ∈ Note.fates) :
        Tally.total ledger.notes fate.counter = ledger.count fate :=
      Tally.total_eq_count_kind sound.areFates isFate
    rw [isTotal (show Note.enqueued ∈ Note.fates by decide),
      isTotal (show Note.droppedFull ∈ Note.fates by decide),
      isTotal (show Note.droppedClosed ∈ Note.fates by decide),
      isTotal (show Note.completed 0 ∈ Note.fates by decide),
      isTotal (show Note.refused ∈ Note.fates by decide),
      isTotal (show Note.timedOut ∈ Note.fates by decide)]
    refine ⟨sound.atMostOnce, sound.fits, fun batch notAccepted => ?_, fun closes batch => ?_,
      sound.offers_eq, fun neverDown => ?_⟩
    · rcases ledger.queue.submit_cases batch with ⟨-, closed⟩ | ⟨-, -, -, full⟩ | ⟨fate, -⟩
      · rcases closed with notAccepting | notWorking
        · refine Or.inr (Or.inl (by_contra fun notClosed => ?_))
          rw [accepting_iff.mpr ⟨acceptingFirst, notClosed⟩] at notAccepting
          cases notAccepting
        · refine Or.inr (Or.inr (by_contra fun neverDown => ?_))
          rw [working_iff.mpr ⟨workingFirst, neverDown⟩] at notWorking
          cases notWorking
      · rw [sound.capacity_eq] at full
        exact Or.inl (Nat.le_antisymm sound.fits full)
      · exact absurd (by rw [fate]) notAccepted
    · have notAccepting := Bool.of_not_eq_true fun accepts => (accepting_iff.mp accepts).2 closes
      simp [WriteQueue.submit, notAccepting]
    · have working : ledger.queue.working = true := working_iff.mpr ⟨workingFirst, neverDown⟩
      have inOrder := sound.inOrder working
      refine ⟨inOrder, fun settles => ?_, fun endings each => ?_, ?_⟩
      · have isOver := (sound.ended (settled_run (Or.inr settles) reached)).2
        rw [WriteQueue.pending_eq_nil_iff] at isOver
        rw [isOver.1, List.append_nil] at inOrder
        exact ⟨inOrder, isOver.2⟩
      · exact ⟨_, works_pending ledger each, inOrder, rfl, rfl⟩
      · rw [sound.enqueued_eq working, WriteQueue.length_pending]
        omega
  · rcases exists_run_of_uses writer idleFirst freshFirst cache uses with
      ⟨moves, ledger, reached, isAt, reflect, settles⟩
    rcases switches_run reached with ⟨accepting_iff, working_iff, awaited_iff⟩
    refine ⟨⟨moves, ledger, reached, isAt, reflect, settles, fun lasts => ?_⟩, fun isClosed => ?_⟩
    · rcases working_uses lasts uses ⟨cache, some queue, []⟩ rfl workingFirst with
        ⟨later, isLater, working⟩
      rw [isAt.queue_eq, Option.some.injEq] at isLater
      rw [← isLater] at working
      exact (working_iff.mp working).2
    · have closes := reflect.closes.mpr isClosed
      exact shutdown_eq_self writer isAt.queue_eq
        (Bool.of_not_eq_true fun accepts => (accepting_iff.mp accepts).2 closes)
        (awaited_iff.mpr (Or.inr closes))

/-- A queue for one batch that sees three: the first one times out, the second one is refused when
the shutdown has begun already, and for the third one there is no room. -/
def crowdedMoves (first second third : KeyBatch) : List Move :=
  [.submit first, .take 50 false, .submit second, .submit third, .finish .timedOut, .close,
    .take 0 true, .finish .refused, .settle]

theorem batches_accounted_crowded :
    ∃ ledger, ((WriteQueue.start? 0 50).map start).bind
        (·.run? (crowdedMoves [("a", .user)] [("b", .staff)] [("c", .admin)])) = some ledger ∧
      ledger.started = [[("a", .user)], [("b", .staff)]] ∧
      ∀ batch, (ledger.queue.submit batch).1 = .droppedClosed := by
  rcases reached : (start ⟨1, 50, [], none, true, true, false⟩).run?
    (crowdedMoves [("a", .user)] [("b", .staff)] [("c", .admin)]) with _ | ledger
  · cases reached
  · have started : WriteQueue.start? 0 50 = some ⟨1, 50, [], none, true, true, false⟩ := by decide
    rcases (batches_accounted started).1 _ _ reached with ⟨-, -, -, afterwards, -, account⟩
    have begun := ((account (by decide)).2.1 (by decide)).1
    refine ⟨ledger, by rw [started]; exact reached, ?_, fun batch => by
      rw [afterwards (by decide) batch]⟩
    rw [begun]
    cases reached
    rfl

/-- Two batches that were accepted wait when a program shuts its station down. If the worker is
brought down by the first one, the second one is never written, and neither is counted as written
or failed. If another shutdown has begun, this one is over although both still wait. -/
theorem batches_left_by_shutdown :
    let queue : WriteQueue := ⟨4, 50, [], none, true, true, false⟩
    let offers : List Use := [.offer [("a", .user)], .offer [("b", .staff)]]
    let down := offers.foldl (Station.use Memory.writer)
      ⟨⟨[], .fatal⟩, WriteQueue.start? 4 50, []⟩
    let raced := (offers ++ [Use.close]).foldl (Station.use Memory.writer)
      ⟨Memory.empty, WriteQueue.start? 4 50, []⟩
    WriteQueue.start? 4 50 = some queue ∧
      (down.shutdown Memory.writer).notes = [.enqueued, .enqueued] ∧
      (down.shutdown Memory.writer).queue = some ⟨4, 50, [], none, false, false, true⟩ ∧
      (raced.shutdown Memory.writer).cache.entries = [] ∧
      (raced.shutdown Memory.writer).queue.map (·.waiting) =
        some [[("a", .user)], [("b", .staff)]] := by
  decide +kernel

end Ledger
end Cache
end Entitlement
