import Entitlement.Proofs.Populating

/-! # What becomes of a cache in memory

Nobody but the worker of the queue writes to a cache, and the worker writes nothing but batches
that were accepted. So whatever the batches on their way leave true of the cache stays true,
whether they are dropped, given up or written. -/

namespace Entitlement

/-! ## Entries -/

namespace KeyBatch

theorem lookup_replace (entries : KeyBatch) (uuid : String) (key : RoleKey) (text : String) :
    List.lookup text (entries.map fun old => if old.1 = uuid then (uuid, key) else old) =
      if text = uuid then (entries.lookup uuid).map fun _ => key else entries.lookup text := by
  induction entries with
  | nil => simp
  | cons head tail induction =>
      rcases head with ⟨name, old⟩
      rw [List.map_cons]
      by_cases replaced : name = uuid
      · subst replaced
        by_cases wanted : text = name
        · simp [wanted]
        · have different : (text == name) = false := beq_false_of_ne wanted
          simp [List.lookup_cons, different, induction, wanted]
      · have kept : (uuid == name) = false := beq_false_of_ne (Ne.symm replaced)
        by_cases wanted : text = uuid
        · subst wanted
          simp [List.lookup_cons, kept, induction, replaced]
        · simp [List.lookup_cons, induction, replaced, wanted]

theorem lookup_put (entries : KeyBatch) (uuid : String) (key : RoleKey) (text : String) :
    List.lookup text (entries.put (uuid, key)) =
      if text = uuid then some key else entries.lookup text := by
  have isThere : entries.any (·.1 == uuid) = (entries.lookup uuid).isSome := by
    rw [Bool.eq_iff_iff, List.lookup_isSome_iff, List.any_eq_true]
    simp only [Bool.beq_comm]
  simp only [put, isThere, beq_iff_eq]
  cases found : entries.lookup uuid with
  | some old =>
      rw [Option.isSome_some, if_pos rfl, lookup_replace, found]
      rfl
  | none =>
      rw [Option.isSome_none, if_neg Bool.false_ne_true, List.lookup_append]
      by_cases wanted : text = uuid
      · simp [wanted, found]
      · simp [List.lookup_cons, beq_false_of_ne wanted, wanted]

end KeyBatch

namespace Cache

namespace Memory

theorem get?_put (cache : Memory) (uuid : String) (key : RoleKey) (text : String) :
    (cache.put uuid key).get? text = if text = uuid then some key else cache.get? text :=
  KeyBatch.lookup_put cache.entries uuid key text

@[simp] theorem mode_putAll (cache : Memory) (batch : KeyBatch) :
    (cache.putAll batch).mode = cache.mode := by
  induction batch generalizing cache with
  | nil => rfl
  | cons entry batch induction => exact induction (cache.put entry.1 entry.2)

theorem get?_putAll (cache : Memory) (batch : KeyBatch) (text : String) :
    (cache.putAll batch).get? text = cache.get? text ∨
      ∃ key, (text, key) ∈ batch ∧ (cache.putAll batch).get? text = some key := by
  induction batch generalizing cache with
  | nil => exact Or.inl rfl
  | cons entry batch induction =>
      rcases induction (cache.put entry.1 entry.2) with same | ⟨key, member, isPut⟩
      · rw [get?_put] at same
        by_cases equal : text = entry.1
        · rw [if_pos equal] at same
          exact Or.inr ⟨entry.2, by rw [equal]; exact List.mem_cons_self, same⟩
        · rw [if_neg equal] at same
          exact Or.inl same
      · exact Or.inr ⟨key, List.mem_cons_of_mem _ member, isPut⟩

end Memory

/-! ## Stations -/

structure Station.Holds (ofCache : Memory → Prop) (ofBatch : KeyBatch → Prop)
    (station : Station Memory) : Prop where
  cache : ofCache station.cache
  pending : ∀ queue ∈ station.queue, ∀ batch ∈ queue.pending, ofBatch batch

structure WriteQueue.Progress.Holds (ofCache : Memory → Prop) (ofBatch : KeyBatch → Prop)
    (progress : WriteQueue.Progress Memory) : Prop where
  cache : ofCache progress.cache
  pending : ∀ batch ∈ progress.queue.pending, ofBatch batch

variable {ofCache : Memory → Prop} {ofBatch : KeyBatch → Prop}

def WriteQueue.spendOn {κ : Type} (writer : Writer κ) (queue : WriteQueue) (budget : Option Nat)
    (batch : KeyBatch) (rest : List KeyBatch) (cache : κ) (notes : List Note) (span : Nat)
    (succeeds : Bool) : Progress κ :=
  match spend? budget span with
  | some budget =>
      drain writer queue budget rest (conclude writer batch succeeds cache).1
        (notes ++ [(conclude writer batch succeeds cache).2])
  | none =>
      ⟨{ queue with
          waiting := rest
          writing := some ⟨batch, leftAfter budget span, succeeds⟩ }, cache, notes⟩

section

variable (writes : ∀ cache batch, ofCache cache → ofBatch batch → ofCache (cache.putAll batch))

include writes

theorem WriteQueue.holds_drain (queue : WriteQueue) (budget : Option Nat)
    (waiting : List KeyBatch) (cache : Memory) (notes : List Note) (holds : ofCache cache)
    (each : ∀ batch ∈ waiting, ofBatch batch) :
    (drain Memory.writer queue budget waiting cache notes).Holds ofCache ofBatch := by
  induction waiting generalizing budget cache notes with
  | nil => exact ⟨holds, by simp [drain, pending]⟩
  | cons batch rest induction =>
      have here := each batch List.mem_cons_self
      have later := fun other member => each other (List.mem_cons_of_mem batch member)
      have written := writes cache batch holds here
      -- A write that takes its time ends within the budget, or is still going on.
      have lasting : ∀ span succeeds,
          (spendOn Memory.writer queue budget batch rest cache notes span succeeds).Holds ofCache
            ofBatch := by
        intro span succeeds
        rw [spendOn]
        split
        · cases succeeds with
          | true => exact induction _ _ _ written later
          | false => exact induction _ _ _ holds later
        · refine ⟨holds, fun other member => ?_⟩
          rcases List.mem_cons.mp member with rfl | member
          · exact here
          · exact later other member
      cases mode : cache.mode with
      | sound =>
          rw [drain]
          simp only [Memory.writer, mode]
          exact induction _ _ _ written later
      | broken | readOnly =>
          rw [drain]
          simp only [Memory.writer, mode]
          exact induction _ _ _ holds later
      | slow milliseconds =>
          rw [drain]
          simp only [Memory.writer, mode]
          split
          · exact lasting milliseconds true
          · exact lasting queue.timeout false
      | hanging =>
          rw [drain]
          simp only [Memory.writer, mode]
          exact lasting queue.timeout false
      | fatal =>
          rw [drain]
          simp only [Memory.writer, mode]
          exact ⟨holds, by simp [pending]⟩

theorem WriteQueue.holds_run (queue : WriteQueue) (budget : Option Nat) (cache : Memory)
    (holds : ofCache cache) (each : ∀ batch ∈ queue.pending, ofBatch batch) :
    (run Memory.writer queue budget cache).Holds ofCache ofBatch := by
  rw [run]
  cases isWriting : queue.writing with
  | none =>
      rw [pending_of_idle isWriting] at each
      exact holds_drain writes queue budget _ cache [] holds each
  | some writing =>
      rw [pending_of_writing isWriting] at each
      have here := each writing.batch List.mem_cons_self
      have later := fun batch member => each batch (List.mem_cons_of_mem writing.batch member)
      dsimp only
      split
      · cases succeeds : writing.succeeds with
        | true => exact holds_drain writes queue _ _ _ _ (writes cache _ holds here) later
        | false => exact holds_drain writes queue _ _ _ _ holds later
      · refine ⟨holds, fun batch member => ?_⟩
        rcases List.mem_cons.mp member with rfl | member
        · exact here
        · exact later batch member

theorem Station.Holds.advance {station : Station Memory} (holds : station.Holds ofCache ofBatch)
    (milliseconds : Nat) : (station.advance Memory.writer milliseconds).Holds ofCache ofBatch := by
  rw [Station.advance]
  cases isQueue : station.queue with
  | none => exact holds
  | some queue =>
      have ran := WriteQueue.holds_run writes queue (some milliseconds) station.cache holds.cache
        (holds.pending queue isQueue)
      exact ⟨ran.cache, fun other equal => Option.some.inj equal ▸ ran.pending⟩

theorem Station.Holds.shutdown {station : Station Memory} (holds : station.Holds ofCache ofBatch) :
    (station.shutdown Memory.writer).Holds ofCache ofBatch := by
  rw [Station.shutdown]
  cases isQueue : station.queue with
  | none => exact holds
  | some queue =>
      have ended : (queue.shutdown Memory.writer station.cache).Holds ofCache ofBatch := by
        cases isAwaited : queue.awaited with
        | true =>
            rw [WriteQueue.shutdown_of_awaited isAwaited]
            exact ⟨holds.cache, holds.pending queue isQueue⟩
        | false =>
            rw [WriteQueue.shutdown_of_not_awaited isAwaited]
            exact WriteQueue.holds_run writes queue.close.2 none station.cache holds.cache
              (holds.pending queue isQueue)
      exact ⟨ended.cache, fun other equal => Option.some.inj equal ▸ ended.pending⟩

end

theorem Station.Holds.offer {station : Station Memory} (holds : station.Holds ofCache ofBatch)
    {batch : KeyBatch} (offered : ofBatch batch) :
    (station.offer batch).2.Holds ofCache ofBatch := by
  rw [Station.offer]
  cases isQueue : station.queue with
  | none => exact holds
  | some queue =>
      have before := holds.pending queue isQueue
      have after : ∀ other ∈ (queue.submit batch).2.pending, ofBatch other := by
        intro other member
        rcases queue.submit_cases batch with
          ⟨dropped, -⟩ | ⟨dropped, -, -, -⟩ | ⟨accepted, -, -, -⟩
        · rw [dropped] at member
          exact before other member
        · rw [dropped] at member
          exact before other member
        · rw [accepted] at member
          have member : other ∈ queue.pending ++ [batch] := by
            simpa [WriteQueue.pending] using member
          rcases List.mem_append.mp member with old | isNew
          · exact before other old
          · rw [List.mem_singleton.mp isNew]
            exact offered
      exact ⟨holds.cache, fun other equal => Option.some.inj equal ▸ after⟩

theorem Station.Holds.note {station : Station Memory} (holds : station.Holds ofCache ofBatch)
    (entry : Note) : (station.note entry).Holds ofCache ofBatch :=
  ⟨holds.cache, holds.pending⟩

end Cache
end Entitlement
