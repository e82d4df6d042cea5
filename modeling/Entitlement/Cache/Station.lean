import Entitlement.Cache.WriteQueue

/-! # A cache and its queue

A cache stands behind a queue that fills it, if there is one, and what happens there is
noted down together with the decisions of access checks. -/

namespace Entitlement.Cache

structure Station (κ : Type) where
  cache : κ
  queue : Option WriteQueue
  notes : List Note

namespace Station

variable {κ : Type}

def note (station : Station κ) (entry : Note) : Station κ :=
  { station with notes := station.notes ++ [entry] }

def offer (station : Station κ) (batch : KeyBatch) : Bool × Station κ :=
  match station.queue with
  | none => (false, station)
  | some queue =>
      let (fate, queue) := queue.submit batch
      (fate = .enqueued, { station with queue := some queue }.note fate)

def accept (station : Station κ) (progress : WriteQueue.Progress κ) : Station κ where
  cache := progress.cache
  queue := some progress.queue
  notes := station.notes ++ progress.notes

def advance (writer : Writer κ) (station : Station κ) (milliseconds : Nat) : Station κ :=
  match station.queue with
  | none => station
  | some queue => station.accept (queue.advance writer milliseconds station.cache)

def close (station : Station κ) : Bool × Station κ :=
  match station.queue with
  | none => (false, station)
  | some queue => (queue.close.1, { station with queue := some queue.close.2 })

def shutdown (writer : Writer κ) (station : Station κ) : Station κ :=
  match station.queue with
  | none => station
  | some queue => station.accept (queue.shutdown writer station.cache)

end Station
end Entitlement.Cache
