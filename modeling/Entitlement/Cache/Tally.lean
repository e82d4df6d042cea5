import Entitlement.Decision
import Entitlement.Json.Basic

/-! # What is counted

Decisions and the fates of cache batches are noted one by one; counts are taken over
the notes. -/

namespace Entitlement

inductive Note where
  | enqueued
  | droppedFull
  | droppedClosed
  | completed (size : Nat)
  | refused
  | timedOut
  | decided (decision : Decision)
deriving DecidableEq

def Note.counter : Note → String
  | enqueued => "wd_role_cache_population_enqueued_total"
  | droppedFull => "wd_role_cache_population_dropped_total\x7breason=queue_full\x7d"
  | droppedClosed => "wd_role_cache_population_dropped_total\x7breason=closed\x7d"
  | completed _ => "wd_role_cache_population_completed_total"
  | refused => "wd_role_cache_population_failed_total\x7breason=error\x7d"
  | timedOut => "wd_role_cache_population_failed_total\x7breason=timeout\x7d"
  | decided decision => "wd_access_decisions_total\x7boutcome=" ++ decision.outcome ++ "\x7d"

def Note.writtenSize? : Note → Option Nat
  | completed size => some size
  | _ => none

namespace Tally

def counters (notes : List Note) : List (String × Nat) :=
  let names := notes.map (·.counter)
  names.eraseDups.map fun name => (name, names.count name)

def writtenSizes (notes : List Note) : List Nat :=
  notes.filterMap (·.writtenSize?)

/-- The JSON form of the counts: the counters, the sizes of the batches that were
written, and how many of them were timed, which is all of them. -/
def toJson (notes : List Note) : Json :=
  let sizes := writtenSizes notes
  .object [
    ("counters", .object ((counters notes).map fun (name, count) => (name, Json.integer count))),
    ("entries", .list (sizes.map fun (size : Nat) => Json.integer size)),
    ("durations", .integer sizes.length)]

end Tally
end Entitlement
