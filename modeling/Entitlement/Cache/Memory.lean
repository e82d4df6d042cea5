import Entitlement.Action
import Entitlement.Backend

/-! # The cache of role keys in memory

The cache remembers the keys of default roles. It can be told to misbehave: to
refuse reading or writing, to take its time over a write, never to finish one, or to
bring down whoever writes. -/

namespace Entitlement.Cache

inductive Mode where
  | sound
  | broken
  | readOnly
  /-- Takes some milliseconds over each write. -/
  | slow (milliseconds : Nat)
  | hanging
  | fatal
deriving DecidableEq

structure Memory where
  entries : KeyBatch
  mode : Mode
deriving DecidableEq

namespace Memory

def empty : Memory := ⟨[], .sound⟩

def get? (cache : Memory) (uuid : String) : Option RoleKey :=
  cache.entries.lookup uuid

def put (cache : Memory) (uuid : String) (key : RoleKey) : Memory :=
  { cache with entries := KeyBatch.put cache.entries (uuid, key) }

def putAll (cache : Memory) (batch : KeyBatch) : Memory :=
  batch.foldl (fun cache entry => cache.put entry.1 entry.2) cache

def read (cache : Memory) (uuid : String) : Except Fault (Option RoleKey) :=
  match cache.mode with
  | .broken => .error Operation.readCache.failure
  | _ => .ok (cache.get? uuid)

end Memory
end Entitlement.Cache
