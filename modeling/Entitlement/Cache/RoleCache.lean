import Entitlement.Cache.Remote

/-! # Either kind of cache

An installation keeps role keys on a server, or in memory if it is told to do without
one. -/

namespace Entitlement.Cache

inductive RoleCache where
  | memory (cache : Memory)
  | remote (cache : Remote)

namespace RoleCache

def read (uuid : String) : Action RoleCache (Option RoleKey) :=
  Action.ofOutcome fun
    | .memory cache => (cache.read uuid, .memory cache)
    | .remote cache =>
        let (result, cache) := (Remote.read uuid).outcome cache
        (result, .remote cache)

def liftAttempt {κ : Type} (kind : κ → RoleCache) : Attempt κ → Attempt RoleCache
  | .over outcome cache => .over outcome (kind cache)
  | .lasts milliseconds => .lasts milliseconds
  | .endless => .endless
  | .fatal => .fatal

def writer : Writer RoleCache where
  start
    | .memory cache, batch => liftAttempt .memory (Memory.writer.start cache batch)
    | .remote cache, batch => liftAttempt .remote (Remote.writer.start cache batch)
  finish
    | .memory cache, batch => .memory (Memory.writer.finish cache batch)
    | .remote cache, batch => .remote (Remote.writer.finish cache batch)

end RoleCache
end Entitlement.Cache
