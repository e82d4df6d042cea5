import Entitlement.Call
import Entitlement.Decision

/-! # Backends

What the services work with: the store that the current unit of work is bound to,
the users, the cache of role keys, a clock and a source of identifiers. The
services are written once, for every backend. -/

namespace Entitlement

universe u

/-- New entries of the cache of role keys: identifiers of roles, as texts, with the
keys of the roles. No identifier occurs twice. -/
abbrev KeyBatch := List (String × RoleKey)

def KeyBatch.put (entries : KeyBatch) (entry : String × RoleKey) : KeyBatch :=
  if entries.any (·.1 == entry.1) then
    entries.map fun present => if present.1 == entry.1 then entry else present
  else
    entries ++ [entry]

structure Backend (m : Type → Type u) where
  enter : Area → m Unit
  call : {α : Type} → Call α → m α
  now : m Instant
  freshUuid : m Uuid
  userByUuid : String → m User
  cachedKey : String → m (Option RoleKey)
  offerKeys : KeyBatch → m Unit
  countDecision : Decision → m Unit

end Entitlement
