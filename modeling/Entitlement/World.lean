import Entitlement.Cache.Station
import Entitlement.Service.Access
import Entitlement.Service.Seeding
import Entitlement.Store.Workspace

/-! # Units of work in memory

Any number of units of work share one store. A unit that begins takes a copy of the
store and works on the copy; committing merges its changes into the store, rolling
back forgets them. What units share besides the store never differs between them: the
supply of numbers, the users, and the cache of role keys. -/

namespace Entitlement

open Store Cache

/-! ## Parts of the world -/

/-- The two copies that an active unit keeps: the store as it was at the beginning, and
the tables that the unit works on. -/
structure Draft where
  base : Tables
  work : Tables
deriving DecidableEq

inductive Phase where
  | idle
  | active (draft : Draft)
  | finalized
deriving DecidableEq

structure Surroundings where
  supply : Supply
  failing : List String
  users : List User
  station : Station Memory

structure Desk where
  phase : Phase
  surroundings : Surroundings

structure World where
  committed : Tables
  units : List (String × Phase)
  surroundings : Surroundings

/-! ## Surroundings -/

namespace Surroundings

def check (surroundings : Surroundings) (operation : Operation) : Except Fault Unit :=
  if surroundings.failing.contains operation.name then .error operation.failure else .ok ()

def userByUuid (surroundings : Surroundings) (text : String) : Except Fault User :=
  match Uuid.read text with
  | .error misspelling => .error (.invalidBody "user_uuid" misspelling.message)
  | .ok uuid =>
      match surroundings.users.find? (·.uuid = uuid) with
      | some user => .ok user
      | none => .error (.notFound "user" uuid.text)

def insertUser (surroundings : Surroundings) (user : User) : Surroundings :=
  { surroundings with users := upsert (·.uuid) user surroundings.users }

def disable (surroundings : Surroundings) (operation : String) : Surroundings :=
  { surroundings with failing := operation :: surroundings.failing }

def enableAll (surroundings : Surroundings) : Surroundings :=
  { surroundings with failing := [] }

def offerKeys (surroundings : Surroundings) (batch : KeyBatch) : Bool × Surroundings :=
  let (accepted, station) := surroundings.station.offer batch
  (accepted, { surroundings with station })

def advance (surroundings : Surroundings) (milliseconds : Nat) : Surroundings :=
  { surroundings with station := surroundings.station.advance Memory.writer milliseconds }

def shutdown (surroundings : Surroundings) : Surroundings :=
  { surroundings with station := surroundings.station.shutdown Memory.writer }

end Surroundings

/-! ## One unit -/

namespace Desk

open Entitlement.Action

def within {α : Type} (operation : Operation) (action : Action Workspace α) : Action Desk α :=
  ofOutcome fun desk =>
    match desk.surroundings.check operation, desk.phase with
    | .error fault, _ => (.error fault, desk)
    | .ok (), .active draft =>
        let (result, workspace) := action.outcome ⟨draft.work, desk.surroundings.supply⟩
        (result, {
          phase := .active { draft with work := workspace.tables }
          surroundings := { desk.surroundings with supply := workspace.supply } })
    | .ok (), _ => (.error operation.failure, desk)

def enter (area : Area) : Action Desk Unit :=
  reading fun desk =>
    match desk.phase with
    | .active _ => .ok ()
    | _ => .error (Operation.enter area).failure

def backend : Backend (Action Desk) where
  enter := enter
  call call := within call.operation (Workspace.perform call)
  now := ofOutcome fun desk =>
    let (now, supply) := desk.surroundings.supply.readClock
    (.ok now, { desk with surroundings := { desk.surroundings with supply } })
  freshUuid := ofOutcome fun desk =>
    let (uuid, supply) := desk.surroundings.supply.makeUuid
    (.ok uuid, { desk with surroundings := { desk.surroundings with supply } })
  userByUuid text := reading fun desk => desk.surroundings.userByUuid text
  cachedKey uuid := reading fun desk => desk.surroundings.station.cache.read uuid
  offerKeys batch := ofOutcome fun desk =>
    (.ok (), { desk with surroundings := (desk.surroundings.offerKeys batch).2 })
  countDecision decision := ofOutcome fun desk =>
    (.ok (), { desk with surroundings := { desk.surroundings with
      station := desk.surroundings.station.note (.decided decision) } })

end Desk

/-! ## All units -/

namespace World

def phaseOf (world : World) (unitName : String) : Phase :=
  (world.units.lookup unitName).getD .idle

def setPhase (world : World) (unitName : String) (phase : Phase) : World :=
  { world with units := upsert (·.1) (unitName, phase) world.units }

def atDesk {α : Type} (unitName : String) (action : Action Desk α) : Action World α :=
  Action.ofOutcome fun world =>
    let (result, desk) := action.outcome ⟨world.phaseOf unitName, world.surroundings⟩
    (result, { world.setPhase unitName desk.phase with surroundings := desk.surroundings })

def begin (unitName : String) : Action World Unit :=
  Action.ofOutcome fun world =>
    match world.surroundings.check .begin, world.phaseOf unitName with
    | .error fault, _ => (.error fault, world)
    | .ok (), .idle =>
        (.ok (), world.setPhase unitName (.active ⟨world.committed, world.committed⟩))
    | .ok (), _ => (.error Operation.begin.failure, world)

def finalize (unitName : String) (operation : Operation) : Action World Draft :=
  Action.ofOutcome fun world =>
    match world.surroundings.check operation, world.phaseOf unitName with
    | .error fault, _ => (.error fault, world)
    | .ok (), .active draft => (.ok draft, world.setPhase unitName .finalized)
    | .ok (), _ => (.error operation.failure, world)

def publish (tables : Tables) : Action World Unit :=
  Action.ofOutcome fun world =>
    match Tables.repeatedKey? [] tables.roles with
    | some key => (.error (.roleExists key.name), world)
    | none => (.ok (), { world with committed := tables })

def commit (unitName : String) : Action World Unit := do
  let draft ← finalize unitName .commit
  let world ← get
  publish (world.committed.merge draft.base draft.work)

def rollback (unitName : String) : Action World Unit := do
  let _ ← finalize unitName .rollback

def insertRole (role : Role) (world : World) : Role × World :=
  let supply := world.surroundings.supply
  let (id, supply) := if role.id = 0 then supply.takeId else (role.id, supply.keepId role.id)
  let stored := { role with id }
  (stored, { world with
    committed := { world.committed with roles := world.committed.roles ++ [stored] }
    surroundings := { world.surroundings with supply } })

def insertPermission (permission : Permission) (world : World) : Permission × World :=
  let supply := world.surroundings.supply
  let (id, supply) :=
    if permission.id = 0 then supply.takeId else (permission.id, supply.keepId permission.id)
  let stored := { permission with id }
  (stored, { world with
    committed := { world.committed with
      permissions := world.committed.permissions ++ [stored] }
    surroundings := { world.surroundings with supply } })

end World
end Entitlement
