import Entitlement.World

/-! # Services at work on a copy

The tables that an active unit works on are the state that a service sees: where no operation is
made to fail, entering an area changes nothing and a call does what it does to the working
copy. -/

namespace Entitlement

open Store

/-! ## New rows -/

namespace Store.Workspace

def stamped (workspace : Workspace) : Workspace :=
  { workspace with supply := workspace.supply.readClock.2.makeUuid.2 }

def addRole (workspace : Workspace) (role : Role) : Workspace :=
  ⟨{ workspace.tables with
      roles := workspace.tables.roles ++ [{ role with id := workspace.supply.takeId.1 }] },
    workspace.supply.takeId.2⟩

end Store.Workspace

/-! ## Calls at a desk -/

namespace Desk

def working (surroundings : Surroundings) (base : Tables) (workspace : Workspace) : Desk :=
  ⟨.active ⟨base, workspace.tables⟩, { surroundings with supply := workspace.supply }⟩

theorem outcome_enter_working {β : Type} (surroundings : Surroundings) (base : Tables)
    (workspace : Workspace) (area : Area) (next : Unit → Action Desk β) :
    (backend.enter area >>= next).outcome (working surroundings base workspace) =
      (next ()).outcome (working surroundings base workspace) := by
  rw [Action.outcome_bind]
  rfl

section

variable {surroundings : Surroundings} (healthy : surroundings.failing = []) (base : Tables)

include healthy

theorem outcome_call_working {α : Type} (call : Call α) (workspace : Workspace) :
    (backend.call call).outcome (working surroundings base workspace) =
      (((Workspace.perform call).outcome workspace).1,
        working surroundings base ((Workspace.perform call).outcome workspace).2) := by
  have passes : (working surroundings base workspace).surroundings.check call.operation =
      .ok () := by
    simp [working, Surroundings.check, healthy]
  change (within call.operation (Workspace.perform call)).outcome _ = _
  rw [within, Action.outcome_ofOutcome, passes]
  rfl

theorem outcome_call_working_of_ok {α β : Type} {call : Call α} {workspace later : Workspace}
    {answer : α} (answered : (Workspace.perform call).outcome workspace = (.ok answer, later))
    (next : α → Action Desk β) :
    (backend.call call >>= next).outcome (working surroundings base workspace) =
      (next answer).outcome (working surroundings base later) := by
  rw [Action.outcome_bind, outcome_call_working healthy, answered]

theorem outcome_call_working_of_error {α β : Type} {call : Call α}
    {workspace later : Workspace} {fault : Fault}
    (refused : (Workspace.perform call).outcome workspace = (.error fault, later))
    (next : α → Action Desk β) :
    (backend.call call >>= next).outcome (working surroundings base workspace) =
      (.error fault, working surroundings base later) := by
  rw [Action.outcome_bind, outcome_call_working healthy, refused]

theorem outcome_createRole_working {workspace : Workspace} {role : Role}
    (unused : workspace.tables.keyInUse role.key none = false) :
    (backend.call (.createRole role)).outcome (working surroundings base workspace) =
      (.ok { role with id := workspace.supply.takeId.1 },
        working surroundings base (workspace.addRole role)) := by
  rw [outcome_call_working healthy]
  change (((Workspace.createRole role).outcome workspace).1, working _ _
    ((Workspace.createRole role).outcome workspace).2) = _
  rw [Workspace.createRole, Action.outcome_ofOutcome, unused]
  rfl

end

end Desk

/-- Of the roles, one is deleted; of the permissions, one is deleted but still attached to a role.
User 7 holds a role and a permission, and another permission was revoked. -/
def Store.Workspace.staffed : Workspace :=
  let role (id : Nat) (key : RoleKey) : Role :=
    { Role.fresh key.name key (.ofNat id) ⟨0, 0⟩ with id := id }
  let permission (id : Nat) (key : PermissionKey) : Permission :=
    { Permission.fresh key.name key (.ofNat id) ⟨0, 0⟩ with id := id }
  ⟨{ roles := [role 1 .staff, role 2 .sales, { role 3 .admin with deletedAt := some ⟨1, 0⟩ },
      role 4 .user]
     permissions := [permission 5 .readUser, permission 6 .readRole,
      { permission 7 .readPermission with deletedAt := some ⟨1, 0⟩ }, permission 8 .createUser]
     attachments := [⟨1, 6⟩, ⟨1, 7⟩, ⟨2, 5⟩, ⟨2, 6⟩, ⟨3, 8⟩]
     grants := [⟨9, 7, some 1, none, ⟨0, 0⟩, none⟩, ⟨10, 7, none, some 5, ⟨0, 0⟩, none⟩,
      ⟨11, 7, none, some 8, ⟨0, 0⟩, some ⟨1, 0⟩⟩, ⟨12, 8, some 2, none, ⟨0, 0⟩, none⟩] },
    ⟨12, ⟨fun reading => ⟨reading, 0⟩, 2, fun made => .ofNat made, 0⟩⟩⟩

end Entitlement
