import Entitlement.Proofs.Holdings
import Entitlement.Proofs.Integrity
import Entitlement.Service.Access

/-! # What an access check decides

In an active unit of work in which nothing is made to fail, the check of an active user
always ends in a decision, and the decision follows from what the user holds in the working
copy. -/

namespace Entitlement

open Store Service

/-! ## Calls that only read -/

namespace Surroundings

theorem check_of_failing {surroundings : Surroundings} {operation : Operation}
    (fails : operation.name ∈ surroundings.failing) :
    surroundings.check operation = .error operation.failure := by
  simp [check, fails]

theorem check_of_not_failing {surroundings : Surroundings} {operation : Operation}
    (able : operation.name ∉ surroundings.failing) : surroundings.check operation = .ok () := by
  simp [check, able]

theorem check_of_able {surroundings : Surroundings} (able : surroundings.failing = [])
    (operation : Operation) : surroundings.check operation = .ok () :=
  check_of_not_failing (by simp [able])

end Surroundings

namespace Desk

/-- A call that only reads is answered from the working copy and changes nothing, as long as it
is not made to fail itself. -/
theorem outcome_call_of_passes {α : Type} {desk : Desk} {draft : Draft} (call : Call α)
    (active : desk.phase = .active draft)
    (passes : desk.surroundings.check call.operation = .ok ())
    (read : Workspace → Except Fault α) (reads : Workspace.perform call = Action.reading read) :
    (backend.call call).outcome desk = (read ⟨draft.work, desk.surroundings.supply⟩, desk) := by
  rcases desk with ⟨phase, surroundings⟩
  subst active
  change (within call.operation (Workspace.perform call)).outcome _ = _
  simp only [within, Action.outcome_ofOutcome, passes, reads, Action.outcome_reading]

section

variable {desk : Desk} {draft : Draft} (active : desk.phase = .active draft) (userId : Int)

include active

theorem outcome_roleKeysOf (passes : desk.surroundings.check .roleKeysOf = .ok ()) :
    (backend.call (.roleKeysOf userId)).outcome desk = (.ok (draft.work.roleKeysOf userId), desk) :=
  outcome_call_of_passes (.roleKeysOf userId) active passes
    (fun copy => .ok (copy.tables.roleKeysOf userId)) rfl

theorem outcome_permissionKeysOf (passes : desk.surroundings.check .permissionKeysOf = .ok ()) :
    (backend.call (.permissionKeysOf userId)).outcome desk =
      (.ok (draft.work.permissionKeysOf userId), desk) :=
  outcome_call_of_passes (.permissionKeysOf userId) active passes
    (fun copy => .ok (copy.tables.permissionKeysOf userId)) rfl

end

@[simp] theorem outcome_enter_of_active {desk : Desk} {draft : Draft}
    (active : desk.phase = .active draft) (area : Area) :
    (backend.enter area).outcome desk = (.ok (), desk) := by
  change (enter area).outcome desk = _
  simp only [enter, Action.outcome_reading, active]

theorem outcome_userByUuid (desk : Desk) (text : String) :
    (backend.userByUuid text).outcome desk = (desk.surroundings.userByUuid text, desk) := rfl

theorem outcome_activeUser {desk : Desk} {text : String} {user : User}
    (known : desk.surroundings.userByUuid text = .ok user) (isActive : user.status = .active) :
    (activeUser backend text).outcome desk = (.ok user, desk) := by
  have passes : user.status.requireActive user.uuid = .ok () := by
    rw [isActive]
    rfl
  simp only [activeUser, Action.outcome_bind, outcome_userByUuid, known, Action.outcome_ofExcept,
    passes, Action.outcome_pure]

/-- The decision follows from the role keys and the permission keys of the user in the
working copy. The permission keys are not asked for if the role keys settle it. -/
theorem outcome_checkAccess_of_passes {desk : Desk} {draft : Draft} {text : String} {user : User}
    (active : desk.phase = .active draft)
    (known : desk.surroundings.userByUuid text = .ok user) (isActive : user.status = .active)
    (passesRoles : desk.surroundings.check .roleKeysOf = .ok ())
    (passesPermissions : .superAdmin ∉ draft.work.roleKeysOf user.id →
      desk.surroundings.check .permissionKeysOf = .ok ())
    (required : List PermissionKey) :
    ((checkAccess backend text required).outcome desk).1 =
      .ok (if (draft.work.roleKeysOf user.id).contains .superAdmin then
          .granted user.id .superAdmin
        else Service.decide user.id required (draft.work.permissionKeysOf user.id)) := by
  have counted : ∀ decision, ((do
      backend.countDecision decision
      return decision : Action Desk Decision).outcome desk).1 = .ok decision := fun _ => rfl
  simp only [checkAccess, Action.outcome_bind, outcome_activeUser known isActive,
    outcome_enter_of_active active, outcome_roleKeysOf active user.id passesRoles]
  split
  · exact counted _
  · rename_i restricted
    have passes := passesPermissions (by simpa using restricted)
    simp only [Action.outcome_bind, outcome_enter_of_active active,
      outcome_permissionKeysOf active user.id passes]
    exact counted _

theorem outcome_checkAccess {desk : Desk} {draft : Draft} {text : String} {user : User}
    (active : desk.phase = .active draft) (able : desk.surroundings.failing = [])
    (known : desk.surroundings.userByUuid text = .ok user) (isActive : user.status = .active)
    (required : List PermissionKey) :
    ((checkAccess backend text required).outcome desk).1 =
      .ok (if (draft.work.roleKeysOf user.id).contains .superAdmin then
          .granted user.id .superAdmin
        else Service.decide user.id required (draft.work.permissionKeysOf user.id)) :=
  outcome_checkAccess_of_passes active known isActive (Surroundings.check_of_able able _)
    (fun _ => Surroundings.check_of_able able _) required

end Desk

/-! ## The decision -/

/-- A decision by permissions says that nothing is required, that a required permission is
held, or that neither is the case. -/
theorem Service.decide_cases (userId : Int) (required effective : List PermissionKey) :
    (Service.decide userId required effective = .granted userId .noneSentinel ∧
        PermissionKey.none ∈ required) ∨
      (Service.decide userId required effective = .granted userId .permission ∧
        ∃ key ∈ required, key ∈ effective) ∨
      (Service.decide userId required effective = .denied ∧
        PermissionKey.none ∉ required ∧ ¬ ∃ key ∈ required, key ∈ effective) := by
  by_cases unrestricted : PermissionKey.none ∈ required
  · exact Or.inl ⟨by simp [Service.decide, unrestricted], unrestricted⟩
  · by_cases shared : ∃ key ∈ required, key ∈ effective
    · exact Or.inr (Or.inl ⟨by simp [Service.decide, unrestricted, shared], shared⟩)
    · refine Or.inr (Or.inr ⟨?_, unrestricted, shared⟩)
      simp only [Service.decide, List.contains_iff_mem, unrestricted, if_false, List.any_eq_true,
        shared]

/-- An access check of an active user, in an active unit in which nothing is made to fail,
always ends in a decision. Access is granted to that user if what the user holds in the
working copy allows it, and denied otherwise; the role that allows everything is given as
the reason exactly if the user holds it. That numbers are distinct in the working copy
follows for every run from `World.Reachable.orderly`. -/
theorem checkAccess_decides {world : World} {unitName text : String} {draft : Draft}
    {user : User} (active : world.phaseOf unitName = .active draft)
    (able : world.surroundings.failing = []) (distinct : draft.work.IdsDistinct)
    (known : world.surroundings.userByUuid text = .ok user) (isActive : user.status = .active)
    (required : List PermissionKey) :
    ∃ decision,
      ((World.atDesk unitName (checkAccess Desk.backend text required)).outcome world).1 =
          .ok decision ∧
        ((∃ reason, decision = .granted user.id reason) ↔ draft.work.Allows user.id required) ∧
        (decision = .denied ↔ ¬ draft.work.Allows user.id required) ∧
        (decision.reason? = some .superAdmin ↔ draft.work.IsSuperAdmin user.id) := by
  let desk : Desk := ⟨world.phaseOf unitName, world.surroundings⟩
  have atDesk : ((World.atDesk unitName (checkAccess Desk.backend text required)).outcome world).1 =
      ((checkAccess Desk.backend text required).outcome desk).1 := rfl
  rw [atDesk, Desk.outcome_checkAccess active able known isActive]
  refine ⟨_, rfl, ?_⟩
  have superAdminIff : RoleKey.superAdmin ∈ draft.work.roleKeysOf user.id ↔
      draft.work.IsSuperAdmin user.id :=
    Tables.mem_roleKeysOf_iff distinct user.id .superAdmin
  have sharedIff : (∃ key ∈ required, key ∈ draft.work.permissionKeysOf user.id) ↔
      ∃ permission, draft.work.HoldsPermission user.id permission ∧
        permission.key ∈ required := by
    simp only [Tables.mem_permissionKeysOf_iff distinct]
    constructor
    · intro given
      rcases given with ⟨_, needed, permission, held, rfl⟩
      exact ⟨permission, held, needed⟩
    · intro given
      rcases given with ⟨permission, held, needed⟩
      exact ⟨permission.key, needed, permission, held, rfl⟩
  rw [Tables.Allows, ← superAdminIff, ← sharedIff]
  by_cases superAdmin : RoleKey.superAdmin ∈ draft.work.roleKeysOf user.id
  · simp [superAdmin, Decision.reason?]
  · rcases Service.decide_cases user.id required (draft.work.permissionKeysOf user.id) with
      ⟨equal, unrestricted⟩ | ⟨equal, shared⟩ | ⟨equal, restricted, unshared⟩
    · simp [superAdmin, equal, unrestricted, Decision.reason?]
    · simp [superAdmin, equal, shared, Decision.reason?]
    · simp [superAdmin, equal, restricted, unshared, Decision.reason?]

theorem checkAccess_overlapped :
    ∃ draft, World.overlapped.phaseOf "first" = .active draft ∧
      ((World.atDesk "first" (checkAccess Desk.backend "00000000-0000-0000-0000-000000000009"
        [.readRole])).outcome World.overlapped).1 = .ok (.granted 7 .permission) ∧
      draft.work.Allows 7 [.readRole] := by
  have active : ∃ draft, World.overlapped.phaseOf "first" = .active draft := ⟨_, rfl⟩
  rcases active with ⟨draft, active⟩
  have inOrder := World.reachable_overlapped.orderly _ (World.work_mem_copies active)
  have known : World.overlapped.surroundings.userByUuid "00000000-0000-0000-0000-000000000009" =
      .ok ⟨7, .ofNat 9, .active⟩ := by rfl
  have decided : ((World.atDesk "first" (checkAccess Desk.backend
      "00000000-0000-0000-0000-000000000009" [.readRole])).outcome World.overlapped).1 =
        .ok (.granted 7 .permission) := by rfl
  rcases checkAccess_decides active rfl inOrder.distinct.toIdsDistinct known rfl [.readRole] with
    ⟨decision, equal, grants, -⟩
  cases decided.symm.trans equal
  exact ⟨draft, active, decided, grants.mp ⟨.permission, rfl⟩⟩

end Entitlement
