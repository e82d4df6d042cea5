import Entitlement.Proofs.Access
import Entitlement.Proofs.WorkingCopies

/-! # Views of what a user holds

The permissions of a user are collected in one place, and those of a role are looked up in
another. Collecting goes by numbers, while a role is looked up by its identifier: the two agree
about a user as long as the identifier of each role that the user holds leads to that role. The
check of access and the list of a user's permissions are two views of one collection, so they
always agree. -/

namespace Entitlement

open Store Service

namespace Store.Tables

/-! ## Holding directly or through a role -/

def HoldsDirectly (tables : Tables) (userId : Int) (permission : Permission) : Prop :=
  permission ∈ tables.permissions ∧ permission.isLive ∧
    ∃ grant ∈ tables.grants, grant.userId = userId ∧ grant.isLive ∧
      grant.permissionId = some permission.id

def LeadsToRolesOf (tables : Tables) (userId : Int) : Prop :=
  ∀ role, tables.HoldsRole userId role → tables.roleByUuid? role.uuid = some role

theorem holdsPermission_iff {tables : Tables} (distinct : tables.IdsDistinct) (userId : Int)
    (permission : Permission) :
    tables.HoldsPermission userId permission ↔
      (∃ role, tables.HoldsRole userId role ∧ permission ∈ tables.permissionsOfRole role.id) ∨
        tables.HoldsDirectly userId permission := by
  simp only [mem_permissionsOfRole_iff distinct]
  constructor
  · intro holds
    rcases holds with ⟨present, live, direct | ⟨role, holdsRole, attached⟩⟩
    · exact Or.inr ⟨present, live, direct⟩
    · exact Or.inl ⟨role, holdsRole, present, live, attached⟩
  · intro way
    rcases way with ⟨role, holdsRole, present, live, attached⟩ | ⟨present, live, direct⟩
    · exact ⟨present, live, Or.inr ⟨role, holdsRole, attached⟩⟩
    · exact ⟨present, live, Or.inl direct⟩

def bundle (tables : Tables) (role : Role) : RoleWithPermissions :=
  ⟨role, (tables.permissionsOfRole role.id).mergeSort fun left right => left.id ≤ right.id⟩

theorem mem_bundle (tables : Tables) (role : Role) (permission : Permission) :
    permission ∈ (tables.bundle role).permissions ↔
      permission ∈ tables.permissionsOfRole role.id :=
  List.mem_mergeSort

end Store.Tables

/-! ## The calls -/

namespace Desk

section

variable {desk : Desk} {draft : Draft} (active : desk.phase = .active draft)
  (able : desk.surroundings.failing = [])

include active able

theorem outcome_roleWithPermissions {role : Role}
    (leads : draft.work.roleByUuid? role.uuid = some role) :
    (backend.call (.roleWithPermissions role.uuid)).outcome desk =
      (.ok (draft.work.bundle role), desk) := by
  rw [outcome_call_of_passes (.roleWithPermissions role.uuid) active
    (Surroundings.check_of_able able _) _ rfl]
  simp only [Tables.roleWithPermissions?, leads, Option.map_some]
  rfl

theorem outcome_effectivePermissions {text : String} {user : User}
    (known : desk.surroundings.userByUuid text = .ok user) (isActive : user.status = .active) :
    (effectivePermissions backend text).outcome desk =
      (.ok (draft.work.permissionKeysOf user.id), desk) := by
  simp only [effectivePermissions, Action.outcome_bind, outcome_activeUser known isActive,
    outcome_enter_of_active active]
  exact outcome_permissionKeysOf active user.id (Surroundings.check_of_able able _)

end

def ReachesThroughRole (desk : Desk) (tables : Tables) (userId : Int) (permission : Permission) :
    Prop :=
  ∃ role, tables.HoldsRole userId role ∧ ∃ bundle,
    (backend.call (.roleWithPermissions role.uuid)).outcome desk = (.ok bundle, desk) ∧
      permission ∈ bundle.permissions

theorem reachesThroughRole_iff {desk : Desk} {draft : Draft}
    (active : desk.phase = .active draft) (able : desk.surroundings.failing = []) {userId : Int}
    (leads : draft.work.LeadsToRolesOf userId) (permission : Permission) :
    desk.ReachesThroughRole draft.work userId permission ↔
      ∃ role, draft.work.HoldsRole userId role ∧
        permission ∈ draft.work.permissionsOfRole role.id := by
  constructor
  · intro reaches
    rcases reaches with ⟨role, holds, bundle, answers, member⟩
    rw [outcome_roleWithPermissions active able (leads role holds)] at answers
    obtain rfl := Except.ok.inj (Prod.mk.inj answers).1
    exact ⟨role, holds, (Tables.mem_bundle _ _ _).mp member⟩
  · intro attached
    rcases attached with ⟨role, holds, member⟩
    exact ⟨role, holds, _, outcome_roleWithPermissions active able (leads role holds),
      (Tables.mem_bundle _ _ _).mpr member⟩

end Desk

/-! ## Agreement -/

/-- In an active unit in which nothing is made to fail, the calls for an active user agree. The
role keys are those of the roles that the user holds. As long as identifiers lead to the roles
that the user holds, the permission keys are those of the permissions that the calls for these
roles answer and of the permissions that the user holds directly. And where the user does not hold
the role that allows everything and something is required, access is granted exactly if one of the
permission keys is required. -/
theorem views_agree {desk : Desk} {draft : Draft} {text : String} {user : User}
    (active : desk.phase = .active draft) (able : desk.surroundings.failing = [])
    (distinct : draft.work.IdsDistinct) (known : desk.surroundings.userByUuid text = .ok user)
    (isActive : user.status = .active) :
    ∃ roleKeys keys,
      (Desk.backend.call (.roleKeysOf user.id)).outcome desk = (.ok roleKeys, desk) ∧
      roleKeys.Nodup ∧
      (∀ key, key ∈ roleKeys ↔ ∃ role, draft.work.HoldsRole user.id role ∧ role.key = key) ∧
      (effectivePermissions Desk.backend text).outcome desk = (.ok keys, desk) ∧
      keys.Nodup ∧
      (draft.work.LeadsToRolesOf user.id → ∀ key, key ∈ keys ↔
        ∃ permission, (desk.ReachesThroughRole draft.work user.id permission ∨
          draft.work.HoldsDirectly user.id permission) ∧ permission.key = key) ∧
      (.superAdmin ∉ roleKeys → ∀ required, .none ∉ required →
        ∃ decision,
          ((checkAccess Desk.backend text required).outcome desk).1 = .ok decision ∧
          ((∃ reason, decision = .granted user.id reason) ↔ ∃ key ∈ required, key ∈ keys)) := by
  have passes := Surroundings.check_of_able able .roleKeysOf
  refine ⟨_, _, Desk.outcome_roleKeysOf active user.id passes, nodup_eraseDups _,
    Tables.mem_roleKeysOf_iff distinct user.id,
    Desk.outcome_effectivePermissions active able known isActive, nodup_eraseDups _, ?_, ?_⟩
  · intro leads key
    rw [Tables.mem_permissionKeysOf_iff distinct]
    simp only [Tables.holdsPermission_iff distinct,
      Desk.reachesThroughRole_iff active able leads]
  · intro restricted required needed
    refine ⟨_, Desk.outcome_checkAccess active able known isActive required, ?_⟩
    rw [if_neg (by simpa using restricted)]
    rcases decide_cases user.id required (draft.work.permissionKeysOf user.id) with
      ⟨-, unrestricted⟩ | ⟨equal, shared⟩ | ⟨equal, -, unshared⟩
    · exact absurd unrestricted needed
    · simp [equal, shared]
    · simp [equal, unshared]

def Desk.staffed : Desk :=
  working (World.fresh.surroundings.insertUser ⟨7, .ofNat 9, .active⟩) .empty .staffed

/-- The user holds one permission through a role and another one directly. A third one was revoked,
so what requires it is denied. -/
theorem views_agree_staffed :
    let desk := Desk.staffed
    let text := "00000000-0000-0000-0000-000000000009"
    (effectivePermissions Desk.backend text).outcome desk = (.ok [.readRole, .readUser], desk) ∧
      (∀ key, key ∈ [PermissionKey.readRole, .readUser] ↔
        ∃ permission, (desk.ReachesThroughRole Workspace.staffed.tables 7 permission ∨
          Workspace.staffed.tables.HoldsDirectly 7 permission) ∧ permission.key = key) ∧
      ((checkAccess Desk.backend text [.createUser]).outcome desk).1 = .ok .denied ∧
      ¬ ∃ key ∈ [PermissionKey.createUser], key ∈ [PermissionKey.readRole, .readUser] := by
  intro desk text
  have active : desk.phase = .active ⟨.empty, Workspace.staffed.tables⟩ := rfl
  have distinct : Workspace.staffed.tables.IdsDistinct := ⟨by decide, by decide, by decide⟩
  have known : desk.surroundings.userByUuid text = .ok ⟨7, .ofNat 9, .active⟩ := by
    decide +kernel
  have resolved : ∀ role ∈ Workspace.staffed.tables.roles, role.isLive →
      Workspace.staffed.tables.roleByUuid? role.uuid = some role := by decide +kernel
  have leads : Workspace.staffed.tables.LeadsToRolesOf 7 :=
    fun role holds => resolved role holds.1 holds.2.1
  rcases views_agree active rfl distinct known rfl with
    ⟨roleKeys, keys, answersRoles, -, -, answers, -, exactly, decides⟩
  have listed : ((effectivePermissions Desk.backend text).outcome desk).1 =
      .ok [.readRole, .readUser] := by decide +kernel
  have listedRoles : ((Desk.backend.call (.roleKeysOf 7)).outcome desk).1 = .ok [.staff] := by
    decide +kernel
  rw [answers] at listed
  rw [answersRoles] at listedRoles
  obtain rfl := Except.ok.inj listed
  obtain rfl := Except.ok.inj listedRoles
  rcases decides (by decide) [.createUser] (by decide) with ⟨decision, decided, granted⟩
  have denied : ((checkAccess Desk.backend text [.createUser]).outcome desk).1 = .ok .denied := by
    decide +kernel
  refine ⟨answers, exactly leads, denied, granted.not.mp fun reasoned => ?_⟩
  obtain rfl := Except.ok.inj (decided.symm.trans denied)
  rcases reasoned with ⟨reason, equal⟩
  cases equal

/-- Two live roles with the same identifier and a permission each. The user holds the one that was
stored later. -/
def World.shadowed : World :=
  World.fresh.run [.around (.insertUser ⟨7, .ofNat 9, .active⟩),
    .insertRole (.fresh "Staff" .staff (.ofNat 1) ⟨0, 0⟩),
    .insertRole (.fresh "Sales" .sales (.ofNat 1) ⟨0, 0⟩),
    .insertPermission (.fresh "Reading users" .readUser (.ofNat 2) ⟨0, 0⟩),
    .insertPermission (.fresh "Reading roles" .readRole (.ofNat 3) ⟨0, 0⟩), .begin "unit",
    .call "unit" (.replacePermissions 1 [3]), .call "unit" (.replacePermissions 2 [4]),
    .call "unit" (.assignRoles 7 [2])]

/-- The identifier leads to the role that was stored first, so the permission of the other one is
found by collecting but not by looking the role up. -/
theorem views_disagree :
    let desk : Desk := ⟨World.shadowed.phaseOf "unit", World.shadowed.surroundings⟩
    let text := "00000000-0000-0000-0000-000000000009"
    ∃ draft, desk.phase = .active draft ∧ desk.surroundings.failing = [] ∧
      draft.work.IdsDistinct ∧
      desk.surroundings.userByUuid text = .ok ⟨7, .ofNat 9, .active⟩ ∧
      ((effectivePermissions Desk.backend text).outcome desk).1 = .ok [.readRole] ∧
      ¬ ∀ key, key ∈ [PermissionKey.readRole] ↔
        ∃ permission, (desk.ReachesThroughRole draft.work 7 permission ∨
          draft.work.HoldsDirectly 7 permission) ∧ permission.key = key := by
  intro desk text
  have isActive : ∃ draft, desk.phase = .active draft ∧ draft.work.IdsDistinct ∧
      (∀ role ∈ draft.work.roles, role.uuid = .ofNat 1) ∧
      ∀ grant ∈ draft.work.grants, grant.permissionId = none :=
    ⟨_, rfl, ⟨by decide +kernel, by decide +kernel, by decide +kernel⟩, by decide +kernel,
      by decide +kernel⟩
  rcases isActive with ⟨draft, active, distinct, sameUuid, indirect⟩
  refine ⟨draft, active, rfl, distinct, by decide +kernel, by decide +kernel, fun exactly => ?_⟩
  rcases (exactly .readRole).mp (List.mem_singleton_self _) with
    ⟨permission,
      ⟨role, ⟨inRoles, -⟩, bundle, answers, member⟩ | ⟨-, -, grant, granted, -, -, names⟩, isKey⟩
  · have answer : ((Desk.backend.call (.roleWithPermissions (.ofNat 1))).outcome desk).1.map
        (fun bundle => bundle.permissions.map (·.key)) = .ok [.readUser] := by decide +kernel
    rw [← sameUuid role inRoles, answers] at answer
    have keys : bundle.permissions.map (·.key) = [.readUser] := Except.ok.inj answer
    have isFound : permission.key ∈ bundle.permissions.map (·.key) := List.mem_map_of_mem member
    rw [keys, isKey] at isFound
    exact absurd isFound (by decide)
  · rw [indirect grant granted] at names
    cases names

end Entitlement
