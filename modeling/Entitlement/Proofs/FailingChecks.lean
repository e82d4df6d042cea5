import Entitlement.Proofs.Views

/-! # Checks while something fails

A check finds the user, enters the unit, and asks for the role keys and then for the permission
keys of the user. It reports the first obstacle on this way. What it decides if it meets none does
not depend on what else is made to fail, so a failure never turns into a decision. -/

namespace Entitlement

open Store Service

namespace Desk

/-! ## The way of a check -/

structure ReachesRoles (desk : Desk) (text : String) (draft : Draft) (user : User) : Prop where
  known : desk.surroundings.userByUuid text = .ok user
  isActive : user.status = .active
  active : desk.phase = .active draft

structure PassesRoles (desk : Desk) (text : String) (draft : Draft) (user : User) : Prop
    extends desk.ReachesRoles text draft user where
  answersRoles : "role.get_role_keys" ∉ desk.surroundings.failing

structure ReachesPermissions (desk : Desk) (text : String) (draft : Draft) (user : User) : Prop
    extends desk.PassesRoles text draft user where
  limited : .superAdmin ∉ draft.work.roleKeysOf user.id

structure PassesPermissions (desk : Desk) (text : String) (draft : Draft) (user : User) : Prop
    extends desk.ReachesPermissions text draft user where
  answersPermissions : "permission.get_user_permission_keys" ∉ desk.surroundings.failing

inductive Concludes (desk : Desk) (text : String) (required : List PermissionKey) :
    Except Fault Decision → Prop where
  | misspelled {misspelling : Uuid.Misspelling} (unread : Uuid.read text = .error misspelling) :
      Concludes desk text required (.error (.invalidBody "user_uuid" misspelling.message))
  | unknown {uuid : Uuid} (spells : Uuid.read text = .ok uuid)
      (absent : ∀ user ∈ desk.surroundings.users, user.uuid ≠ uuid) :
      Concludes desk text required (.error (.notFound "user" uuid.text))
  | barred {user : User} {fault : Fault} (known : desk.surroundings.userByUuid text = .ok user)
      (refused : user.status.requireActive user.uuid = .error fault) :
      Concludes desk text required (.error fault)
  | outside {user : User} (known : desk.surroundings.userByUuid text = .ok user)
      (isActive : user.status = .active) (idle : ∀ draft, desk.phase ≠ .active draft) :
      Concludes desk text required (.error (.server "unit_of_work.roles"))
  | rolesFail {draft : Draft} {user : User} (reached : desk.ReachesRoles text draft user)
      (fails : "role.get_role_keys" ∈ desk.surroundings.failing) :
      Concludes desk text required (.error (.server "role.get_role_keys"))
  | unlimited {draft : Draft} {user : User} (passed : desk.PassesRoles text draft user)
      (superAdmin : .superAdmin ∈ draft.work.roleKeysOf user.id) :
      Concludes desk text required (.ok (.granted user.id .superAdmin))
  | permissionsFail {draft : Draft} {user : User}
      (reached : desk.ReachesPermissions text draft user)
      (fails : "permission.get_user_permission_keys" ∈ desk.surroundings.failing) :
      Concludes desk text required (.error (.server "permission.get_user_permission_keys"))
  | unrestricted {draft : Draft} {user : User} (passed : desk.PassesPermissions text draft user)
      (unrestricted : .none ∈ required) :
      Concludes desk text required (.ok (.granted user.id .noneSentinel))
  | permitted {draft : Draft} {user : User} (passed : desk.PassesPermissions text draft user)
      (restricted : .none ∉ required)
      (shared : ∃ key ∈ required, key ∈ draft.work.permissionKeysOf user.id) :
      Concludes desk text required (.ok (.granted user.id .permission))
  | denied {draft : Draft} {user : User} (passed : desk.PassesPermissions text draft user)
      (restricted : .none ∉ required)
      (unshared : ¬ ∃ key ∈ required, key ∈ draft.work.permissionKeysOf user.id) :
      Concludes desk text required (.ok .denied)

/-! ## Where a check stops -/

section

variable {desk : Desk}

theorem outcome_activeUser_of_unfound {text : String} {fault : Fault}
    (unfound : desk.surroundings.userByUuid text = .error fault) :
    (activeUser backend text).outcome desk = (.error fault, desk) := by
  simp only [activeUser, Action.outcome_bind, outcome_userByUuid, unfound]

theorem outcome_activeUser_of_refused {text : String} {user : User} {fault : Fault}
    (known : desk.surroundings.userByUuid text = .ok user)
    (refused : user.status.requireActive user.uuid = .error fault) :
    (activeUser backend text).outcome desk = (.error fault, desk) := by
  simp only [activeUser, Action.outcome_bind, outcome_userByUuid, known, Action.outcome_ofExcept,
    refused]

theorem outcome_enter_of_idle (idle : ∀ draft, desk.phase ≠ .active draft) (area : Area) :
    (backend.enter area).outcome desk = (.error (Operation.enter area).failure, desk) := by
  change (enter area).outcome desk = _
  rw [enter, Action.outcome_reading]
  split
  · rename_i draft active
    exact absurd active (idle draft)
  · rfl

theorem outcome_call_of_failing {α : Type} (call : Call α)
    (fails : call.operation.name ∈ desk.surroundings.failing) :
    (backend.call call).outcome desk = (.error call.operation.failure, desk) := by
  change (within call.operation (Workspace.perform call)).outcome _ = _
  rw [within, Action.outcome_ofOutcome, Surroundings.check_of_failing fails]

theorem outcome_checkAccess_of_stopped {text : String} {fault : Fault}
    (stopped : (activeUser backend text).outcome desk = (.error fault, desk))
    (required : List PermissionKey) :
    ((checkAccess backend text required).outcome desk).1 = .error fault := by
  simp only [checkAccess, Action.outcome_bind, stopped]

theorem ReachesRoles.outcome_of_fails {text : String} {draft : Draft} {user : User}
    (reached : desk.ReachesRoles text draft user)
    (fails : "role.get_role_keys" ∈ desk.surroundings.failing) (required : List PermissionKey) :
    ((checkAccess backend text required).outcome desk).1 =
      .error (.server "role.get_role_keys") := by
  simp only [checkAccess, Action.outcome_bind, outcome_activeUser reached.known reached.isActive,
    outcome_enter_of_active reached.active, outcome_call_of_failing (.roleKeysOf user.id) fails]
  rfl

theorem ReachesPermissions.outcome_of_fails {text : String} {draft : Draft} {user : User}
    (reached : desk.ReachesPermissions text draft user)
    (fails : "permission.get_user_permission_keys" ∈ desk.surroundings.failing)
    (required : List PermissionKey) :
    ((checkAccess backend text required).outcome desk).1 =
      .error (.server "permission.get_user_permission_keys") := by
  have roleKeys := outcome_roleKeysOf reached.active user.id
    (Surroundings.check_of_not_failing reached.answersRoles)
  simp only [checkAccess, Action.outcome_bind, outcome_activeUser reached.known reached.isActive,
    outcome_enter_of_active reached.active, roleKeys]
  rw [if_neg (by simpa using reached.limited)]
  simp only [Action.outcome_bind, outcome_enter_of_active reached.active,
    outcome_call_of_failing (.permissionKeysOf user.id) fails]
  rfl

theorem PassesRoles.outcome_of_superAdmin {text : String} {draft : Draft} {user : User}
    (passed : desk.PassesRoles text draft user)
    (superAdmin : .superAdmin ∈ draft.work.roleKeysOf user.id) (required : List PermissionKey) :
    ((checkAccess backend text required).outcome desk).1 = .ok (.granted user.id .superAdmin) := by
  rw [outcome_checkAccess_of_passes passed.active passed.known passed.isActive
    (Surroundings.check_of_not_failing passed.answersRoles)
    fun limited => absurd superAdmin limited]
  simp [superAdmin]

theorem PassesPermissions.outcome {text : String} {draft : Draft} {user : User}
    (passed : desk.PassesPermissions text draft user) (required : List PermissionKey) :
    ((checkAccess backend text required).outcome desk).1 =
      .ok (Service.decide user.id required (draft.work.permissionKeysOf user.id)) := by
  rw [outcome_checkAccess_of_passes passed.active passed.known passed.isActive
    (Surroundings.check_of_not_failing passed.answersRoles)
    fun _ => Surroundings.check_of_not_failing passed.answersPermissions]
  simp [passed.limited]

end

/-! ## How a check ends -/

theorem Concludes.outcome {desk : Desk} {text : String} {required : List PermissionKey}
    {conclusion : Except Fault Decision} (concludes : desk.Concludes text required conclusion) :
    ((checkAccess backend text required).outcome desk).1 = conclusion := by
  cases concludes with
  | misspelled unread =>
      refine outcome_checkAccess_of_stopped (outcome_activeUser_of_unfound ?_) required
      rw [Surroundings.userByUuid, unread]
  | @unknown uuid spells absent =>
      refine outcome_checkAccess_of_stopped (outcome_activeUser_of_unfound ?_) required
      have unfound : desk.surroundings.users.find? (·.uuid = uuid) = none := by
        simpa using absent
      rw [Surroundings.userByUuid, spells]
      simp only [unfound]
  | barred known refused =>
      exact outcome_checkAccess_of_stopped (outcome_activeUser_of_refused known refused) required
  | outside known isActive idle =>
      simp only [checkAccess, Action.outcome_bind, outcome_activeUser known isActive,
        outcome_enter_of_idle idle]
      rfl
  | rolesFail reached fails => exact reached.outcome_of_fails fails required
  | unlimited passed superAdmin => exact passed.outcome_of_superAdmin superAdmin required
  | permissionsFail reached fails => exact reached.outcome_of_fails fails required
  | unrestricted passed unrestricted =>
      rw [passed.outcome]
      simp [Service.decide, unrestricted]
  | permitted passed restricted shared =>
      rw [passed.outcome]
      simp [Service.decide, restricted, shared]
  | denied passed restricted unshared =>
      rw [passed.outcome]
      simp [Service.decide, restricted, unshared]

section

variable {desk : Desk} {text : String} {user : User} (required : List PermissionKey)

theorem PassesPermissions.exists_concludes {draft : Draft}
    (passed : desk.PassesPermissions text draft user) :
    ∃ conclusion, desk.Concludes text required conclusion := by
  by_cases unrestricted : PermissionKey.none ∈ required
  · exact ⟨_, .unrestricted passed unrestricted⟩
  · by_cases shared : ∃ key ∈ required, key ∈ draft.work.permissionKeysOf user.id
    · exact ⟨_, .permitted passed unrestricted shared⟩
    · exact ⟨_, .denied passed unrestricted shared⟩

theorem ReachesRoles.exists_concludes {draft : Draft}
    (reached : desk.ReachesRoles text draft user) :
    ∃ conclusion, desk.Concludes text required conclusion := by
  by_cases rolesFail : "role.get_role_keys" ∈ desk.surroundings.failing
  · exact ⟨_, .rolesFail reached rolesFail⟩
  · have passed : desk.PassesRoles text draft user := ⟨reached, rolesFail⟩
    by_cases superAdmin : RoleKey.superAdmin ∈ draft.work.roleKeysOf user.id
    · exact ⟨_, .unlimited passed superAdmin⟩
    · have limited : desk.ReachesPermissions text draft user := ⟨passed, superAdmin⟩
      by_cases permissionsFail :
          "permission.get_user_permission_keys" ∈ desk.surroundings.failing
      · exact ⟨_, .permissionsFail limited permissionsFail⟩
      · exact PassesPermissions.exists_concludes required ⟨limited, permissionsFail⟩

theorem exists_concludes_of_known (known : desk.surroundings.userByUuid text = .ok user) :
    ∃ conclusion, desk.Concludes text required conclusion := by
  cases standing : user.status.requireActive user.uuid with
  | error fault => exact ⟨_, .barred known standing⟩
  | ok =>
      have isActive : user.status = .active := by
        cases status : user.status <;> simp_all [UserStatus.requireActive]
      cases phase : desk.phase with
      | active draft => exact ReachesRoles.exists_concludes required ⟨known, isActive, phase⟩
      | idle | finalized => exact ⟨_, .outside known isActive (by simp [phase])⟩

end

theorem exists_concludes (desk : Desk) (text : String) (required : List PermissionKey) :
    ∃ conclusion, desk.Concludes text required conclusion := by
  cases spells : Uuid.read text with
  | error misspelling => exact ⟨_, .misspelled spells⟩
  | ok uuid =>
      cases found : desk.surroundings.users.find? (·.uuid = uuid) with
      | none => exact ⟨_, .unknown spells (by simpa using found)⟩
      | some user =>
          have known : desk.surroundings.userByUuid text = .ok user := by
            rw [Surroundings.userByUuid, spells]
            simp only [found]
          exact exists_concludes_of_known required known

theorem concludes_iff {desk : Desk} {text : String} {required : List PermissionKey}
    {conclusion : Except Fault Decision} :
    desk.Concludes text required conclusion ↔
      ((checkAccess backend text required).outcome desk).1 = conclusion := by
  refine ⟨Concludes.outcome, fun ends => ?_⟩
  rcases exists_concludes desk text required with ⟨other, concludes⟩
  rw [← ends, concludes.outcome]
  exact concludes

/-! ## Without failures -/

def enabled (desk : Desk) (draft : Draft) : Desk :=
  ⟨.active draft, desk.surroundings.enableAll⟩

theorem ReachesRoles.enabled {desk : Desk} {text : String} {draft : Draft} {user : User}
    (reached : desk.ReachesRoles text draft user) :
    (desk.enabled draft).PassesRoles text draft user :=
  ⟨⟨reached.known, reached.isActive, rfl⟩, List.not_mem_nil⟩

theorem PassesPermissions.enabled {desk : Desk} {text : String} {draft : Draft} {user : User}
    (passed : desk.PassesPermissions text draft user) :
    (desk.enabled draft).PassesPermissions text draft user :=
  ⟨⟨passed.toReachesRoles.enabled, passed.limited⟩, List.not_mem_nil⟩

theorem Concludes.enabled {desk : Desk} {text : String} {required : List PermissionKey}
    {conclusion : Except Fault Decision} (concludes : desk.Concludes text required conclusion)
    {draft : Draft} (own : ∀ worked, desk.phase = .active worked → worked = draft) :
    (∃ operation, conclusion = .error (.server operation)) ∨
      (desk.enabled draft).Concludes text required conclusion := by
  -- A conclusion that rests on a lookup that could fail says that it did not fail, and then the
  -- same lookup is answered without failures.
  cases concludes with
  | misspelled unread => exact Or.inr (.misspelled unread)
  | unknown spells absent => exact Or.inr (.unknown spells absent)
  | barred known refused => exact Or.inr (.barred known refused)
  | outside | rolesFail | permissionsFail => exact Or.inl ⟨_, rfl⟩
  | unlimited passed superAdmin =>
      obtain rfl := own _ passed.active
      exact Or.inr (.unlimited passed.toReachesRoles.enabled superAdmin)
  | unrestricted passed unrestricted =>
      obtain rfl := own _ passed.active
      exact Or.inr (.unrestricted passed.enabled unrestricted)
  | permitted passed restricted shared =>
      obtain rfl := own _ passed.active
      exact Or.inr (.permitted passed.enabled restricted shared)
  | denied passed restricted unshared =>
      obtain rfl := own _ passed.active
      exact Or.inr (.denied passed.enabled restricted unshared)

end Desk

/-! ## The check -/

/-- Whatever is made to fail and however far the unit has come, a check ends as told by the first
obstacle that it meets. It ends as it would in an active unit in which nothing is made to fail, or
in a technical failure; so a decision is never due to a failure. In particular, who holds the role
that allows everything needs no permission keys, and everybody else is refused neither nor granted
anything where they are not answered. -/
theorem failure_never_decides (desk : Desk) (text : String) (required : List PermissionKey) :
    let result (desk : Desk) := ((checkAccess Desk.backend text required).outcome desk).1
    (∀ conclusion, desk.Concludes text required conclusion ↔ result desk = conclusion) ∧
    (∀ draft, (∀ worked, desk.phase = .active worked → worked = draft) →
      (result desk = result (desk.enabled draft) ∨
        ∃ operation, result desk = .error (.server operation)) ∧
      ∀ decision, result desk = .ok decision → result (desk.enabled draft) = .ok decision) ∧
    ∀ draft user, desk.PassesRoles text draft user →
      (.superAdmin ∈ draft.work.roleKeysOf user.id →
        result desk = .ok (.granted user.id .superAdmin)) ∧
      (.superAdmin ∉ draft.work.roleKeysOf user.id →
        "permission.get_user_permission_keys" ∈ desk.surroundings.failing →
        result desk = .error (.server "permission.get_user_permission_keys")) := by
  intro result
  have unfailing : ∀ draft, (∀ worked, desk.phase = .active worked → worked = draft) →
      result desk = result (desk.enabled draft) ∨
        ∃ operation, result desk = .error (.server operation) := by
    intro draft own
    rcases (Desk.concludes_iff.mpr rfl : desk.Concludes text required (result desk)).enabled own with
      fails | concludes
    · exact Or.inr fails
    · exact Or.inl concludes.outcome.symm
  refine ⟨fun _ => Desk.concludes_iff, fun draft own => ⟨unfailing draft own, ?_⟩,
    fun draft user passed => ⟨fun superAdmin => ?_, fun limited fails => ?_⟩⟩
  · intro decision decided
    rcases unfailing draft own with same | ⟨operation, fails⟩
    · exact same.symm.trans decided
    · cases fails.symm.trans decided
  · exact passed.outcome_of_superAdmin superAdmin required
  · exact Desk.ReachesPermissions.outcome_of_fails ⟨passed, limited⟩ fails required

/-- The user holds a role that does not allow everything. Though nothing is required, the check
fails where the permission keys are not answered. -/
theorem failure_never_decides_staffed :
    let desk : Desk := ⟨Desk.staffed.phase,
      Desk.staffed.surroundings.disable "permission.get_user_permission_keys"⟩
    let text := "00000000-0000-0000-0000-000000000009"
    desk.PassesRoles text ⟨.empty, Workspace.staffed.tables⟩ ⟨7, .ofNat 9, .active⟩ ∧
      ((checkAccess Desk.backend text [.none]).outcome desk).1 =
        .error (.server "permission.get_user_permission_keys") ∧
      ((checkAccess Desk.backend text [.none]).outcome
          (desk.enabled ⟨.empty, Workspace.staffed.tables⟩)).1 =
        .ok (.granted 7 .noneSentinel) := by
  intro desk text
  have passed : desk.PassesRoles text ⟨.empty, Workspace.staffed.tables⟩
      ⟨7, .ofNat 9, .active⟩ := ⟨⟨by decide +kernel, rfl, rfl⟩, by decide +kernel⟩
  have limited : RoleKey.superAdmin ∉ Workspace.staffed.tables.roleKeysOf 7 := by
    decide +kernel
  have fails := ((failure_never_decides desk text [.none]).2.2 _ _ passed).2 limited
    (by decide +kernel)
  exact ⟨passed, fails, by decide +kernel⟩

end Entitlement
