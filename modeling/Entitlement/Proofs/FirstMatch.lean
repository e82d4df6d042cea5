import Entitlement.Proofs.Views

/-! # Scanning what is required

The required keys may be read one after the other, up to the first one that grants: because
nothing is required by it, or because it is held. A check does not read them in this way. It
looks for the key that requires nothing in the whole list before it looks for a held one. Both
grant access to the same users. They give different reasons exactly where a held key stands
before the first key that requires nothing. -/

namespace Entitlement

open Store Service

/-! ## Reading in order -/

namespace Service

def scan (userId : Int) (held : List PermissionKey) : List PermissionKey → Decision
  | [] => .denied
  | key :: keys =>
      if key = .none then .granted userId .noneSentinel
      else if key ∈ held then .granted userId .permission
      else scan userId held keys

def HeldBeforeNone (held required : List PermissionKey) : Prop :=
  ∃ before after, required = before ++ .none :: after ∧ .none ∉ before ∧
    ∃ key ∈ before, key ∈ held

/-- Keys that require something grant access if one of them is held; whatever follows them is read
only if none of them is. -/
theorem scan_append (userId : Int) (held : List PermissionKey) {before : List PermissionKey}
    (restricted : .none ∉ before) (after : List PermissionKey) :
    scan userId held (before ++ after) =
      if ∃ key ∈ before, key ∈ held then .granted userId .permission
      else scan userId held after := by
  induction before with
  | nil => simp
  | cons key before induction =>
      rcases not_or.mp (List.mem_cons.not.mp restricted) with ⟨isKey, others⟩
      rw [List.cons_append, scan, if_neg (Ne.symm isKey), induction others]
      by_cases isHeld : key ∈ held
      · simp [isHeld]
      · simp [isHeld]

theorem scan_of_restricted (userId : Int) (held : List PermissionKey)
    {required : List PermissionKey} (restricted : .none ∉ required) :
    scan userId held required = decide userId required held := by
  have whole := scan_append userId held restricted []
  rw [List.append_nil] at whole
  rw [whole]
  rcases decide_cases userId required held with
    ⟨-, unrestricted⟩ | ⟨equal, shared⟩ | ⟨equal, -, unshared⟩
  · exact absurd unrestricted restricted
  · rw [equal, if_pos shared]
  · rw [equal, if_neg unshared]
    rfl

theorem decide_of_unrestricted (userId : Int) (held : List PermissionKey)
    {required : List PermissionKey} (unrestricted : .none ∈ required) :
    decide userId required held = .granted userId .noneSentinel := by
  simp [decide, unrestricted]

/-- A check decides as the scan does, but for the reason where a held key stands before the first
key that requires nothing. -/
theorem decide_eq_scan_or (userId : Int) (held required : List PermissionKey) :
    (¬ HeldBeforeNone held required ∧
        decide userId required held = scan userId held required) ∨
      (HeldBeforeNone held required ∧
        decide userId required held = .granted userId .noneSentinel ∧
        scan userId held required = .granted userId .permission) := by
  by_cases isHeld : HeldBeforeNone held required
  · refine Or.inr ⟨isHeld, ?_⟩
    rcases isHeld with ⟨before, after, rfl, first, isHeld⟩
    refine ⟨decide_of_unrestricted userId held (by simp), ?_⟩
    rw [scan_append userId held first, if_pos isHeld]
  · refine Or.inl ⟨isHeld, ?_⟩
    by_cases unrestricted : PermissionKey.none ∈ required
    -- The list is split where nothing is required for the first time.
    · rw [decide_of_unrestricted userId held unrestricted]
      rcases List.eq_append_cons_of_mem unrestricted with ⟨before, after, rfl, first⟩
      have notHeld : ¬ ∃ key ∈ before, key ∈ held :=
        fun given => isHeld ⟨before, after, rfl, first, given⟩
      rw [scan_append userId held first, if_neg notHeld]
      rfl
    · exact (scan_of_restricted userId held unrestricted).symm

end Service

/-! ## The check -/

/-- An active user who does not hold the role that allows everything is allowed the same by a
check as by reading the required keys in order; the decisions are the same exactly if no held key
stands before the first key that requires nothing. -/
theorem checkAccess_scans_iff {desk : Desk} {draft : Draft} {text : String} {user : User}
    (active : desk.phase = .active draft) (able : desk.surroundings.failing = [])
    (known : desk.surroundings.userByUuid text = .ok user) (isActive : user.status = .active)
    (restricted : .superAdmin ∉ draft.work.roleKeysOf user.id) (required : List PermissionKey) :
    ∃ held decision,
      (effectivePermissions Desk.backend text).outcome desk = (.ok held, desk) ∧
      ((checkAccess Desk.backend text required).outcome desk).1 = .ok decision ∧
      decision.isAllowed = (scan user.id held required).isAllowed ∧
      (decision = scan user.id held required ↔ ¬ HeldBeforeNone held required) ∧
      (HeldBeforeNone held required → decision = .granted user.id .noneSentinel ∧
        scan user.id held required = .granted user.id .permission) := by
  refine ⟨_, _, Desk.outcome_effectivePermissions active able known isActive,
    Desk.outcome_checkAccess active able known isActive required, ?_⟩
  rw [if_neg (by simpa using restricted)]
  rcases decide_eq_scan_or user.id (draft.work.permissionKeysOf user.id) required with
    ⟨inOrder, same⟩ | ⟨isHeld, decided, scanned⟩
  · exact ⟨congrArg Decision.isAllowed same, iff_of_true same inOrder, fun isHeld =>
      absurd isHeld inOrder⟩
  · rw [decided, scanned]
    exact ⟨rfl, iff_of_false (by simp) (not_not_intro isHeld), fun _ => ⟨rfl, rfl⟩⟩

/-- The first of these keys is not held, and the second one requires nothing. -/
theorem checkAccess_scans_iff_staffed :
    let text := "00000000-0000-0000-0000-000000000009"
    let required := [PermissionKey.createUser, .none, .readUser]
    ((checkAccess Desk.backend text required).outcome Desk.staffed).1 =
        .ok (scan 7 [.readRole, .readUser] required) ∧
      ¬ HeldBeforeNone [.readRole, .readUser] required := by
  intro text required
  have known : Desk.staffed.surroundings.userByUuid text = .ok ⟨7, .ofNat 9, .active⟩ := by
    decide +kernel
  have restricted : RoleKey.superAdmin ∉ Workspace.staffed.tables.roleKeysOf 7 := by
    decide +kernel
  have active : Desk.staffed.phase = .active ⟨.empty, Workspace.staffed.tables⟩ := rfl
  rcases checkAccess_scans_iff active rfl known rfl restricted required with
    ⟨held, decision, answers, decided, -, inOrder, -⟩
  have listed : ((effectivePermissions Desk.backend text).outcome Desk.staffed).1 =
      .ok [.readRole, .readUser] := by decide +kernel
  rw [answers] at listed
  obtain rfl := Except.ok.inj listed
  have scans : ((checkAccess Desk.backend text required).outcome Desk.staffed).1 =
      .ok (scan 7 [.readRole, .readUser] required) := by decide +kernel
  exact ⟨scans, inOrder.mp (Except.ok.inj (decided.symm.trans scans))⟩

/-- A key that requires nothing changes the reason for which a held key before it has granted
access. -/
theorem reason_out_of_order :
    let text := "00000000-0000-0000-0000-000000000009"
    RoleKey.superAdmin ∉ Workspace.staffed.tables.roleKeysOf 7 ∧
      ((effectivePermissions Desk.backend text).outcome Desk.staffed).1 =
        .ok [.readRole, .readUser] ∧
      ((checkAccess Desk.backend text [.readUser]).outcome Desk.staffed).1 =
        .ok (.granted 7 .permission) ∧
      scan 7 [.readRole, .readUser] [.readUser, .none] = .granted 7 .permission ∧
      ((checkAccess Desk.backend text [.readUser, .none]).outcome Desk.staffed).1 =
        .ok (.granted 7 .noneSentinel) := by
  decide +kernel

end Entitlement
