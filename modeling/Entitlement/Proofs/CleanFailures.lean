import Entitlement.Proofs.FailingChecks
import Entitlement.Proofs.Synchronizing
import Entitlement.Proofs.Traffic

/-! # Failures leave the tables as they were

A call that fails changes nothing. A service changes the tables by its last call, so when it fails
it has only read so far; but after replacing the permissions of a role they are read once more, and
seeding creates many rows. What such a failure leaves behind is in the working copy only, and is
forgotten when the unit is rolled back. -/

namespace Entitlement

open Store Service

theorem Action.error_of_bind {σ α β : Type} {action : Action σ α} {next : α → Action σ β}
    {state later : σ} {fault : Fault}
    (fails : (action >>= next).outcome state = (.error fault, later)) :
    action.outcome state = (.error fault, later) ∨
      ∃ value middle, action.outcome state = (.ok value, middle) ∧
        (next value).outcome middle = (.error fault, later) := by
  rw [Action.outcome_bind] at fails
  rcases reached : action.outcome state with ⟨reason | value, middle⟩
  · rw [reached] at fails
    cases fails
    exact Or.inl rfl
  · rw [reached] at fails
    exact Or.inr ⟨value, middle, rfl, fails⟩

/-! ## Calls -/

theorem Store.Workspace.perform_of_error {α : Type} {call : Call α} {workspace later : Workspace}
    {fault : Fault} (fails : (perform call).outcome workspace = (.error fault, later)) :
    later = workspace := by
  cases call with
  | createRole role =>
      rw [perform, createRole, Action.outcome_ofOutcome] at fails
      split at fails
      · exact (congrArg Prod.snd fails).symm
      · cases fails
  | updateRole role uuid =>
      rw [perform, updateRole, Action.outcome_ofOutcome] at fails
      split at fails
      · exact (congrArg Prod.snd fails).symm
      · dsimp only at fails
        split at fails
        · exact (congrArg Prod.snd fails).symm
        · cases fails
  | deleteRole uuid deletedBy =>
      rcases outcome_deleteRole uuid deletedBy workspace with
        refuses | ⟨front, present, back, -, -, -, -, deletes⟩
      · exact congrArg Prod.snd (fails.symm.trans refuses)
      · cases fails.symm.trans deletes
  | createPermission permission =>
      rw [perform, createPermission, Action.outcome_ofOutcome] at fails
      split at fails
      · exact (congrArg Prod.snd fails).symm
      · cases fails
  | replacePermissions | assignRoles | grantPermissions => cases fails
  | roleByUuid | liveRoles | keyInUse | roleByKey | roleWithPermissions | roleKeysOf
  | permissionKeysOf | livePermissions | permissionIds | grantsOf =>
      exact (congrArg Prod.snd fails).symm

namespace Desk

variable {α β : Type}

theorem call_of_error {call : Call α} {desk after : Desk} {fault : Fault}
    (fails : (backend.call call).outcome desk = (.error fault, after)) : after = desk := by
  rcases outcome_call_cases call desk with refuses | ⟨draft, active, ends⟩
  · exact congrArg Prod.snd (fails.symm.trans refuses)
  · rcases performed : (Workspace.perform call).outcome ⟨draft.work, desk.surroundings.supply⟩ with
      ⟨result, workspace⟩
    rw [performed] at ends
    cases fails.symm.trans ends
    -- The working copy is put back as it was.
    obtain rfl := Workspace.perform_of_error performed
    rw [← active]

/-! ## Services that change the tables last -/

def Reads (action : Action Desk α) : Prop :=
  ∀ desk, (action.outcome desk).2 = desk

def Keeps (action : Action Desk α) : Prop :=
  ∀ desk, (action.outcome desk).2.phase = desk.phase

def FailsCleanly (action : Action Desk α) : Prop :=
  ∀ desk fault after, action.outcome desk = (.error fault, after) → after.phase = desk.phase

theorem Reads.keeps {action : Action Desk α} (reads : Reads action) : Keeps action :=
  fun desk => congrArg phase (reads desk)

theorem Reads.error_of_bind {action : Action Desk α} {next : α → Action Desk β}
    (reads : Reads action) {desk after : Desk} {fault : Fault}
    (fails : (action >>= next).outcome desk = (.error fault, after)) :
    after = desk ∨ ∃ value, action.outcome desk = (.ok value, desk) ∧
      (next value).outcome desk = (.error fault, after) := by
  have same := reads desk
  rcases Action.error_of_bind fails with stops | ⟨value, middle, reached, goesOn⟩
  · rw [stops] at same
    exact Or.inl same
  · rw [reached] at same
    obtain rfl : middle = desk := same
    exact Or.inr ⟨value, reached, goesOn⟩

theorem Keeps.failsCleanly {action : Action Desk α} (keeps : Keeps action) :
    FailsCleanly action := by
  intro desk fault after fails
  rw [← keeps desk, fails]

theorem Keeps.bind {action : Action Desk α} {next : α → Action Desk β} (keeps : Keeps action)
    (rest : ∀ value, Keeps (next value)) : Keeps (action >>= next) := by
  intro desk
  have first := keeps desk
  rw [Action.outcome_bind]
  rcases reached : action.outcome desk with ⟨fault | value, middle⟩
  · rw [reached] at first
    exact first
  · rw [reached] at first
    exact (rest value middle).trans first

theorem Keeps.followed {action : Action Desk α} {next : α → Action Desk β} (keeps : Keeps action)
    (rest : ∀ value, FailsCleanly (next value)) : FailsCleanly (action >>= next) := by
  intro desk fault after fails
  have first := keeps desk
  rcases Action.error_of_bind fails with fails | ⟨value, middle, reached, fails⟩
  · rw [fails] at first
    exact first
  · rw [reached] at first
    exact (rest value middle fault after fails).trans first

theorem FailsCleanly.bind_pure {action : Action Desk α} (clean : FailsCleanly action)
    (result : α → β) : FailsCleanly (action >>= fun value => pure (result value)) := by
  intro desk fault after fails
  rcases Action.error_of_bind fails with fails | ⟨value, middle, -, fails⟩
  · exact clean desk fault after fails
  · cases fails

theorem reads_ofExcept (result : Except Fault α) :
    Reads (MonadExcept.ofExcept result : Action Desk α) := by
  intro desk
  rw [Action.outcome_ofExcept]

theorem reads_enter (area : Area) : Reads (backend.enter area) := fun _ => rfl

theorem reads_call {call : Call α} {read : Workspace → Except Fault α}
    (reads : Workspace.perform call = Action.reading read) : Reads (backend.call call) := by
  intro desk
  rcases outcome_call_cases call desk with refuses | ⟨draft, active, ends⟩
  · rw [refuses]
  · rw [ends, reads, Action.outcome_reading, ← active]

theorem keeps_ofExcept (result : Except Fault α) :
    Keeps (MonadExcept.ofExcept result : Action Desk α) :=
  (reads_ofExcept result).keeps

theorem keeps_enter (area : Area) : Keeps (backend.enter area) := (reads_enter area).keeps

theorem keeps_call {call : Call α} {read : Workspace → Except Fault α}
    (reads : Workspace.perform call = Action.reading read) : Keeps (backend.call call) :=
  (reads_call reads).keeps

theorem keeps_pure (value : α) : Keeps (pure value) := fun _ => rfl

theorem keeps_throw (fault : Fault) : Keeps (throw fault : Action Desk α) := fun _ => rfl

theorem keeps_mapM {f : α → Action Desk β} (each : ∀ item, Keeps (f item)) (items : List α) :
    Keeps (items.mapM f) := by
  have loop : ∀ values, Keeps (List.mapM.loop f items values) := by
    induction items with
    | nil => exact fun _ => keeps_pure _
    | cons item items induction => exact fun values => (each item).bind fun _ => induction _
  exact loop []

theorem keeps_userByUuid (text : String) : Keeps (backend.userByUuid text) := fun _ => rfl

theorem keeps_now : Keeps backend.now := fun _ => rfl

theorem failsCleanly_call (call : Call α) : FailsCleanly (backend.call call) :=
  fun _ _ _ fails => congrArg phase (call_of_error fails)

theorem failsCleanly_asked (area : Area) (call : Call α) : FailsCleanly (do
    backend.enter area
    backend.call call) :=
  (keeps_enter area).followed fun _ => failsCleanly_call call

theorem failsCleanly_createRole (input : RoleInput) :
    FailsCleanly (createRole backend input) := by
  refine (keeps_ofExcept _).followed fun title => (keeps_ofExcept _).followed fun key => ?_
  refine (keeps_enter _).followed fun _ => (keeps_call rfl).followed fun used => ?_
  split
  · exact (keeps_throw _).failsCleanly
  · refine keeps_now.followed fun now => Keeps.followed ?_ fun uuid => failsCleanly_call _
    exact fun _ => rfl

theorem keeps_listRoles : Keeps (listRoles backend) := by
  refine (keeps_enter _).bind fun _ => (keeps_call rfl).bind fun roles => ?_
  dsimp only
  split
  · exact Keeps.bind (fun _ => rfl) fun _ => keeps_pure _
  · exact keeps_pure _

theorem failsCleanly_updateRole (uuid : Uuid) (input : RoleInput) :
    FailsCleanly (updateRole backend uuid input) := by
  have withKey (title : String) (key : RoleKey) : FailsCleanly (do
      backend.enter .roles
      if ← backend.call (.keyInUse key (some uuid)) then
        throw (Fault.roleExists key.name)
      let now ← backend.now
      backend.call (.updateRole (requestedRole title key input uuid now) uuid)) := by
    refine (keeps_enter _).followed fun _ => (keeps_call rfl).followed fun used => ?_
    split
    · exact (keeps_throw _).failsCleanly
    · exact keeps_now.followed fun now => failsCleanly_call _
  refine (keeps_ofExcept _).followed fun title => Keeps.followed (fun _ => rfl) fun cached => ?_
  cases cached with
  | none => exact (keeps_ofExcept _).followed fun key => withKey title key
  | some key => exact withKey title key

theorem keeps_activeUser (text : String) : Keeps (activeUser backend text) :=
  (keeps_userByUuid text).bind fun user => (keeps_ofExcept _).bind fun _ => keeps_pure user

theorem keeps_checkAccess (text : String) (required : List PermissionKey) :
    Keeps (checkAccess backend text required) := by
  refine (keeps_activeUser text).bind fun user => (keeps_enter _).bind fun _ => ?_
  refine (keeps_call rfl).bind fun roleKeys => ?_
  have counted (decision : Decision) : Keeps (do
      backend.countDecision decision
      return decision) := Keeps.bind (fun _ => rfl) fun _ => keeps_pure decision
  split
  · exact (keeps_pure _).bind counted
  · exact (keeps_enter _).bind fun _ => (keeps_call rfl).bind fun _ => (keeps_pure _).bind counted

theorem failsCleanly_assignUserRole (userId : Int) :
    FailsCleanly (assignUserRole backend userId) := by
  refine (keeps_enter _).followed fun _ => Keeps.followed ?_ fun role => ?_
  · refine (keeps_call rfl).bind fun found => ?_
    cases found with
    | none => exact keeps_throw _
    | some role => exact keeps_pure role
  · exact (keeps_enter _).followed fun _ => (failsCleanly_call _).bind_pure _

theorem failsCleanly_assignRoles (userId : Int) (roleUuids : List String) :
    FailsCleanly (assignRoles backend userId roleUuids) := by
  refine (keeps_ofExcept _).followed fun uuids => (keeps_enter _).followed fun _ => ?_
  refine (keeps_mapM (fun _ => keeps_call rfl) uuids).followed fun roles => ?_
  exact (keeps_enter _).followed fun _ => (failsCleanly_call _).bind_pure _

theorem failsCleanly_grantPermissions (userId : Int) (permissionUuids : List String) :
    FailsCleanly (grantPermissions backend userId permissionUuids) := by
  refine (keeps_ofExcept _).followed fun uuids => (keeps_enter _).followed fun _ => ?_
  refine (keeps_call rfl).followed fun ids => (keeps_enter _).followed fun _ => ?_
  exact (failsCleanly_call _).bind_pure _

end Desk

/-! ## Synchronizing -/

def Store.Tables.relinked (tables : Tables) (roleId : Int) (permissionIds : List Int) : Tables :=
  { tables with
    attachments := tables.attachments.filter (·.roleId ≠ roleId) ++
      permissionIds.eraseDups.map fun id => ⟨roleId, id⟩ }

namespace Desk

structure Relinks (desk : Desk) (uuid : Uuid) (texts : List String) (draft : Draft) (role : Role) :
    Prop where
  spells : misspelled? texts = none
  active : desk.phase = .active draft
  found : draft.work.roleByUuid? uuid = some role
  lists : "permission.filter_valid_permissions" ∉ desk.surroundings.failing
  looks : "role.get_by_uuid" ∉ desk.surroundings.failing
  replaces : "role.sync_permissions" ∉ desk.surroundings.failing

structure CutsOff (desk : Desk) (uuid : Uuid) (texts : List String) (draft : Draft) (role : Role) :
    Prop extends desk.Relinks uuid texts draft role where
  fails : "role.get_permissions" ∈ desk.surroundings.failing

def relinked (desk : Desk) (texts : List String) (draft : Draft) (role : Role) : Desk :=
  { desk with phase := .active { draft with
      work := draft.work.relinked role.id (draft.work.permissionIds (spelled texts)) } }

section

variable {desk : Desk} {draft : Draft} (active : desk.phase = .active draft)

include active

theorem outcome_permissionIds_of_active (uuids : List Uuid)
    (passes : "permission.filter_valid_permissions" ∉ desk.surroundings.failing) :
    (backend.call (.permissionIds uuids)).outcome desk =
      (.ok (draft.work.permissionIds uuids), desk) :=
  outcome_call_of_passes (.permissionIds uuids) active (Surroundings.check_of_not_failing passes)
    (fun copy => .ok (copy.tables.permissionIds uuids)) rfl

theorem outcome_roleByUuid_of_found {uuid : Uuid} {role : Role}
    (found : draft.work.roleByUuid? uuid = some role)
    (passes : "role.get_by_uuid" ∉ desk.surroundings.failing) :
    (backend.call (.roleByUuid uuid)).outcome desk = (.ok role, desk) := by
  rw [outcome_call_of_passes (.roleByUuid uuid) active (Surroundings.check_of_not_failing passes)
    _ rfl]
  simp only [found]

theorem outcome_replacePermissions_of_active (roleId : Int) (permissionIds : List Int)
    (passes : "role.sync_permissions" ∉ desk.surroundings.failing) :
    (backend.call (.replacePermissions roleId permissionIds)).outcome desk =
      (.ok (), { desk with phase := .active { draft with
        work := draft.work.relinked roleId permissionIds } }) := by
  rcases desk with ⟨phase, surroundings⟩
  subst active
  have checked : surroundings.check .replacePermissions = .ok () :=
    Surroundings.check_of_not_failing passes
  change (within .replacePermissions (Workspace.replacePermissions roleId permissionIds)).outcome
    _ = _
  rw [within, Action.outcome_ofOutcome]
  simp only [checked]
  rfl

end

section

variable {desk : Desk} {uuid : Uuid} {texts : List String} {draft : Draft} {role : Role}

theorem Relinks.outcome (relinks : desk.Relinks uuid texts draft role) :
    (syncPermissions backend uuid texts).outcome desk =
      (backend.call (.roleWithPermissions uuid)).outcome (desk.relinked texts draft role) := by
  rcases relinks with ⟨spells, active, found, lists, looks, replaces⟩
  simp only [syncPermissions, Action.outcome_bind, Action.outcome_ofExcept, readUuids_eq, spells,
    outcome_enter_of_active active, outcome_permissionIds_of_active active _ lists,
    outcome_roleByUuid_of_found active found looks,
    outcome_replacePermissions_of_active active _ _ replaces]
  rfl

theorem CutsOff.outcome (cut : desk.CutsOff uuid texts draft role) :
    (syncPermissions backend uuid texts).outcome desk =
      (.error (.server "role.get_permissions"), desk.relinked texts draft role) := by
  rw [cut.toRelinks.outcome]
  exact outcome_call_of_failing _ cut.fails

end

theorem roleByUuid?_of_performed {uuid : Uuid} {role : Role} {workspace later : Workspace}
    (performed : (Workspace.perform (.roleByUuid uuid)).outcome workspace = (.ok role, later)) :
    workspace.tables.roleByUuid? uuid = some role := by
  rw [Workspace.perform, Action.outcome_reading] at performed
  split at performed
  · rename_i found
    cases performed
    exact found
  · cases performed

theorem misspelled?_of_readUuids {field : String} {texts : List String} {uuids : List Uuid}
    (reads : readUuids field [] texts = .ok uuids) : misspelled? texts = none := by
  rw [readUuids_eq] at reads
  split at reads
  · cases reads
  · assumption

theorem not_failing_of_answered {α : Type} {desk later : Desk} {call : Call α} {value : α}
    (answered : (backend.call call).outcome desk = (.ok value, later)) :
    call.operation.name ∉ desk.surroundings.failing := by
  intro fails
  cases answered.symm.trans (outcome_call_of_failing call fails)

theorem failing_of_unread {desk after : Desk} {uuid : Uuid} {fault : Fault}
    (fails : (backend.call (.roleWithPermissions uuid)).outcome desk = (.error fault, after))
    {draft : Draft} (active : desk.phase = .active draft) {role : Role}
    (found : draft.work.roleByUuid? uuid = some role) :
    "role.get_permissions" ∈ desk.surroundings.failing := by
  by_contra passes
  rw [outcome_call_of_passes (.roleWithPermissions uuid) active
    (Surroundings.check_of_not_failing passes) _ rfl] at fails
  simp only [Tables.roleWithPermissions?, found, Option.map_some] at fails
  cases fails

theorem syncPermissions_of_error {desk after : Desk} {uuid : Uuid} {texts : List String}
    {fault : Fault} (fails : (syncPermissions backend uuid texts).outcome desk =
      (.error fault, after)) :
    after.phase = desk.phase ∨ ∃ draft role, desk.CutsOff uuid texts draft role := by
  -- Until the permissions are replaced the service only reads, so each failure keeps the unit as
  -- it is, and each answer tells that a condition is met.
  rcases (reads_ofExcept _).error_of_bind fails with same | ⟨uuids, spells, fails⟩
  · exact Or.inl (congrArg phase same)
  rcases (reads_enter _).error_of_bind fails with same | ⟨_, -, fails⟩
  · exact Or.inl (congrArg phase same)
  rcases (reads_call rfl).error_of_bind fails with same | ⟨ids, listed, fails⟩
  · exact Or.inl (congrArg phase same)
  rcases (reads_enter _).error_of_bind fails with same | ⟨_, -, fails⟩
  · exact Or.inl (congrArg phase same)
  rcases (reads_call rfl).error_of_bind fails with same | ⟨role, looked, fails⟩
  · exact Or.inl (congrArg phase same)
  rcases Action.error_of_bind fails with fails | ⟨_, middle, replaced, fails⟩
  · exact Or.inl (congrArg phase (call_of_error fails))
  rcases exists_of_answered looked with ⟨draft, _, active, performed, -⟩
  have found : draft.work.roleByUuid? uuid = some role := roleByUuid?_of_performed performed
  have replaces := not_failing_of_answered replaced
  cases replaced.symm.trans (outcome_replacePermissions_of_active active role.id ids replaces)
  have unread := failing_of_unread fails rfl found
  rw [Action.outcome_ofExcept] at spells
  exact Or.inr ⟨draft, role, ⟨misspelled?_of_readUuids (congrArg Prod.fst spells), active, found,
    not_failing_of_answered listed, not_failing_of_answered looked, replaces⟩, unread⟩

end Desk

/-! ## What failures leave behind -/

inductive Deed : Type → Type 1 where
  | call {α : Type} (call : Call α) : Deed α
  | task {α : Type} (task : Task α) : Deed α

def Deed.perform {α : Type} : Deed α → Action Desk α
  | call asked => Desk.backend.call asked
  | task told => told.perform Desk.backend

/-- How far the unit has come when a deed fails: as far as before, unless permissions were replaced
and then could not be read, or rows were created by seeding. -/
def Desk.Leaves (desk : Desk) (fault : Fault) (phase : Phase) : {α : Type} → Deed α → Prop
  | _, .task (.syncPermissions uuid texts) => phase = desk.phase ∨
      ∃ draft role, desk.CutsOff uuid texts draft role ∧ fault = .server "role.get_permissions" ∧
        phase = (desk.relinked texts draft role).phase
  | _, .task .seed => phase = desk.phase ∨
      ∃ draft work, desk.phase = .active draft ∧ phase = .active { draft with work }
  | _, _ => phase = desk.phase

namespace Desk

def StaysActive {α : Type} (action : Action Desk α) : Prop :=
  ∀ desk draft, desk.phase = .active draft →
    ∃ work, (action.outcome desk).2.phase = .active { draft with work }

theorem Keeps.staysActive {α : Type} {action : Action Desk α} (keeps : Keeps action) :
    StaysActive action :=
  fun desk draft active => ⟨draft.work, (keeps desk).trans active⟩

theorem staysActive_call {α : Type} (call : Call α) : StaysActive (backend.call call) := by
  intro desk draft active
  rcases outcome_call_cases call desk with refuses | ⟨other, isActive, ends⟩
  · rw [refuses]
    exact ⟨draft.work, active⟩
  · cases active.symm.trans isActive
    rw [ends]
    exact ⟨_, rfl⟩

theorem staysActive_request {α : Type} (request : Request α) :
    StaysActive (request.perform backend) := by
  cases request with
  | call asked => exact staysActive_call asked
  | enter | now | freshUuid | userByUuid | cachedKey | offerKeys | countDecision =>
      exact Keeps.staysActive fun _ => rfl

theorem staysActive_program {α : Type} (program : Program α) : StaysActive program.alone := by
  intro desk draft active
  change ∃ work, (program.outcome desk).2.phase = .active { draft with work }
  induction program generalizing desk draft with
  | ended result => exact ⟨draft.work, active⟩
  | ask request next induction =>
      rcases staysActive_request request desk draft active with ⟨work, stillActive⟩
      exact induction _ _ { draft with work } stillActive

theorem staysActive_deed {α : Type} (deed : Deed α) : StaysActive deed.perform := by
  cases deed with
  | call asked => exact staysActive_call asked
  | task told =>
      rw [Deed.perform, ← told.alone_perform]
      exact staysActive_program _

theorem seed_of_error {desk after : Desk} {fault : Fault}
    (fails : (seed backend).outcome desk = (.error fault, after)) :
    after.phase = desk.phase ∨
      ∃ draft work, desk.phase = .active draft ∧ after.phase = .active { draft with work } := by
  by_cases active : ∃ draft, desk.phase = .active draft
  · rcases active with ⟨draft, active⟩
    rcases staysActive_deed (.task .seed) desk draft active with ⟨work, stillActive⟩
    change ((seed backend).outcome desk).2.phase = _ at stillActive
    rw [fails] at stillActive
    exact Or.inr ⟨draft, work, active, stillActive⟩
  · rw [seed, Action.outcome_bind,
      outcome_enter_of_idle (fun draft isActive => active ⟨draft, isActive⟩)] at fails
    cases fails
    exact Or.inl rfl

theorem leaves_of_error {α : Type} {desk after : Desk} {deed : Deed α} {fault : Fault}
    (fails : deed.perform.outcome desk = (.error fault, after)) :
    desk.Leaves fault after.phase deed := by
  have same (clean : FailsCleanly deed.perform) : after.phase = desk.phase :=
    clean desk fault after fails
  cases deed with
  | call asked => exact same (failsCleanly_call asked)
  | task told =>
      cases told with
      | getRole | deleteRole | getPermissions | listPermissions | createPermission =>
          exact same (failsCleanly_asked _ _)
      | createRole input => exact same (failsCleanly_createRole input)
      | listRoles => exact same keeps_listRoles.failsCleanly
      | updateRole uuid input => exact same (failsCleanly_updateRole uuid input)
      | syncPermissions uuid texts =>
          refine (syncPermissions_of_error fails).imp_right fun cutsOff => ?_
          rcases cutsOff with ⟨draft, role, cut⟩
          cases fails.symm.trans cut.outcome
          exact ⟨draft, role, cut, rfl, rfl⟩
      | checkAccess text required => exact same (keeps_checkAccess text required).failsCleanly
      | effectivePermissions text =>
          exact same ((keeps_activeUser text).followed fun _ => failsCleanly_asked _ _)
      | assignUserRole userId => exact same (failsCleanly_assignUserRole userId)
      | assignRoles userId roleUuids => exact same (failsCleanly_assignRoles userId roleUuids)
      | grantPermissions userId permissionUuids =>
          exact same (failsCleanly_grantPermissions userId permissionUuids)
      | seed => exact seed_of_error fails

end Desk

/-! ## Rolling back -/

namespace World

theorem committed_rollback (world : World) (unitName : String) :
    ((rollback unitName).outcome world).2.committed = world.committed := by
  rcases outcome_rollback world unitName with fails | ⟨draft, -, ends⟩
  · rw [fails]
  · rw [ends]
    rfl

theorem rollback_of_active {world : World} {unitName : String} {draft : Draft}
    (active : world.phaseOf unitName = .active draft)
    (passes : "unit_of_work.rollback" ∉ world.surroundings.failing) :
    ((rollback unitName).outcome world).1 = .ok () := by
  rw [rollback, Action.outcome_bind,
    outcome_finalize_of_active (Surroundings.check_of_not_failing passes) active]
  rfl

theorem committed_atDesk {α : Type} (world : World) (unitName : String) (action : Action Desk α) :
    ((atDesk unitName action).outcome world).2.committed = world.committed := rfl

theorem phaseOf_atDesk_deed {α : Type} {world : World} {unitName : String} {draft : Draft}
    (active : world.phaseOf unitName = .active draft) (deed : Deed α) :
    ∃ work, ((atDesk unitName deed.perform).outcome world).2.phaseOf unitName =
      .active { draft with work } := by
  rcases Desk.staysActive_deed deed ⟨world.phaseOf unitName, world.surroundings⟩ draft active with
    ⟨work, stillActive⟩
  exact ⟨work, (phaseOf_setPhase_self world unitName _).trans stillActive⟩

def broughtByOthers (unitName : String) (world : World) : Event → List Publication
  | .commit other => if other = unitName then [] else world.publicationIn (.commit other)
  | event => world.publicationIn event

theorem committed_step_of_unended {world : World} {unitName : String} {event : Event}
    (unended : (world.step event).phaseOf unitName ≠ .finalized) :
    (world.step event).committed =
      (world.broughtByOthers unitName event).foldl Publication.apply world.committed := by
  cases event with
  | commit other =>
      rw [broughtByOthers]
      split
      · rename_i own
        subst own
        rw [step] at unended ⊢
        -- A commit of its own that does more than fail finalizes the unit.
        rcases outcome_commit world other with
          fails | ⟨draft, -, ⟨key, -, refuses⟩ | ⟨-, publishes⟩⟩
        · rw [fails]
          rfl
        · rw [refuses] at unended
          exact absurd (phaseOf_setPhase_self world other .finalized) unended
        · rw [publishes] at unended
          exact absurd (phaseOf_setPhase_self world other .finalized) unended
      · exact committed_step world (.commit other)
  | begin | call | rollback | insertRole | insertPermission | around =>
      exact committed_step world _

end World

namespace Traffic

def broughtByOthers (unitName : String) (traffic : Traffic) : Move → List Publication
  | .event event => traffic.world.broughtByOthers unitName event
  | .start _ _ | .advance _ => []

def publicationsOfOthers (unitName : String) : Traffic → List Move → List Publication
  | _, [] => []
  | traffic, move :: moves =>
      traffic.broughtByOthers unitName move ++
        publicationsOfOthers unitName (traffic.move move) moves

theorem committed_advance (world : World) (job : Job) :
    (job.advance world).2.committed = world.committed := by
  rcases job with ⟨unitName, Answer, result | ⟨request, next⟩⟩ <;> rfl

theorem committed_move_advance (traffic : Traffic) (place : Nat) :
    (traffic.move (.advance place)).world.committed = traffic.world.committed := by
  rw [move]
  split
  · rfl
  · exact committed_advance traffic.world _

theorem phaseOf_move_of_finalized {traffic : Traffic} {unitName : String} (move : Move)
    (finalized : traffic.world.phaseOf unitName = .finalized) :
    (traffic.move move).world.phaseOf unitName = .finalized := by
  cases move with
  | event event => exact World.phaseOf_run_of_finalized [event] finalized
  | start => exact finalized
  | advance place =>
      rw [Traffic.move]
      split
      · exact finalized
      · rename_i job found
        dsimp only
        rw [← Job.run_events]
        exact World.phaseOf_run_of_finalized job.events finalized

theorem phaseOf_run_of_finalized {traffic : Traffic} {unitName : String} (moves : List Move)
    (finalized : traffic.world.phaseOf unitName = .finalized) :
    (traffic.run moves).world.phaseOf unitName = .finalized := by
  induction moves generalizing traffic with
  | nil => exact finalized
  | cons move moves induction => exact induction (phaseOf_move_of_finalized move finalized)

theorem committed_run_of_unended {traffic : Traffic} {unitName : String} {moves : List Move}
    (unended : (traffic.run moves).world.phaseOf unitName ≠ .finalized) :
    (traffic.run moves).world.committed =
      (traffic.publicationsOfOthers unitName moves).foldl Publication.apply
        traffic.world.committed := by
  induction moves generalizing traffic with
  | nil => rfl
  | cons move moves induction =>
      have unendedNow : (traffic.move move).world.phaseOf unitName ≠ .finalized :=
        fun ended => unended (phaseOf_run_of_finalized moves ended)
      rw [publicationsOfOthers, List.foldl_append]
      refine (induction unended).trans (congrArg (List.foldl Publication.apply · _) ?_)
      cases move with
      | event event => exact World.committed_step_of_unended unendedNow
      | start => rfl
      | advance place => exact committed_move_advance traffic place

end Traffic

/-! ## Failures -/

/-- Whatever is made to fail and however far a unit has come: a call that fails leaves the unit as
it was, and so does every service, except one that synchronizes the permissions of a role and
cannot read them at the end, and except seeding. That exception always comes about if it can. And
as long as a unit has not ended, also right after a failure in it, rolling it back leaves the
committed tables as they were when it began, apart from what others have brought into them. -/
theorem failures_leave_tables :
    (∀ {α : Type} (desk after : Desk) (deed : Deed α) (fault : Fault),
      deed.perform.outcome desk = (.error fault, after) →
        desk.Leaves fault after.phase deed) ∧
    (∀ (desk : Desk) (uuid : Uuid) (texts : List String) (draft : Draft) (role : Role),
      desk.CutsOff uuid texts draft role →
        (syncPermissions Desk.backend uuid texts).outcome desk =
          (.error (.server "role.get_permissions"), desk.relinked texts draft role)) ∧
    ∀ (traffic : Traffic) (unitName : String) (moves : List Move) (draft : Draft),
      let begun := traffic.move (.event (.begin unitName))
      let later := begun.run moves
      later.world.phaseOf unitName = .active draft →
      ∀ world, (world = later.world ∨ ∃ (α : Type) (deed : Deed α) (fault : Fault),
          (World.atDesk unitName deed.perform).outcome later.world = (.error fault, world)) →
        ((World.rollback unitName).outcome world).2.committed =
            (begun.publicationsOfOthers unitName moves).foldl Publication.apply
              traffic.world.committed ∧
          ("unit_of_work.rollback" ∉ world.surroundings.failing →
            ((World.rollback unitName).outcome world).1 = .ok ()) := by
  refine ⟨fun desk after deed fault => Desk.leaves_of_error,
    fun desk uuid texts draft role => Desk.CutsOff.outcome, ?_⟩
  intro traffic unitName moves draft begun later active world reached
  have sameAtBegin : begun.world.committed = traffic.world.committed :=
    World.committed_step traffic.world (.begin unitName)
  have committed : later.world.committed =
      (begun.publicationsOfOthers unitName moves).foldl Publication.apply
        traffic.world.committed := by
    rw [← sameAtBegin]
    refine Traffic.committed_run_of_unended fun ended => ?_
    cases active.symm.trans ended
  have stays : world.committed = later.world.committed ∧
      ∃ left, world.phaseOf unitName = .active left := by
    rcases reached with rfl | ⟨α, deed, fault, fails⟩
    · exact ⟨rfl, draft, active⟩
    · rcases World.phaseOf_atDesk_deed active deed with ⟨work, stillActive⟩
      have same := World.committed_atDesk later.world unitName deed.perform
      rw [fails] at same stillActive
      exact ⟨same, _, stillActive⟩
  rcases stays with ⟨same, left, stillActive⟩
  exact ⟨(World.committed_rollback world unitName).trans (same.trans committed),
    World.rollback_of_active stillActive⟩

/-- While the first unit is active, the second one commits a permission. Then replacing permissions
is made to fail. -/
def Traffic.meanwhile : List Move :=
  [.event (.begin "second"),
    .event (.call "second"
      (.createPermission (.fresh "Reading users" .readUser (.ofNat 3) ⟨0, 0⟩))),
    .event (.commit "second"), .event (.around (.disable "role.sync_permissions"))]

def World.overtaken : World :=
  ((Traffic.move ⟨fresh, []⟩ (.event (.begin "first"))).run Traffic.meanwhile).world

/-- Where permissions cannot be read, reading them fails and leaves all as it was, but synchronizing
fails after replacing them. Where they cannot be replaced, seeding fails after creating permissions
and a role, and rolling back leaves only what the second unit has committed. -/
theorem failures_leave_tables_staffed :
    let desk := Desk.working (World.fresh.surroundings.after (.disable "role.get_permissions"))
      .empty .staffed
    (∃ after, (getPermissions Desk.backend (.ofNat 1)).outcome desk =
        (.error (.server "role.get_permissions"), after) ∧ after.phase = desk.phase) ∧
    (∃ after draft, (syncPermissions Desk.backend (.ofNat 1) [(Uuid.ofNat 5).text]).outcome desk =
        (.error (.server "role.get_permissions"), after) ∧
      after.phase = .active draft ∧
      draft.work.attachments = [⟨2, 5⟩, ⟨2, 6⟩, ⟨3, 8⟩, ⟨1, 5⟩]) ∧
    ∃ failed, (World.atDesk "first" (seed Desk.backend)).outcome World.overtaken =
        (.error (.server "role.sync_permissions"), failed) ∧
      (failed.phaseOf "first").copies.map (fun tables =>
        (tables.permissions.length, tables.roles.map (·.key))) = [(0, []), (12, [.superAdmin])] ∧
      ((World.rollback "first").outcome failed).1 = .ok () ∧
      ((World.rollback "first").outcome failed).2.committed =
        { Tables.empty with permissions :=
          [{ Permission.fresh "Reading users" .readUser (.ofNat 3) ⟨0, 0⟩ with id := 1 }] } := by
  intro desk
  rcases failures_leave_tables with ⟨leaves, cutsOff, rollsBack⟩
  refine ⟨?_, ?_, ?_⟩
  · have fault : ((getPermissions Desk.backend (.ofNat 1)).outcome desk).1 =
        .error (.server "role.get_permissions") := by decide +kernel
    have fails := Prod.ext_iff.mpr ⟨fault, rfl⟩
    exact ⟨_, fails, leaves desk _ (.task (.getPermissions (.ofNat 1))) _ fails⟩
  · have found : ∃ role, Workspace.staffed.tables.roleByUuid? (.ofNat 1) = some role ∧
        role.id = 1 := ⟨_, rfl, rfl⟩
    rcases found with ⟨role, found, isFirst⟩
    have cut : desk.CutsOff (.ofNat 1) [(Uuid.ofNat 5).text] ⟨.empty, Workspace.staffed.tables⟩
        role :=
      ⟨⟨by decide +kernel, rfl, found, by decide, by decide, by decide⟩, by decide⟩
    refine ⟨_, _, cutsOff _ _ _ _ _ cut, rfl, ?_⟩
    change (Tables.relinked _ role.id _).attachments = _
    rw [isFirst]
    decide +kernel
  · have active : ∃ draft, World.overtaken.phaseOf "first" = .active draft :=
      ⟨⟨.empty, .empty⟩, by decide +kernel⟩
    rcases active with ⟨draft, active⟩
    have fault : ((World.atDesk "first" (seed Desk.backend)).outcome World.overtaken).1 =
        .error (.server "role.sync_permissions") := by decide +kernel
    have left : (((World.atDesk "first" (seed Desk.backend)).outcome
        World.overtaken).2.phaseOf "first").copies.map (fun tables =>
          (tables.permissions.length, tables.roles.map (·.key))) =
            [(0, []), (12, [.superAdmin])] := by decide +kernel
    have others : ((Traffic.move ⟨World.fresh, []⟩ (.event (.begin "first"))).publicationsOfOthers
        "first" Traffic.meanwhile).foldl Publication.apply World.fresh.committed =
          { Tables.empty with permissions :=
            [{ Permission.fresh "Reading users" .readUser (.ofNat 3) ⟨0, 0⟩ with id := 1 }] } := by
      decide +kernel
    have able : "unit_of_work.rollback" ∉ ((World.atDesk "first" (seed Desk.backend)).outcome
        World.overtaken).2.surroundings.failing := by decide +kernel
    rcases seeded : (World.atDesk "first" (seed Desk.backend)).outcome World.overtaken with
      ⟨result, failed⟩
    rw [seeded] at fault left able
    obtain rfl : result = .error (.server "role.sync_permissions") := fault
    have rolled := rollsBack ⟨World.fresh, []⟩ "first" Traffic.meanwhile draft active failed
      (Or.inr ⟨_, .task .seed, _, seeded⟩)
    exact ⟨failed, rfl, left, rolled.2 able, rolled.1.trans others⟩

end Entitlement
