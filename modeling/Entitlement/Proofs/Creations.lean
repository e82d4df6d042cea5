import Entitlement.Proofs.Access
import Entitlement.Proofs.References

/-! # Creations

A new role or permission has a number that was never in use, so nothing refers to it yet, and
creating it changes nothing about what users hold or whether they are let through. -/

namespace Entitlement

open Store

theorem Action.exists_of_bind {σ α β : Type} {action : Action σ α} {next : α → Action σ β}
    {state later : σ} {value : β} (ends : (action >>= next).outcome state = (.ok value, later)) :
    ∃ first middle, action.outcome state = (.ok first, middle) ∧
      (next first).outcome middle = (.ok value, later) := by
  rw [Action.outcome_bind] at ends
  rcases reached : action.outcome state with ⟨fault | first, middle⟩
  · rw [reached] at ends
    cases ends
  · rw [reached] at ends
    exact ⟨first, middle, rfl, ends⟩

/-! ## New rows -/

namespace Store.Tables

structure Extends (tables later : Tables) : Prop where
  roles : ∃ added, later.roles = tables.roles ++ added ∧
    ∀ role ∈ added, (Kind.role, role.id) ∉ tables.references
  permissions : ∃ added, later.permissions = tables.permissions ++ added ∧
    ∀ permission ∈ added, (Kind.permission, permission.id) ∉ tables.references
  attachments : later.attachments = tables.attachments
  grants : later.grants = tables.grants

variable {tables later : Tables}

theorem Extends.references (extended : tables.Extends later) :
    later.references = tables.references := by
  simp only [Tables.references, extended.attachments, extended.grants]

theorem Extends.roleById? (extended : tables.Extends later) {id : Int}
    (isNamed : (Kind.role, id) ∈ tables.references) :
    later.roleById? id = tables.roleById? id := by
  rcases extended.roles with ⟨added, whole, unnamed⟩
  have none : added.find? (fun role => role.id = id && role.isLive) = none := by
    rw [List.find?_eq_none]
    intro role member
    have different : role.id ≠ id := fun same => unnamed role member (same ▸ isNamed)
    simp [different]
  rw [Tables.roleById?, Tables.roleById?, whole, List.find?_append, none, Option.or_none]

theorem Extends.permissionById? (extended : tables.Extends later) {id : Int}
    (isNamed : (Kind.permission, id) ∈ tables.references) :
    later.permissionById? id = tables.permissionById? id := by
  rcases extended.permissions with ⟨added, whole, unnamed⟩
  have none : added.find? (fun permission => permission.id = id && permission.isLive) = none := by
    rw [List.find?_eq_none]
    intro permission member
    have different : permission.id ≠ id := fun same => unnamed permission member (same ▸ isNamed)
    simp [different]
  rw [Tables.permissionById?, Tables.permissionById?, whole, List.find?_append, none,
    Option.or_none]

theorem mem_references_of_grant {grant : Grant} {reference : Reference}
    (member : grant ∈ tables.grants) (isNamed : reference ∈ grant.references) :
    reference ∈ tables.references :=
  (mem_references_iff _ _).mpr (Or.inr ⟨grant, member, isNamed⟩)

theorem Extends.liveGrants (extended : tables.Extends later) (userId : Int) :
    later.liveGrants userId = tables.liveGrants userId := by
  rw [Tables.liveGrants, Tables.liveGrants, extended.grants]

theorem Extends.roleOfGrant (extended : tables.Extends later) {grant : Grant}
    (member : grant ∈ tables.grants) :
    grant.roleId.bind later.roleById? = grant.roleId.bind tables.roleById? := by
  rcases named : grant.roleId with _ | id
  · rfl
  · exact extended.roleById? (mem_references_of_grant member (by simp [Grant.references, named]))

theorem Extends.roleKeysOf (extended : tables.Extends later) (userId : Int) :
    later.roleKeysOf userId = tables.roleKeysOf userId := by
  rw [Tables.roleKeysOf, Tables.roleKeysOf, extended.liveGrants]
  congr 1
  apply List.filterMap_congr
  intro grant member
  rw [extended.roleOfGrant (List.mem_filter.mp member).1]

theorem Extends.permissionsOfRole (extended : tables.Extends later) (roleId : Int) :
    later.permissionsOfRole roleId = tables.permissionsOfRole roleId := by
  rw [Tables.permissionsOfRole, Tables.permissionsOfRole, extended.attachments]
  apply List.filterMap_congr
  intro attachment member
  apply extended.permissionById?
  rw [mem_references_iff]
  exact Or.inl ⟨attachment, (List.mem_filter.mp member).1, by simp [Attachment.references]⟩

theorem Extends.permissionsOfGrant (extended : tables.Extends later) {grant : Grant}
    (member : grant ∈ tables.grants) :
    later.permissionsOfGrant grant = tables.permissionsOfGrant grant := by
  have sameDirect : grant.permissionId.bind later.permissionById? =
      grant.permissionId.bind tables.permissionById? := by
    rcases named : grant.permissionId with _ | id
    · rfl
    · exact extended.permissionById?
        (mem_references_of_grant member (by simp [Grant.references, named]))
  simp only [Tables.permissionsOfGrant, extended.roleOfGrant member, sameDirect,
    extended.permissionsOfRole]

theorem Extends.permissionKeysOf (extended : tables.Extends later) (userId : Int) :
    later.permissionKeysOf userId = tables.permissionKeysOf userId := by
  rw [Tables.permissionKeysOf, Tables.permissionKeysOf, extended.liveGrants]
  congr 2
  apply List.flatMap_congr
  intro grant member
  exact extended.permissionsOfGrant (List.mem_filter.mp member).1

end Store.Tables

/-! ## What an access check depends on -/

inductive Phase.HoldsAs : Phase → Phase → Prop where
  | idle : HoldsAs .idle .idle
  | finalized : HoldsAs .finalized .finalized
  | active (draft later : Draft)
      (roleKeys : ∀ userId, later.work.roleKeysOf userId = draft.work.roleKeysOf userId)
      (permissionKeys : ∀ userId,
        later.work.permissionKeysOf userId = draft.work.permissionKeysOf userId) :
      HoldsAs (.active draft) (.active later)

theorem Phase.HoldsAs.refl (phase : Phase) : phase.HoldsAs phase := by
  cases phase with
  | idle => exact .idle
  | active draft => exact .active draft draft (fun _ => rfl) fun _ => rfl
  | finalized => exact .finalized

namespace Desk

structure Resembles (desk later : Desk) : Prop where
  phase : desk.phase.HoldsAs later.phase
  users : later.surroundings.users = desk.surroundings.users
  failing : later.surroundings.failing = desk.surroundings.failing

theorem Resembles.check {desk later : Desk} (resembles : desk.Resembles later)
    (operation : Operation) :
    later.surroundings.check operation = desk.surroundings.check operation := by
  rw [Surroundings.check, Surroundings.check, resembles.failing]

/-- At desks that resemble each other, an action ends in the same way, and they still resemble
each other afterwards. -/
def Impartial {α : Type} (action : Action Desk α) : Prop :=
  ∀ desk later : Desk, desk.Resembles later →
    (action.outcome later).1 = (action.outcome desk).1 ∧
      (action.outcome desk).2.Resembles (action.outcome later).2

section

variable {α β : Type}

theorem impartial_pure (value : α) : Impartial (pure value) :=
  fun _ _ resembles => ⟨rfl, resembles⟩

theorem impartial_ofExcept (result : Except Fault α) :
    Impartial (MonadExcept.ofExcept result) := by
  intro desk later resembles
  rw [Action.outcome_ofExcept, Action.outcome_ofExcept]
  exact ⟨rfl, resembles⟩

theorem Impartial.bind {action : Action Desk α} {next : α → Action Desk β}
    (impartial : Impartial action) (impartialNext : ∀ value, Impartial (next value)) :
    Impartial (action >>= next) := by
  intro desk later resembles
  rcases impartial desk later resembles with ⟨sameResult, stillResembles⟩
  rw [Action.outcome_bind, Action.outcome_bind]
  generalize action.outcome desk = here at sameResult stillResembles
  generalize action.outcome later = there at sameResult stillResembles
  rcases here with ⟨fault | value, after⟩
  · rcases there with ⟨result, afterLater⟩
    cases sameResult
    exact ⟨rfl, stillResembles⟩
  · rcases there with ⟨result, afterLater⟩
    cases sameResult
    exact impartialNext value _ _ stillResembles

theorem impartial_userByUuid (text : String) : Impartial (backend.userByUuid text) := by
  intro desk later resembles
  refine ⟨?_, resembles⟩
  change later.surroundings.userByUuid text = desk.surroundings.userByUuid text
  rw [Surroundings.userByUuid, Surroundings.userByUuid, resembles.users]

theorem impartial_enter (area : Area) : Impartial (backend.enter area) := by
  intro desk later resembles
  refine ⟨?_, resembles⟩
  rcases desk with ⟨phase, surroundings⟩
  rcases later with ⟨phaseLater, surroundingsLater⟩
  cases resembles.phase <;> rfl

theorem impartial_countDecision (decision : Decision) :
    Impartial (backend.countDecision decision) :=
  fun _ _ resembles => ⟨rfl, ⟨resembles.phase, resembles.users, resembles.failing⟩⟩

/-- A question about the working copy is answered in the same way where the answer is the same
for both copies. -/
theorem impartial_call {call : Call α} (read : Tables → α)
    (reads : Workspace.perform call = Action.reading fun copy => .ok (read copy.tables))
    (same : ∀ draft later : Draft, Phase.HoldsAs (.active draft) (.active later) →
      read later.work = read draft.work) : Impartial (backend.call call) := by
  intro desk later resembles
  have sameCheck := resembles.check call.operation
  rcases desk with ⟨phase, surroundings⟩
  rcases later with ⟨phaseLater, surroundingsLater⟩
  change ((within call.operation (Workspace.perform call)).outcome _).1 =
    ((within call.operation (Workspace.perform call)).outcome _).1 ∧
      Resembles ((within call.operation (Workspace.perform call)).outcome _).2
        ((within call.operation (Workspace.perform call)).outcome _).2
  simp only [within, Action.outcome_ofOutcome, reads, Action.outcome_reading]
  rw [sameCheck]
  have phases := resembles.phase
  rcases surroundings.check call.operation with fault | _
  · exact ⟨rfl, resembles⟩
  · cases phases with
    | idle | finalized => exact ⟨rfl, resembles⟩
    | active draft other roleKeys permissionKeys =>
        exact ⟨congrArg Except.ok (same draft other resembles.phase), resembles⟩

theorem impartial_roleKeysOf (userId : Int) : Impartial (backend.call (.roleKeysOf userId)) := by
  apply impartial_call (fun tables => tables.roleKeysOf userId) rfl
  intro draft later holds
  cases holds with
  | active _ _ roleKeys => exact roleKeys userId

theorem impartial_permissionKeysOf (userId : Int) :
    Impartial (backend.call (.permissionKeysOf userId)) := by
  apply impartial_call (fun tables => tables.permissionKeysOf userId) rfl
  intro draft later holds
  cases holds with
  | active _ _ _ permissionKeys => exact permissionKeys userId

end

theorem impartial_activeUser (text : String) : Impartial (Service.activeUser backend text) :=
  (impartial_userByUuid text).bind fun user =>
    (impartial_ofExcept (user.status.requireActive user.uuid)).bind fun _ => impartial_pure user

theorem impartial_checkAccess (text : String) (required : List PermissionKey) :
    Impartial (Service.checkAccess backend text required) := by
  have counted : ∀ decision, Impartial (do
      backend.countDecision decision
      return decision) := fun decision =>
    (impartial_countDecision decision).bind fun _ => impartial_pure decision
  apply (impartial_activeUser text).bind
  intro user
  apply (impartial_enter .roles).bind
  intro _
  apply (impartial_roleKeysOf user.id).bind
  intro roleKeys
  dsimp only
  split
  · exact (impartial_pure _).bind counted
  · apply (impartial_enter .permissions).bind
    intro _
    apply (impartial_permissionKeysOf user.id).bind
    intro effective
    exact (impartial_pure _).bind counted

/-! ## Creating a row -/

/-- A call fails and changes nothing, or it does to an active unit what it does to the working
copy. -/
theorem outcome_call_cases {α : Type} (call : Call α) (desk : Desk) :
    (backend.call call).outcome desk = (.error call.operation.failure, desk) ∨
      ∃ draft, desk.phase = .active draft ∧
        let ended := (Workspace.perform call).outcome ⟨draft.work, desk.surroundings.supply⟩
        (backend.call call).outcome desk = (ended.1,
          ⟨.active { draft with work := ended.2.tables },
            { desk.surroundings with supply := ended.2.supply }⟩) := by
  rcases desk with ⟨phase, surroundings⟩
  have ends : (backend.call call).outcome ⟨phase, surroundings⟩ =
    (within call.operation (Workspace.perform call)).outcome ⟨phase, surroundings⟩ := rfl
  rw [within, Action.outcome_ofOutcome] at ends
  rcases World.check_cases surroundings call.operation with passes | fails
  · simp only [passes] at ends
    cases phase with
    | idle | finalized => exact Or.inl ends
    | active draft => exact Or.inr ⟨draft, rfl, ends⟩
  · simp only [fails] at ends
    exact Or.inl ends

theorem exists_of_answered {α : Type} {desk later : Desk} {call : Call α} {value : α}
    (answered : (backend.call call).outcome desk = (.ok value, later)) :
    ∃ draft workspace, desk.phase = .active draft ∧
      (Workspace.perform call).outcome ⟨draft.work, desk.surroundings.supply⟩ =
        (.ok value, workspace) ∧
      later = ⟨.active { draft with work := workspace.tables },
        { desk.surroundings with supply := workspace.supply }⟩ := by
  rcases outcome_call_cases call desk with refuses | ⟨draft, active, ends⟩
  · cases answered.symm.trans refuses
  · rcases performed : (Workspace.perform call).outcome ⟨draft.work, desk.surroundings.supply⟩ with
      ⟨result, workspace⟩
    rw [performed] at ends
    cases answered.symm.trans ends
    exact ⟨draft, workspace, active, performed, rfl⟩

/-- A row was added to the working copy under the next number. Nothing else has happened, but
for clocks and identifiers. -/
structure Creates (desk later : Desk) (reference : Reference) : Prop where
  work : ∃ draft tables, desk.phase = .active draft ∧
    later.phase = .active { draft with work := tables } ∧
    (reference ∉ draft.work.references → draft.work.Extends tables)
  number : reference.2 = desk.surroundings.supply.takeId.1
  users : later.surroundings.users = desk.surroundings.users
  failing : later.surroundings.failing = desk.surroundings.failing

theorem creates_of_createRole {desk later : Desk} {role created : Role}
    (answered : (backend.call (.createRole role)).outcome desk = (.ok created, later)) :
    desk.Creates later (.role, created.id) := by
  rcases exists_of_answered answered with ⟨draft, workspace, active, performed, rfl⟩
  change (Workspace.createRole role).outcome _ = _ at performed
  rw [Workspace.createRole, Action.outcome_ofOutcome] at performed
  split at performed
  · cases performed
  · cases performed
    refine ⟨⟨draft, _, active, rfl, fun unreferenced => ⟨⟨_, rfl, ?_⟩, ?_, rfl, rfl⟩⟩,
      rfl, rfl, rfl⟩
    · intro added member
      rw [List.mem_singleton.mp member]
      exact unreferenced
    · exact ⟨[], (List.append_nil _).symm, by simp⟩

theorem creates_of_createPermission {desk later : Desk} {permission created : Permission}
    (answered :
      (backend.call (.createPermission permission)).outcome desk = (.ok created, later)) :
    desk.Creates later (.permission, created.id) := by
  rcases exists_of_answered answered with ⟨draft, workspace, active, performed, rfl⟩
  change (Workspace.createPermission permission).outcome _ = _ at performed
  rw [Workspace.createPermission, Action.outcome_ofOutcome] at performed
  split at performed
  · cases performed
  · cases performed
    refine ⟨⟨draft, _, active, rfl, fun unreferenced => ⟨?_, ⟨_, rfl, ?_⟩, rfl, rfl⟩⟩,
      rfl, rfl, rfl⟩
    · exact ⟨[], (List.append_nil _).symm, by simp⟩
    · intro added member
      rw [List.mem_singleton.mp member]
      exact unreferenced

structure Idles (desk later : Desk) : Prop where
  phase : later.phase = desk.phase
  lastId : later.surroundings.supply.lastId = desk.surroundings.supply.lastId
  users : later.surroundings.users = desk.surroundings.users
  failing : later.surroundings.failing = desk.surroundings.failing

theorem Creates.after {desk middle later : Desk} {reference : Reference}
    (creates : middle.Creates later reference) (idles : desk.Idles middle) :
    desk.Creates later reference where
  work := by
    rw [← idles.phase]
    exact creates.work
  number := by
    have same : middle.surroundings.supply.takeId.1 = desk.surroundings.supply.takeId.1 :=
      congrArg (fun id => Width.signed64 (id + 1)) idles.lastId
    rw [← same]
    exact creates.number
  users := creates.users.trans idles.users
  failing := creates.failing.trans idles.failing

theorem creates_of_service {desk later : Desk} {input : RoleInput} {created : Role}
    (ends : (Service.createRole backend input).outcome desk = (.ok created, later)) :
    desk.Creates later (.role, created.id) := by
  rcases Action.exists_of_bind ends with ⟨title, _, isTitle, afterTitle⟩
  rcases Action.exists_of_bind afterTitle with ⟨key, _, isKey, afterKey⟩
  rcases Action.exists_of_bind afterKey with ⟨_, _, entered, afterEntry⟩
  rcases Action.exists_of_bind afterEntry with ⟨used, middle, answered, rest⟩
  rw [Action.outcome_ofExcept] at isTitle isKey
  cases (Prod.mk.inj isTitle).2
  cases (Prod.mk.inj isKey).2
  cases (Prod.mk.inj entered).2
  have idles : desk.Idles middle := by
    rcases exists_of_answered answered with ⟨draft, workspace, active, performed, rfl⟩
    cases performed
    exact ⟨active.symm, rfl, rfl, rfl⟩
  dsimp only at rest
  split at rest
  · rcases Action.exists_of_bind rest with ⟨_, _, thrown, -⟩
    cases thrown
  · rcases Action.exists_of_bind rest with ⟨now, _, isNow, afterClock⟩
    rcases Action.exists_of_bind afterClock with ⟨uuid, _, isUuid, stores⟩
    cases isNow
    cases isUuid
    apply (creates_of_createRole stores).after
    exact ⟨idles.phase, idles.lastId, idles.users, idles.failing⟩

end Desk

namespace World

/-- Nothing refers to a row, and since it was not there, users have kept what they hold in the
committed tables and in every working copy, and every access check has kept its result. -/
structure Unaffected (world later : World) (reference : Reference) : Prop where
  unreferenced : ∀ tables ∈ later.copies, reference ∉ tables.references
  committed : later.committed = world.committed
  holdings : ∀ unitName, (world.phaseOf unitName).HoldsAs (later.phaseOf unitName)
  decisions : ∀ unitName text required,
    ((atDesk unitName (Service.checkAccess Desk.backend text required)).outcome later).1 =
      ((atDesk unitName (Service.checkAccess Desk.backend text required)).outcome world).1

theorem Reachable.unreferenced {world : World} (reachable : Reachable Grounded world) {id : Int}
    (isNew : ¬ world.surroundings.supply.Covers id) (kind : Kind) :
    ∀ tables ∈ world.copies, (kind, id) ∉ tables.references := by
  intro tables member isNamed
  have has : id ∈ tables.ids kind := reachable.intact tables member _ isNamed
  have numbered := (reachable.of_grounded.orderly tables member).numbered
  apply isNew
  cases kind with
  | role =>
      rcases List.mem_map.mp has with ⟨role, inTable, rfl⟩
      exact numbered.roles role inTable
  | permission =>
      rcases List.mem_map.mp has with ⟨permission, inTable, rfl⟩
      exact numbered.permissions permission inTable
  | grant =>
      rcases List.mem_map.mp has with ⟨grant, inTable, rfl⟩
      exact numbered.grants grant inTable

end World

theorem Desk.Creates.unaffected {world : World} {unitName : String} {later : Desk}
    {reference : Reference}
    (creates : Desk.Creates ⟨world.phaseOf unitName, world.surroundings⟩ later reference)
    (reachable : World.Reachable World.Grounded world)
    (lasts : world.surroundings.supply.Lasts 1) :
    world.Unaffected { world.setPhase unitName later.phase with
      surroundings := later.surroundings } reference := by
  rcases creates.work with ⟨draft, tables, active, isActive, whenUnreferenced⟩
  have active : world.phaseOf unitName = .active draft := active
  have unreferenced : ∀ tables ∈ world.copies, reference ∉ tables.references := by
    apply reachable.unreferenced
    rw [creates.number]
    exact Supply.not_covers_takeId lasts
  have extended := whenUnreferenced (unreferenced _ (World.work_mem_copies active))
  have holdings : ∀ other, (world.phaseOf other).HoldsAs
      ((world.setPhase unitName later.phase).phaseOf other) := by
    intro other
    by_cases same : other = unitName
    · subst same
      rw [World.phaseOf_setPhase_self, isActive, active]
      exact .active _ _ extended.roleKeysOf extended.permissionKeysOf
    · rw [World.phaseOf_setPhase_other world later.phase same]
      exact .refl _
  refine ⟨?_, rfl, holdings, fun other text required => ?_⟩
  · intro copy member
    have member : copy ∈ (world.setPhase unitName later.phase).copies := member
    rcases World.mem_copies_setPhase member with inPhase | inWorld
    · rw [isActive] at inPhase
      rcases List.mem_pair.mp inPhase with rfl | rfl
      · exact unreferenced draft.base (World.base_mem_copies active)
      · rw [extended.references]
        exact unreferenced _ (World.work_mem_copies active)
    · exact unreferenced copy inWorld
  · exact (Desk.impartial_checkAccess text required ⟨world.phaseOf other, world.surroundings⟩
      ⟨(world.setPhase unitName later.phase).phaseOf other, later.surroundings⟩
      ⟨holdings other, creates.users, creates.failing⟩).1

end Entitlement
