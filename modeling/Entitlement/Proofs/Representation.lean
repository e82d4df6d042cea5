import Entitlement.Proofs.Separation

/-! # What is true of every copy of the tables

As long as rows are stored with care and the counter has not come to the largest number, the
tables of every copy are sound: rows have keys of their own and numbers up to the last one
that was given out, a grant gives one thing, and a role that was deleted has an author of its
deletion and is not a default role. -/

namespace Entitlement

open Store

/-! ## Rows -/

/-- A role has a moment of deletion exactly if it has an author of the deletion. A role that
has been deleted is not a default role. -/
structure Role.IsSound (role : Role) : Prop where
  author : role.deletedBy.isSome = role.deletedAt.isSome
  optional : role.isLive = false → role.isDefault = false

def Grant.GivesOne (grant : Grant) : Prop :=
  grant.roleId.isSome = !grant.permissionId.isSome

theorem Role.isSound_of_undeleted {role : Role}
    (undeleted : role.deletedAt = none ∧ role.deletedBy = none) : role.IsSound := by
  rcases undeleted with ⟨noMoment, noAuthor⟩
  exact ⟨by simp [noMoment, noAuthor], fun gone => by simp [isLive, noMoment] at gone⟩

theorem Role.Changes.isSound {role later : Role} (changes : role.Changes later)
    (sound : role.IsSound) : later.IsSound := by
  cases changes with
  | same => exact sound
  | updated live =>
      refine ⟨sound.author, fun gone => ?_⟩
      have notLive : role.isLive = false := gone
      rw [live] at notLive
      cases notLive
  | deleted _ optional => exact ⟨rfl, fun _ => optional⟩

theorem Grant.Becomes.givesOne {grant later : Grant} (becomes : grant.Becomes later)
    (one : grant.GivesOne) : later.GivesOne := by
  rw [becomes.sameContent]
  exact one

/-! ## Tables -/

namespace Store

/-- No two rows of a table have the same key, no number is larger than the last one that was
given out or kept, and every row is sound. -/
structure Tables.Sound (tables : Tables) (lastId : Int) : Prop extends KeysDistinct tables where
  passed : ∀ kind, ∀ id ∈ tables.ids kind, id ≤ lastId
  rolesSound : ∀ role ∈ tables.roles, role.IsSound
  grantsGiveOne : ∀ grant ∈ tables.grants, grant.GivesOne

theorem Tables.sound_empty (lastId : Int) : Tables.empty.Sound lastId where
  toKeysDistinct := keysDistinct_empty
  passed := fun kind _ member => by cases kind <;> cases member
  rolesSound := fun _ member => by cases member
  grantsGiveOne := fun _ member => by cases member

theorem Tables.Sound.mono {tables : Tables} {lastId later : Int} (sound : tables.Sound lastId)
    (upward : lastId ≤ later) : tables.Sound later :=
  { sound with passed := fun kind id member => Int.le_trans (sound.passed kind id member) upward }

theorem Tables.Sound.merge {committed work : Tables} {lastId : Int}
    (sound : committed.Sound lastId) (soundWork : work.Sound lastId) (base : Tables) :
    (committed.merge base work).Sound lastId where
  toKeysDistinct := sound.toKeysDistinct.merge base work
  passed := fun kind id member => (mem_ids_merge member).elim (sound.passed kind id)
    (soundWork.passed kind id)
  rolesSound := fun role member => (mem_of_mem_mergeRows member).elim (sound.rolesSound role)
    fun changed => soundWork.rolesSound role changed.1
  grantsGiveOne := fun grant member => (mem_of_mem_mergeRows member).elim
    (sound.grantsGiveOne grant) fun changed => soundWork.grantsGiveOne grant changed.1

theorem nodup_ids_append {ids added : List Int} {lastId : Int} (distinct : ids.Nodup)
    (passed : ∀ id ∈ ids, id ≤ lastId) (distinctAdded : added.Nodup)
    (behind : ∀ id ∈ added, lastId < id) : (ids ++ added).Nodup := by
  refine List.nodup_append.mpr ⟨distinct, distinctAdded, fun old inIds new isNew equal => ?_⟩
  have before := passed old inIds
  have after := behind new isNew
  omega

theorem passed_append {ids : List Int} {lastId id : Int} (passed : ∀ old ∈ ids, old ≤ lastId)
    (behind : lastId < id) : ∀ present ∈ ids ++ [id], present ≤ id := by
  intro present member
  rcases List.mem_append.mp member with old | isNew
  · exact Int.le_trans (passed present old) (Int.le_of_lt behind)
  · exact Int.le_of_eq (List.mem_singleton.mp isNew)

namespace Workspace

theorem Change.nodup_attachments {α : Type} {workspace later : Workspace} {call : Call α}
    (change : Change workspace call later)
    (distinct : (workspace.tables.attachments.map
      fun row => (row.roleId, row.permissionId)).Nodup) :
    (later.tables.attachments.map fun row => (row.roleId, row.permissionId)).Nodup := by
  cases change with
  | replacePermissions roleId permissionIds =>
      exact nodup_replaceAttachments distinct roleId permissionIds
  | none | createRole | updateRole | deleteRole | createPermission | assignRoles
  | grantPermissions => exact distinct

theorem Growth.increasing {α : Type} {workspace later : Workspace} {call : Call α}
    {added : Tables} (growth : Growth workspace call later added)
    (start : 0 ≤ workspace.supply.lastId) (low : workspace.supply.lastId < Width.maxSigned64)
    (below : ∀ kind, ∀ id ∈ later.tables.ids kind, id < Width.maxSigned64) :
    workspace.supply.lastId ≤ later.supply.lastId ∧
      later.supply.lastId < Width.maxSigned64 ∧ added.numbers.Nodup ∧
      ∀ id ∈ added.numbers, workspace.supply.lastId < id ∧ id ≤ later.supply.lastId := by
  apply growth.numbers.increasing start low
  intro id member
  rcases Tables.mem_numbers_iff.mp member with ⟨kind, inAdded⟩
  apply below kind
  rw [growth.ids kind]
  exact List.mem_append_right _ inAdded

def CreatesLive {α : Type} (call : Call α) : Prop :=
  ∀ role ∈ call.newRole?, role.deletedAt = none ∧ role.deletedBy = none

theorem Change.sound {α : Type} {workspace later : Workspace} {call : Call α}
    (change : Change workspace call later) (live : CreatesLive call)
    (start : 0 ≤ workspace.supply.lastId) (low : workspace.supply.lastId < Width.maxSigned64)
    (below : ∀ kind, ∀ id ∈ later.tables.ids kind, id < Width.maxSigned64)
    (sound : workspace.tables.Sound workspace.supply.lastId) :
    later.tables.Sound later.supply.lastId ∧
      workspace.supply.lastId ≤ later.supply.lastId ∧
      later.supply.lastId < Width.maxSigned64 := by
  rcases change.growth with ⟨added, growth, -⟩
  rcases growth.increasing start low below with ⟨upward, stillLow, distinctAdded, between⟩
  have distinctIds : ∀ kind, (later.tables.ids kind).Nodup := by
    intro kind
    rw [growth.ids kind]
    apply nodup_ids_append (sound.toIdsDistinct.ids kind) (sound.passed kind)
    · exact distinctAdded.sublist (added.ids_sublist_numbers kind)
    · exact fun id isNew => (between id (Tables.mem_numbers_iff.mpr ⟨kind, isNew⟩)).1
  refine ⟨?_, upward, stillLow⟩
  exact {
    roles := distinctIds .role
    permissions := distinctIds .permission
    grants := distinctIds .grant
    attachments := change.nodup_attachments sound.attachments
    passed := by
      intro kind id member
      rw [growth.ids kind] at member
      rcases List.mem_append.mp member with old | isNew
      · exact Int.le_trans (sound.passed kind id old) upward
      · exact (between id (Tables.mem_numbers_iff.mpr ⟨kind, isNew⟩)).2
    rolesSound := by
      intro role member
      rcases growth.roles.origin role member with ⟨present, inTable, changes⟩ | isNew
      · exact changes.isSound (sound.rolesSound present inTable)
      · rcases growth.created role isNew with ⟨asked, asks, id, rfl⟩
        exact Role.isSound_of_undeleted (live asked asks)
    grantsGiveOne := by
      intro grant member
      rcases growth.grants.origin grant member with ⟨present, inTable, becomes⟩ | isNew
      · exact becomes.givesOne (sound.grantsGiveOne present inTable)
      · exact (growth.granted grant isNew).2 }

end Workspace

theorem Supply.lt_numberFor {supply : Supply} {chosen : Int}
    (late : chosen = 0 ∨ supply.lastId < chosen) (start : 0 ≤ supply.lastId)
    (low : supply.lastId < Width.maxSigned64)
    (below : (supply.numberFor chosen).1 < Width.maxSigned64) :
    supply.lastId < (supply.numberFor chosen).1 ∧
      (supply.numberFor chosen).2.lastId = (supply.numberFor chosen).1 := by
  rw [numberFor] at below ⊢
  by_cases unchosen : chosen = 0
  · rw [if_pos unchosen] at below ⊢
    have counts : Counts supply.lastId [supply.takeId.1] supply.takeId.1 := ⟨rfl, rfl⟩
    have increasing := counts.increasing start low (by simpa using below)
    exact ⟨(increasing.2.2.2 _ List.mem_cons_self).1, rfl⟩
  · rw [if_neg unchosen]
    have behind := late.resolve_left unchosen
    exact ⟨behind, Int.max_eq_right (Int.le_of_lt behind)⟩

section

variable {tables : Tables} {lastId id : Int}

theorem Tables.Sound.addRole (sound : tables.Sound lastId) (behind : lastId < id) {role : Role}
    (live : role.deletedAt = none ∧ role.deletedBy = none) :
    Sound { tables with roles := tables.roles ++ [{ role with id }] } id where
  roles := by
    rw [List.map_append]
    exact nodup_ids_append sound.roles (sound.passed .role) (List.nodup_singleton _)
      (by simpa using behind)
  permissions := sound.permissions
  grants := sound.grants
  attachments := sound.attachments
  passed := by
    have moved := sound.mono (Int.le_of_lt behind)
    intro kind
    cases kind with
    | role =>
        rw [ids, List.map_append]
        exact passed_append (sound.passed .role) behind
    | permission => exact moved.passed .permission
    | grant => exact moved.passed .grant
  rolesSound := by
    intro present member
    rcases List.mem_append.mp member with old | isNew
    · exact sound.rolesSound present old
    · rw [List.mem_singleton.mp isNew]
      exact Role.isSound_of_undeleted live
  grantsGiveOne := sound.grantsGiveOne

theorem Tables.Sound.addPermission (sound : tables.Sound lastId) (behind : lastId < id)
    (permission : Permission) :
    Sound { tables with permissions := tables.permissions ++ [{ permission with id }] } id where
  roles := sound.roles
  permissions := by
    rw [List.map_append]
    exact nodup_ids_append sound.permissions (sound.passed .permission) (List.nodup_singleton _)
      (by simpa using behind)
  grants := sound.grants
  attachments := sound.attachments
  passed := by
    have moved := sound.mono (Int.le_of_lt behind)
    intro kind
    cases kind with
    | permission =>
        rw [ids, List.map_append]
        exact passed_append (sound.passed .permission) behind
    | role => exact moved.passed .role
    | grant => exact moved.passed .grant
  rolesSound := sound.rolesSound
  grantsGiveOne := sound.grantsGiveOne

end

end Store

/-! ## Events -/

def Event.StoresLive : Event → Prop
  | .call _ asked => Workspace.CreatesLive asked
  | .insertRole role => role.deletedAt = none ∧ role.deletedBy = none
  | _ => True

instance : (event : Event) → Decidable event.StoresLive
  | .call _ asked => inferInstanceAs (Decidable (∀ role ∈ asked.newRole?,
      role.deletedAt = none ∧ role.deletedBy = none))
  | .insertRole role =>
      inferInstanceAs (Decidable (role.deletedAt = none ∧ role.deletedBy = none))
  | .begin _ | .commit _ | .rollback _ | .insertPermission _ | .around _ => .isTrue True.intro

namespace World

def ChoosesLate (world : World) : Event → Prop
  | .insertRole role => role.id = 0 ∨ world.surroundings.supply.lastId < role.id
  | .insertPermission permission =>
      permission.id = 0 ∨ world.surroundings.supply.lastId < permission.id
  | _ => True

instance (world : World) : (event : Event) → Decidable (world.ChoosesLate event)
  | .insertRole _ => inferInstanceAs (Decidable (_ = 0 ∨ _ < _))
  | .insertPermission _ => inferInstanceAs (Decidable (_ = 0 ∨ _ < _))
  | .begin _ | .call _ _ | .commit _ | .rollback _ | .around _ => .isTrue True.intro

/-- No row has the largest number: since each number that the counter gives out or keeps is
the number of a row, the counter stays below the largest one. -/
def StaysBelow (world : World) : Prop :=
  ∀ tables ∈ world.copies, ∀ id ∈ tables.numbers, id < Width.maxSigned64

instance (world : World) : Decidable world.StaysBelow :=
  inferInstanceAs (Decidable (∀ tables ∈ world.copies, ∀ id ∈ tables.numbers, _))

def Regular (world : World) (event : Event) : Prop :=
  world.ChoosesLate event ∧ event.StoresLive ∧ (world.step event).StaysBelow

instance (world : World) (event : Event) : Decidable (world.Regular event) :=
  inferInstanceAs (Decidable (_ ∧ _ ∧ _))

structure Sound (world : World) : Prop where
  start : 0 ≤ world.surroundings.supply.lastId
  low : world.surroundings.supply.lastId < Width.maxSigned64
  tables : ∀ tables ∈ world.copies, tables.Sound world.surroundings.supply.lastId
  separate : world.Separate

theorem StaysBelow.ids {world : World} (below : world.StaysBelow) {tables : Tables}
    (member : tables ∈ world.copies) (kind : Kind) :
    ∀ id ∈ tables.ids kind, id < Width.maxSigned64 :=
  fun id inTables => below tables member id (Tables.mem_numbers_iff.mpr ⟨kind, inTables⟩)

theorem forall_copies_setPhase {world : World} {property : Tables → Prop}
    (all : ∀ tables ∈ world.copies, property tables) {phase : Phase}
    (allNew : ∀ tables ∈ phase.copies, property tables) (unitName : String) :
    ∀ tables ∈ (world.setPhase unitName phase).copies, property tables := by
  intro tables member
  rcases mem_copies_setPhase member with inPhase | inWorld
  · exact allNew tables inPhase
  · exact all tables inWorld

theorem phaseOf_call {α : Type} {world : World} {unitName : String} {draft : Draft}
    {call : Call α} (active : world.phaseOf unitName = .active draft)
    (passes : world.surroundings.check call.operation = .ok ()) :
    (world.step (.call unitName call)).phaseOf unitName = .active { draft with
      work := ((Workspace.perform call).outcome
        ⟨draft.work, world.surroundings.supply⟩).2.tables } := by
  rw [step, outcome_request_of_active active, passes]
  exact phaseOf_setPhase_self world unitName _

theorem Sound.numbersAnew {world : World} {event : Event} (sound : world.Sound)
    (regular : world.Regular event) : world.NumbersAnew event := by
  have isFree : ∀ kind id, world.surroundings.supply.lastId < id → world.IsFree kind id := by
    intro kind id behind tables copy member
    have passed := (sound.tables tables copy).passed kind id member
    omega
  rcases regular with ⟨late, -, below⟩
  cases event with
  | call unitName call =>
      intro draft active passes kind id member
      rcases (Workspace.perform_change call ⟨draft.work, world.surroundings.supply⟩).growth with
        ⟨added, growth, -⟩
      have increasing := growth.increasing sound.start sound.low
        (below.ids (work_mem_copies (phaseOf_call active passes)))
      rw [growth.ids kind] at member
      rcases List.mem_append.mp member with old | isNew
      · exact Or.inl old
      · have isAdded : id ∈ added.numbers := Tables.mem_numbers_iff.mpr ⟨kind, isNew⟩
        exact Or.inr (isFree kind id (increasing.2.2.2 id isAdded).1)
  | insertRole role =>
      apply isFree
      refine (Supply.lt_numberFor late sound.start sound.low ?_).1
      apply below.ids (committed_mem_copies _) .role
      simp [step, insertRole, Supply.numberFor, Tables.ids]
  | insertPermission permission =>
      apply isFree
      refine (Supply.lt_numberFor late sound.start sound.low ?_).1
      apply below.ids (committed_mem_copies _) .permission
      simp [step, insertPermission, Supply.numberFor, Tables.ids]
  | begin | commit | rollback | around => trivial

theorem Transition.sound {world later : World} {event : Event}
    (transition : Transition world event later) (sound : world.Sound)
    (late : world.ChoosesLate event) (live : event.StoresLive) (below : later.StaysBelow)
    (anew : world.NumbersAnew event) : later.Sound := by
  have committedSound := sound.tables _ (committed_mem_copies world)
  suffices grown : world.surroundings.supply.lastId ≤ later.surroundings.supply.lastId ∧
      later.surroundings.supply.lastId < Width.maxSigned64 ∧
      ∀ tables ∈ later.copies, tables.Sound later.surroundings.supply.lastId from
    ⟨Int.le_trans sound.start grown.1, grown.2.1, grown.2.2,
      transition.separate anew sound.separate⟩
  cases transition with
  | none => exact ⟨Int.le_refl _, sound.low, sound.tables⟩
  | refuse unitName call =>
      refine ⟨Int.le_refl _, sound.low, forall_copies_setPhase sound.tables ?_ unitName⟩
      exact fun tables kept => sound.tables tables (mem_copies_of_phaseOf kept)
  | begin unitName idle =>
      refine ⟨Int.le_refl _, sound.low, forall_copies_setPhase sound.tables ?_ unitName⟩
      intro tables kept
      have same : tables = world.committed := by simpa [Phase.copies] using kept
      rw [same]
      exact committedSound
  | call unitName call draft active workspace performed passes =>
      have change := Workspace.perform_change call ⟨draft.work, world.surroundings.supply⟩
      rw [← performed] at change
      have workKept := work_mem_copies
        (phaseOf_setPhase_self world unitName (.active { draft with work := workspace.tables }))
      rcases change.sound live sound.start sound.low (below.ids workKept)
        (sound.tables _ (work_mem_copies active)) with ⟨workSound, upward, stillLow⟩
      have stillSound : ∀ tables ∈ world.copies, tables.Sound workspace.supply.lastId :=
        fun tables member => (sound.tables tables member).mono upward
      refine ⟨upward, stillLow, forall_copies_setPhase stillSound ?_ unitName⟩
      intro tables kept
      rcases List.mem_cons.mp kept with rfl | kept
      · exact stillSound draft.base (base_mem_copies active)
      · rw [List.mem_singleton.mp kept]
        exact workSound
  | commit unitName draft active unrepeated =>
      refine ⟨Int.le_refl _, sound.low, fun tables member => ?_⟩
      rcases List.mem_cons.mp member with rfl | kept
      · exact committedSound.merge (sound.tables _ (work_mem_copies active)) draft.base
      · have ended : ∀ tables ∈ (world.setPhase unitName .finalized).copies,
            tables.Sound world.surroundings.supply.lastId :=
          forall_copies_setPhase sound.tables (fun _ none => by cases none) unitName
        exact ended tables (List.mem_cons_of_mem _ kept)
  | discard unitName event ending draft active =>
      refine ⟨Int.le_refl _, sound.low, forall_copies_setPhase sound.tables ?_ unitName⟩
      exact fun _ none => by cases none
  | insertRole role =>
      have inTable : (world.insertRole role).1.id ∈ (world.insertRole role).2.committed.ids .role :=
        List.mem_map_of_mem (List.mem_append_right _ List.mem_cons_self)
      have idBelow := below.ids (committed_mem_copies _) .role _ inTable
      rcases Supply.lt_numberFor late sound.start sound.low idBelow with ⟨behind, equal⟩
      have kept : (world.insertRole role).2.surroundings.supply.lastId =
        (world.insertRole role).1.id := equal
      rw [kept]
      refine ⟨Int.le_of_lt behind, idBelow, fun tables member => ?_⟩
      rcases List.mem_cons.mp member with rfl | inUnits
      · exact committedSound.addRole behind live
      · exact (sound.tables tables (List.mem_cons_of_mem _ inUnits)).mono (Int.le_of_lt behind)
  | insertPermission permission =>
      have inTable : (world.insertPermission permission).1.id ∈
          (world.insertPermission permission).2.committed.ids .permission :=
        List.mem_map_of_mem (List.mem_append_right _ List.mem_cons_self)
      have idBelow := below.ids (committed_mem_copies _) .permission _ inTable
      rcases Supply.lt_numberFor late sound.start sound.low idBelow with ⟨behind, equal⟩
      have kept : (world.insertPermission permission).2.surroundings.supply.lastId =
        (world.insertPermission permission).1.id := equal
      rw [kept]
      refine ⟨Int.le_of_lt behind, idBelow, fun tables member => ?_⟩
      rcases List.mem_cons.mp member with rfl | inUnits
      · exact committedSound.addPermission behind permission
      · exact (sound.tables tables (List.mem_cons_of_mem _ inUnits)).mono (Int.le_of_lt behind)
  | around happening =>
      have sameId := world.surroundings.lastId_after happening
      refine ⟨Int.le_of_eq sameId.symm, by rw [sameId]; exact sound.low, fun tables member => ?_⟩
      rw [sameId]
      exact sound.tables tables member

/-! ## Runs -/

theorem Reachable.sound {world : World} (reachable : Reachable Regular world) : world.Sound := by
  induction reachable with
  | start surroundings unused =>
      refine ⟨Int.le_of_eq unused.symm, ?_, fun tables member => ?_, separate_start surroundings⟩
      · rw [unused]
        decide
      · rw [List.mem_singleton.mp member]
        exact Tables.sound_empty _
  | step event _ regular induction =>
      -- While the counter is on its way up, the numbers that an event gives out are new.
      exact (step_transition _ event).sound induction regular.1 regular.2.1 regular.2.2
        (induction.numbersAnew regular)

/-- As long as chosen numbers are larger than all before, stored roles are live, and the
counter stays below the largest number: the committed tables and the two copies of every
active unit are sound, and no two units have added rows with the same number to the same
table. -/
theorem copies_sound {world : World} (reachable : Reachable Regular world) :
    (∀ tables ∈ world.copies, tables.Sound world.surroundings.supply.lastId) ∧
      ∀ (kind : Kind) (id : Int) (first second : String), first ≠ second →
        (world.phaseOf first).Issued kind id → ¬ (world.phaseOf second).Issued kind id := by
  refine ⟨reachable.sound.tables, fun kind id first second different issued alsoIssued => ?_⟩
  have apart := (reachable.sound.separate first kind id issued).2 second different.symm
  cases phase : world.phaseOf second with
  | idle | finalized =>
      rw [phase] at alsoIssued
      exact alsoIssued
  | active draft =>
      rw [phase] at alsoIssued apart
      exact apart draft.work (by simp [Phase.copies]) alsoIssued.1

/-- Before the second unit is committed, both units have given the user something. -/
theorem copies_sound_overlap :
    let world := (fresh.run stocking).run (.begin "first" :: overlap.dropLast)
    world.copies.length = 5 ∧ (∀ tables ∈ world.copies, tables.Sound 5) ∧
      (world.phaseOf "first").Issued .grant 5 ∧ (world.phaseOf "second").Issued .grant 4 ∧
      ¬ (world.phaseOf "second").Issued .grant 5 := by
  have reachable : Reachable Regular
      ((fresh.run stocking).run (.begin "first" :: overlap.dropLast)) :=
    Reachable.run (Reachable.run (.start fresh.surroundings rfl) (by decide)) (by decide)
  have issued : (((fresh.run stocking).run (.begin "first" :: overlap.dropLast)).phaseOf
      "first").Issued .grant 5 := ⟨by decide, by decide⟩
  rcases copies_sound reachable with ⟨sound, apart⟩
  exact ⟨by decide, sound, issued, ⟨by decide, by decide⟩,
    apart .grant 5 "first" "second" (by decide) issued⟩

end World
end Entitlement
