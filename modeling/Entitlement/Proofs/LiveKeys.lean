import Entitlement.Proofs.Integrity
import Entitlement.Proofs.Isolation
import Entitlement.Proofs.RoleKeys

/-! # No key is held by two live roles

As long as new roles come with identifiers of their own, and roles that are stored directly
with keys that are free, no copy of the tables ever has two live roles with the same key. A
commit is refused for such roles only if something else was committed since its unit
began. -/

namespace Entitlement

open Store

namespace World

/-! ## New roles -/

def Knows (world : World) (role : Role) : Prop :=
  ∃ tables ∈ world.copies, role ∈ tables.roles

def IsUnused (world : World) (uuid : Uuid) : Prop :=
  ∀ tables ∈ world.copies, ∀ role ∈ tables.roles, role.uuid ≠ uuid

instance (world : World) (uuid : Uuid) : Decidable (world.IsUnused uuid) :=
  inferInstanceAs (Decidable (∀ tables ∈ world.copies, ∀ role ∈ tables.roles, role.uuid ≠ uuid))

/-- A role that is created or stored directly has an identifier of its own, and one that is
stored directly also a key that no committed live role has. -/
def Distinguishes (world : World) : Event → Prop
  | .call _ call => ∀ role ∈ call.newRole?, world.IsUnused role.uuid
  | .insertRole role =>
      world.IsUnused role.uuid ∧ ∀ present ∈ world.committed.liveRoles, present.key ≠ role.key
  | _ => True

instance (world : World) : (event : Event) → Decidable (world.Distinguishes event)
  | .call _ call => inferInstanceAs (Decidable (∀ role ∈ call.newRole?, world.IsUnused role.uuid))
  | .insertRole role => inferInstanceAs (Decidable (world.IsUnused role.uuid ∧
      ∀ present ∈ world.committed.liveRoles, present.key ≠ role.key))
  | .begin _ | .commit _ | .rollback _ | .insertPermission _ | .around _ => .isTrue True.intro

def Careful (world : World) (event : Event) : Prop :=
  world.Numbers event ∧ world.Distinguishes event

instance (world : World) (event : Event) : Decidable (world.Careful event) :=
  inferInstanceAs (Decidable (_ ∧ _))

/-! ## Identifiers -/

def Identified (world : World) : Prop :=
  ∀ role other, world.Knows role → world.Knows other → role.uuid = other.uuid →
    role.id = other.id

theorem Identified.tables {world : World} {tables : Tables} (identified : world.Identified)
    (member : tables ∈ world.copies) : tables.Identified :=
  fun role inTables other inTables' =>
    identified role other ⟨tables, member, inTables⟩ ⟨tables, member, inTables'⟩

def newRole? (world : World) : Event → Option Role
  | .call _ call =>
      call.newRole?.map fun role => { role with id := world.surroundings.supply.takeId.1 }
  | .insertRole role => some (world.insertRole role).1
  | _ => none

/-- The roles in a copy after an event have identifiers and numbers from before, but for
the role that the event adds. -/
theorem CopyAfter.mem_roles {world : World} {event : Event} {tables : Tables}
    (copy : CopyAfter world event tables) {role : Role} (member : role ∈ tables.roles) :
    (∃ present, world.Knows present ∧ present.uuid = role.uuid ∧ present.id = role.id) ∨
      world.newRole? event = some role := by
  have unchanged : ∀ tables ∈ world.copies, role ∈ tables.roles →
      ∃ present, world.Knows present ∧ present.uuid = role.uuid ∧ present.id = role.id :=
    fun tables kept inTables => ⟨role, ⟨tables, kept, inTables⟩, rfl, rfl⟩
  cases copy with
  | old _ kept => exact Or.inl (unchanged tables kept member)
  | worked unitName call draft active workspace performed =>
      have change := Workspace.perform_change call ⟨draft.work, world.surroundings.supply⟩
      rw [← performed] at change
      rcases change.mem_roles member with ⟨present, inWork, same⟩ | ⟨created, isNew, equal⟩
      · exact Or.inl ⟨present, ⟨draft.work, work_mem_copies active, inWork⟩, same⟩
      · refine Or.inr (Option.map_eq_some_iff.mpr ⟨created, isNew, equal.symm⟩)
  | merged unitName draft active unrepeated =>
      rcases mem_of_mem_mergeRows member with isCommitted | changed
      · exact Or.inl (unchanged _ (committed_mem_copies world) isCommitted)
      · exact Or.inl (unchanged _ (work_mem_copies active) changed.1)
  | withRole inserted =>
      rcases List.mem_append.mp member with isCommitted | isNew
      · exact Or.inl (unchanged _ (committed_mem_copies world) isCommitted)
      · exact Or.inr (congrArg some (List.mem_singleton.mp isNew).symm)
  | withPermission permission =>
      exact Or.inl (unchanged _ (committed_mem_copies world) member)

theorem isUnused_of_newRole? {world : World} {event : Event} {role : Role}
    (distinguishes : world.Distinguishes event) (isNew : world.newRole? event = some role) :
    world.IsUnused role.uuid := by
  cases event with
  | call unitName call =>
      rcases Option.map_eq_some_iff.mp isNew with ⟨created, creates, rfl⟩
      exact distinguishes created creates
  | insertRole inserted =>
      cases isNew
      exact distinguishes.1
  | begin | commit | rollback | insertPermission | around => cases isNew

theorem Transition.identified {world later : World} {event : Event}
    (transition : Transition world event later) (distinguishes : world.Distinguishes event)
    (identified : world.Identified) : later.Identified := by
  intro role other known otherKnown sameUuid
  rcases known with ⟨tables, member, inTables⟩
  rcases otherKnown with ⟨otherTables, otherMember, inOtherTables⟩
  -- A new role shares its identifier with no role from before, so both are old or both new.
  rcases (transition.copyAfter member).mem_roles inTables with
    ⟨present, wasKnown, uuidKept, idKept⟩ | isNew
  · rcases (transition.copyAfter otherMember).mem_roles inOtherTables with
      ⟨otherPresent, otherWasKnown, otherUuidKept, otherIdKept⟩ | isNew
    · rw [← idKept, ← otherIdKept]
      apply identified present otherPresent wasKnown otherWasKnown
      rw [uuidKept, otherUuidKept, sameUuid]
    · rcases wasKnown with ⟨copy, inCopies, inCopy⟩
      refine absurd ?_ (isUnused_of_newRole? distinguishes isNew copy inCopies present inCopy)
      rw [uuidKept, sameUuid]
  · rcases (transition.copyAfter otherMember).mem_roles inOtherTables with
      ⟨otherPresent, otherWasKnown, otherUuidKept, otherIdKept⟩ | otherIsNew
    · rcases otherWasKnown with ⟨copy, inCopies, inCopy⟩
      refine absurd ?_ (isUnused_of_newRole? distinguishes isNew copy inCopies otherPresent inCopy)
      rw [otherUuidKept, sameUuid]
    · cases isNew.symm.trans otherIsNew
      rfl

/-! ## Keys -/

structure Kept (world : World) : Prop where
  orderly : world.Orderly
  identified : world.Identified
  distinct : ∀ tables ∈ world.copies, tables.LiveKeysDistinct

theorem CopyAfter.liveKeysDistinct {world : World} {event : Event} {tables : Tables}
    (copy : CopyAfter world event tables) (distinguishes : world.Distinguishes event)
    (kept : world.Kept) : tables.LiveKeysDistinct := by
  cases copy with
  | old _ member => exact kept.distinct tables member
  | worked unitName call draft active workspace performed =>
      have change := Workspace.perform_change call ⟨draft.work, world.surroundings.supply⟩
      rw [← performed] at change
      have member := work_mem_copies active
      exact change.liveKeysDistinct (kept.orderly _ member).distinct.roles
        (kept.identified.tables member) (kept.distinct _ member)
  | merged unitName draft active unrepeated =>
      exact (repeatedKey?_nil_eq_none_iff _).mp unrepeated
  | withRole role =>
      apply nodup_liveKeys_append (kept.distinct _ (committed_mem_copies world))
      intro held
      rcases (mem_liveKeys_iff _ _).mp held with ⟨present, inRoles, live, equal⟩
      exact distinguishes.2 present (List.mem_filter.mpr ⟨inRoles, live⟩) equal
  | withPermission permission =>
      have distinct := kept.distinct _ (committed_mem_copies world)
      exact distinct

theorem Transition.kept {world later : World} {event : Event}
    (transition : Transition world event later) (careful : world.Careful event)
    (kept : world.Kept) : later.Kept where
  orderly := transition.orderly careful.1 kept.orderly
  identified := transition.identified careful.2 kept.identified
  distinct := fun _ member =>
    (transition.copyAfter member).liveKeysDistinct careful.2 kept

theorem Reachable.kept {world : World} (reachable : Reachable Careful world) : world.Kept := by
  induction reachable with
  | start surroundings unused =>
      refine ⟨(Reachable.start surroundings unused).orderly, ?_, ?_⟩
      · intro role other known
        rcases known with ⟨tables, member, inTables⟩
        cases List.mem_singleton.mp member
        cases inTables
      · intro tables member
        cases List.mem_singleton.mp member
        exact List.nodup_nil
  | step event _ careful induction => exact (step_transition _ event).kept careful induction

/-! ## Commits that are refused -/

end World

def Event.IsForeign (unitName : String) : Event → Prop
  | .insertRole _ | .insertPermission _ => True
  | .commit other => other ≠ unitName
  | _ => False

namespace World

def Overlapped (unitName : String) : World → List Event → Prop
  | _, [] => False
  | world, event :: events =>
      event.IsForeign unitName ∧ (world.step event).committed ≠ world.committed ∨
        Overlapped unitName (world.step event) events

theorem Transition.committed_of_not_isForeign {world later : World} {event : Event}
    {unitName : String} (transition : Transition world event later)
    (notForeign : ¬ event.IsForeign unitName) :
    later.committed = world.committed ∨ later.phaseOf unitName = .finalized := by
  cases transition with
  | none | refuse | begin | call | discard | around => exact Or.inl rfl
  | commit other draft active unrepeated =>
      have same : other = unitName := Classical.not_not.mp notForeign
      rw [same]
      exact Or.inr (phaseOf_setPhase_self world unitName .finalized)
  | insertRole role => exact absurd trivial notForeign
  | insertPermission permission => exact absurd trivial notForeign

theorem committed_of_not_overlapped {world : World} {unitName : String} {events : List Event}
    (notOverlapped : ¬ Overlapped unitName world events) :
    (world.run events).committed = world.committed ∨
      (world.run events).phaseOf unitName = .finalized := by
  induction events generalizing world with
  | nil => exact Or.inl rfl
  | cons event events induction =>
      have parts := not_or.mp notOverlapped
      have here : (world.step event).committed = world.committed ∨
          (world.step event).phaseOf unitName = .finalized := by
        by_cases isForeign : event.IsForeign unitName
        · exact Or.inl (by_contra fun changed => parts.1 ⟨isForeign, changed⟩)
        · exact (step_transition world event).committed_of_not_isForeign isForeign
      rcases here with unchanged | finalized
      · rw [← unchanged]
        exact induction parts.2
      · exact Or.inr (phaseOf_run_of_finalized events finalized)

theorem Kept.merge_liveKeysDistinct {world : World} {unitName : String} {draft : Draft}
    (kept : world.Kept) (active : world.phaseOf unitName = .active draft)
    (unchanged : world.committed = draft.base) :
    (world.committed.merge draft.base draft.work).LiveKeysDistinct := by
  have baseOrderly := kept.orderly _ (base_mem_copies active)
  have workOrderly := kept.orderly _ (work_mem_copies active)
  rw [unchanged]
  exact Tables.LiveKeysDistinct.merge_base baseOrderly.distinct.toIdsDistinct
    workOrderly.distinct.toIdsDistinct (kept.distinct _ (work_mem_copies active))

/-- As long as rows are given numbers, identifiers and keys with care, neither the committed
tables nor those that a unit works on have two live roles with the same key. A commit is
refused because of such roles only if, since its unit began, rows that were stored directly
or commits of other units changed the committed tables; otherwise it succeeds unless it is
made to fail. -/
theorem live_keys_distinct {world : World} (reachable : Reachable Careful world) :
    world.committed.LiveKeysDistinct ∧
      (∀ (unitName : String) (draft : Draft),
        world.phaseOf unitName = .active draft → draft.work.LiveKeysDistinct) ∧
      ∀ (unitName : String) (events : List Event) (draft : Draft),
        ((begin unitName).outcome world).1 = .ok () →
        Permits Careful (world.step (.begin unitName)) events →
        let now := world.run (.begin unitName :: events)
        now.phaseOf unitName = .active draft →
          (∀ keyName, ((commit unitName).outcome now).1 = .error (.roleExists keyName) →
            Overlapped unitName (world.step (.begin unitName)) events) ∧
          (¬ Overlapped unitName (world.step (.begin unitName)) events →
            now.surroundings.check .commit = .ok () →
            ((commit unitName).outcome now).1 = .ok ()) := by
  refine ⟨reachable.kept.distinct _ (committed_mem_copies world),
    fun unitName draft active => reachable.kept.distinct _ (work_mem_copies active), ?_⟩
  intro unitName events draft begins permits now active
  have unrepeated (notOverlapped : ¬ Overlapped unitName (world.step (.begin unitName)) events) :
      Tables.repeatedKey? [] (now.committed.merge draft.base draft.work).roles = none := by
    have kept : now.Kept :=
      ((reachable.step (.begin unitName) ⟨trivial, trivial⟩).run permits).kept
    rw [repeatedKey?_nil_eq_none_iff]
    apply kept.merge_liveKeysDistinct active
    rcases committed_of_not_overlapped notOverlapped with unchanged | finalized
    · rw [draft_of_begin begins active]
      exact unchanged.trans (committed_step world (.begin unitName))
    · cases active.symm.trans finalized
  constructor
  · intro keyName refused
    by_contra notOverlapped
    rcases outcome_commit now unitName with
      fails | ⟨other, isActive, ⟨key, repeated, -⟩ | ⟨-, publishes⟩⟩
    · rw [fails] at refused
      cases refused
    · cases active.symm.trans isActive
      rw [unrepeated notOverlapped] at repeated
      cases repeated
    · rw [publishes] at refused
      cases refused
  · intro notOverlapped passes
    exact outcome_commit_of_active passes active (unrepeated notOverlapped)

def clash : List Event :=
  [.begin "second",
    .call "first" (.createRole (.fresh "Sales" .sales (.ofNat 3) ⟨0, 0⟩)),
    .call "second" (.createRole (.fresh "Sales" .sales (.ofNat 4) ⟨0, 0⟩)),
    .commit "second"]

theorem clash_refused :
    ((commit "first").outcome ((fresh.run stocking).run (.begin "first" :: clash))).1 =
        .error (.roleExists "SALES") ∧
      Overlapped "first" ((fresh.run stocking).step (.begin "first")) clash := by
  have reachable : Reachable Careful (fresh.run stocking) :=
    Reachable.run (.start fresh.surroundings rfl) (by decide)
  have refused : ((commit "first").outcome
      ((fresh.run stocking).run (.begin "first" :: clash))).1 =
        .error (.roleExists "SALES") := by decide
  have permits : Permits Careful ((fresh.run stocking).step (.begin "first")) clash := by decide
  have active : ∃ draft, ((fresh.run stocking).run (.begin "first" :: clash)).phaseOf "first" =
    .active draft := ⟨_, rfl⟩
  rcases active with ⟨draft, active⟩
  rcases live_keys_distinct reachable with ⟨-, -, commits⟩
  exact ⟨refused, (commits "first" clash draft rfl permits active).1 "SALES" refused⟩

end World
end Entitlement
