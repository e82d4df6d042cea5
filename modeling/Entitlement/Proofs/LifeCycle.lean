import Entitlement.Proofs.Histories
import Entitlement.Proofs.LiveKeys

/-! # The life cycle of roles

A unit updates and deletes roles as far as its own copies allow it: only live roles are
changed, and default roles are not deleted. A commit publishes whole rows, and of two units
that changed the same role the last one wins. So the rows that a commit publishes follow the
life cycle from what the unit found when it began, and not from what others made of them
since. -/

namespace Entitlement

open Store

/-! ## One unit -/

theorem Turn.optional_of_deleted {turns : List Turn} {tables : Tables}
    (distinct : ((replay tables turns).roles.map (·.id)).Nodup) {role later : Role}
    (member : role ∈ tables.roles) (isLater : later ∈ (replay tables turns).roles)
    (sameId : later.id = role.id) (live : role.isLive = true) (gone : later.isLive = false) :
    ∃ earlier rest, turns = earlier ++ rest ∧ ∃ optional ∈ (replay tables earlier).roles,
      optional.id = role.id ∧ optional.isLive = true ∧ optional.isDefault = false := by
  induction turns generalizing tables role with
  | nil =>
      have same : later = role := List.inj_on_of_nodup_map distinct isLater member sameId
      rw [same, live] at gone
      cases gone
  | cons turn turns induction =>
      rcases turn.change tables with ⟨next, change, performed⟩
      rcases change.growth with ⟨added, growth, -⟩
      rcases growth.roles.kept role member with ⟨changed, isChanged, changes⟩
      have replayed : replay tables (turn :: turns) = replay next.tables turns := by
        rw [← performed]
        rfl
      rw [replayed] at distinct isLater
      have stillSame := changes.sameRecord.id
      -- Either the role is live after the first call too, or the first call has deleted it.
      cases stillLive : changed.isLive with
      | true =>
          rcases induction distinct isChanged isLater (sameId.trans stillSame.symm) stillLive with
            ⟨earlier, rest, rfl, optional, isThere, named, isLive, notDefault⟩
          refine ⟨turn :: earlier, rest, rfl, optional, ?_, named.trans stillSame, isLive,
            notDefault⟩
          rw [replay, List.foldl_cons, performed]
          exact isThere
      | false =>
          refine ⟨[], turn :: turns, rfl, role, member, rfl, live, ?_⟩
          cases changes with
          | same =>
              rw [live] at stillLive
              cases stillLive
          | updated =>
              have notLive : role.isLive = false := stillLive
              rw [live] at notLive
              cases notLive
          | deleted _ optional => exact optional

/-! ## Commits -/

/-- What the commit of a unit that began on the tables `begun` and made the calls `own` can
make of a committed role. -/
structure Role.FollowsCycle (begun : Tables) (own : List Turn) (before after : Role) : Prop where
  sameRecord : before.SameRecord after
  changed : after ≠ before →
    ∃ began ∈ begun.roles, began.id = before.id ∧ began.isLive = true ∧
      began.Becomes after ∧ after ≠ began
  staysDeleted : ∀ began ∈ begun.roles, began.id = before.id → began.isLive = false →
    after = before
  optional : before.isLive = true → after.isLive = false →
    ∃ earlier later, own = earlier ++ later ∧ ∃ optional ∈ (Turn.replay begun earlier).roles,
      optional.id = before.id ∧ optional.isLive = true ∧ optional.isDefault = false

theorem Role.FollowsCycle.unchanged (begun : Tables) (own : List Turn) (role : Role) :
    role.FollowsCycle begun own role where
  sameRecord := SameRecord.refl role
  changed := fun different => absurd rfl different
  staysDeleted := fun _ _ _ _ => rfl
  optional := fun live gone => by
    rw [live] at gone
    cases gone

namespace World

theorem Transition.followsCycle {world later : World} {unitName : String}
    (transition : Transition world (.commit unitName) later) (orderly : world.Orderly)
    (separate : world.Separate) (dated : world.Dated) {begun : Tables} {own : List Turn}
    (copies : ∀ draft, world.phaseOf unitName = .active draft →
      draft = ⟨begun, Turn.replay begun own⟩) :
    ∀ before ∈ world.committed.roles, ∃ after ∈ later.committed.roles,
      before.FollowsCycle begun own after := by
  have precedes := transition.precedes orderly separate dated
  have distinct := (orderly _ (committed_mem_copies world)).distinct.roles
  intro before isBefore
  cases transition with
  | none | discard => exact ⟨before, isBefore, .unchanged begun own before⟩
  | commit _ draft active unrepeated =>
      rcases precedes.roles before isBefore with ⟨after, isAfter, sameRecord⟩
      refine ⟨after, isAfter, ?_⟩
      have baseDistinct := (orderly _ (base_mem_copies active)).distinct.roles
      have workDistinct := (orderly _ (work_mem_copies active)).distinct.roles
      have known := separate.known active .role before.id (List.mem_map_of_mem isBefore)
      have develops := (dated unitName draft active).1
      have equal := copies draft active
      subst equal
      -- A row that the unit has changed it must have found when it began: `known`.
      rcases mem_of_mem_mergeRows isAfter with isCommitted | ⟨inWork, notInBase⟩
      · have same : after = before :=
          List.inj_on_of_nodup_map distinct isCommitted isBefore sameRecord.id
        rw [same]
        exact .unchanged begun own before
      · have inBase : after.id ∈ begun.roles.map (·.id) := by
          rw [sameRecord.id]
          apply known
          rw [← sameRecord.id]
          exact List.mem_map_of_mem inWork
        rcases develops.roles.origin (fun _ _ becomes => becomes.sameRecord.id) workDistinct
          inWork inBase with ⟨began, isBegan, becomes⟩
        have sameId : began.id = before.id := becomes.sameRecord.id.symm.trans sameRecord.id
        have isChanged : after ≠ began := fun same => notInBase (same ▸ isBegan)
        have beganLive : began.isLive = true := becomes.eq_or_live.resolve_left isChanged
        exact {
          sameRecord
          changed := fun _ => ⟨began, isBegan, sameId, beganLive, becomes, isChanged⟩
          staysDeleted := by
            intro other isOther otherId deleted
            have same : other = began :=
              List.inj_on_of_nodup_map baseDistinct isOther isBegan (otherId.trans sameId.symm)
            rw [same, beganLive] at deleted
            cases deleted
          optional := by
            intro live gone
            rw [← sameId]
            exact Turn.optional_of_deleted workDistinct isBegan inWork becomes.sameRecord.id
              beganLive gone }

/-- Whatever other units did meanwhile, the commit of a unit removes no role and makes of each
what the life cycle allows for the role as it was when the unit began. -/
theorem commit_follows_cycle {world : World} {unitName : String} {events : List Event}
    (reachable : Reachable Numbers world) (begins : ((begin unitName).outcome world).1 = .ok ())
    (permits : Permits Numbers (world.step (.begin unitName)) events) :
    let now := world.run (.begin unitName :: events)
    ∀ before ∈ now.committed.roles,
      ∃ after ∈ (now.step (.commit unitName)).committed.roles,
        before.FollowsCycle world.committed
          (turns unitName (world.step (.begin unitName)) events) after := by
  intro now
  have reachableNow : Reachable Numbers now :=
    (reachable.step (.begin unitName) trivial).run permits
  exact (step_transition now (.commit unitName)).followsCycle reachableNow.orderly
    reachableNow.separate reachableNow.dated fun _ active => draft_of_begin begins active

def deletion : List Event :=
  [.begin "second",
    .call "first" (.updateRole (.fresh "All staff" .staff (.ofNat 1) ⟨0, 0⟩) (.ofNat 1)),
    .call "second" (.deleteRole (.ofNat 1) 7),
    .commit "second"]

def promotion : List Event :=
  [.begin "second",
    .call "first" (.deleteRole (.ofNat 1) 7),
    .call "second" (.updateRole
      { Role.fresh "Staff" .staff (.ofNat 1) ⟨0, 0⟩ with isDefault := true } (.ofNat 1)),
    .commit "second"]

theorem reachable_stocked {allowed : World → Event → Prop}
    (permits : Permits allowed fresh stocking) : Reachable allowed (fresh.run stocking) :=
  Reachable.run (.start fresh.surroundings rfl) permits

/-- The role that was deleted meanwhile is live again, and it was live when the unit began. -/
theorem commit_follows_cycle_deletion :
    let now := (fresh.run stocking).run (.begin "first" :: deletion)
    now.committed.roles.map (·.isLive) = [false] ∧
      (now.step (.commit "first")).committed.roles.map (·.isLive) = [true] ∧
      ∀ before ∈ now.committed.roles,
        ∃ after ∈ (now.step (.commit "first")).committed.roles,
          before.FollowsCycle (fresh.run stocking).committed
            (turns "first" ((fresh.run stocking).step (.begin "first")) deletion) after := by
  have reachable : Reachable Numbers (fresh.run stocking) := reachable_stocked (by decide)
  have permits : Permits Numbers ((fresh.run stocking).step (.begin "first")) deletion := by decide
  exact ⟨by decide, by decide, commit_follows_cycle reachable rfl permits⟩

/-- The committed roles alone do not follow the life cycle: a commit can make a role live again
that has been deleted, and it can delete a default role. -/
theorem committed_roles_leave_cycle :
    (¬ ∀ (world : World) (unitName : String), Reachable Careful world →
      ∀ before ∈ world.committed.roles,
        ∀ after ∈ (world.step (.commit unitName)).committed.roles,
          after.id = before.id → before.isLive = false → after.isLive = false) ∧
      ¬ ∀ (world : World) (unitName : String), Reachable Careful world →
        ∀ before ∈ world.committed.roles,
          ∀ after ∈ (world.step (.commit unitName)).committed.roles,
            after.id = before.id → before.isLive = true → before.isDefault = true →
              after.isLive = true := by
  have stocked : Reachable Careful (fresh.run stocking) := reachable_stocked (by decide)
  constructor
  · intro staysDeleted
    have reachable : Reachable Careful ((fresh.run stocking).run (.begin "first" :: deletion)) :=
      stocked.run (by decide)
    have always := staysDeleted _ "first" reachable
    revert always
    decide
  · intro staysDefault
    have reachable : Reachable Careful ((fresh.run stocking).run (.begin "first" :: promotion)) :=
      stocked.run (by decide)
    have always := staysDefault _ "first" reachable
    revert always
    decide

end World
end Entitlement
