import Entitlement.Proofs.Histories
import Entitlement.Proofs.LiveKeys

/-! # Commits in either order

Two units that began on the same tables and changed no row in common can be committed in either
order: the rows that are committed in the end are the same, and so is whether the second commit
is refused because two live roles would have the same key. The first commit is never refused, as
long as an identifier tells which role is meant. -/

namespace Entitlement

open Store

namespace Store

/-! ## Tables by name -/

inductive TableName where
  | roles
  | permissions
  | attachments
  | grants
deriving DecidableEq

namespace TableName

def Row : TableName → Type
  | roles => Role
  | permissions => Permission
  | attachments => Attachment
  | grants => Grant

def Key : TableName → Type
  | attachments => Int × Int
  | roles | permissions | grants => Int

def keyOf : (table : TableName) → table.Row → table.Key
  | roles => fun role : Role => role.id
  | permissions => fun permission : Permission => permission.id
  | attachments => fun attachment : Attachment => (attachment.roleId, attachment.permissionId)
  | grants => fun grant : Grant => grant.id

instance : (table : TableName) → DecidableEq table.Row
  | roles => inferInstanceAs (DecidableEq Role)
  | permissions => inferInstanceAs (DecidableEq Permission)
  | attachments => inferInstanceAs (DecidableEq Attachment)
  | grants => inferInstanceAs (DecidableEq Grant)

instance : (table : TableName) → DecidableEq table.Key
  | attachments => inferInstanceAs (DecidableEq (Int × Int))
  | roles | permissions | grants => inferInstanceAs (DecidableEq Int)

end TableName

namespace Tables

def rows (tables : Tables) : (table : TableName) → List table.Row
  | .roles => tables.roles
  | .permissions => tables.permissions
  | .attachments => tables.attachments
  | .grants => tables.grants

theorem rows_merge (committed base work : Tables) (table : TableName) :
    (committed.merge base work).rows table =
      mergeRows table.keyOf (committed.rows table) (base.rows table) (work.rows table) := by
  cases table <;> rfl

theorem KeysDistinct.rows {tables : Tables} (distinct : tables.KeysDistinct)
    (table : TableName) : ((tables.rows table).map table.keyOf).Nodup := by
  cases table with
  | roles => exact distinct.roles
  | permissions => exact distinct.permissions
  | attachments => exact distinct.attachments
  | grants => exact distinct.grants

end Tables

/-! ## One table -/

section

variable {α κ : Type} {key : α → κ}

def Touches (key : α → κ) (base work : List α) (wanted : κ) : Prop :=
  (∃ row ∈ work, key row = wanted ∧ row ∉ base) ∨ wanted ∈ base.map key ∧ wanted ∉ work.map key

variable [DecidableEq α] [DecidableEq κ] {committed base work first second : List α}

theorem mem_mergeRows_iff_touches (distinct : (committed.map key).Nodup)
    (distinctWork : (work.map key).Nodup) (row : α) :
    row ∈ mergeRows key committed base work ↔
      (row ∈ work ∧ row ∉ base) ∨ row ∈ committed ∧ ¬ Touches key base work (key row) := by
  rw [mem_mergeRows_iff distinct distinctWork]
  refine or_congr_right (and_congr_right fun _ => ?_)
  constructor
  · intro given touched
    rcases touched with ⟨changed, inWork, sameKey, isNew⟩ | ⟨known, dropped⟩
    · exact isNew (given.2 changed inWork sameKey)
    · exact dropped (given.1 known)
  · intro untouched
    constructor
    · intro known
      by_contra dropped
      exact untouched (Or.inr ⟨known, dropped⟩)
    · intro changed inWork sameKey
      by_contra isNew
      exact untouched (Or.inl ⟨changed, inWork, sameKey, isNew⟩)

variable (distinct : (committed.map key).Nodup) (distinctFirst : (first.map key).Nodup)
  (distinctSecond : (second.map key).Nodup)
  (disjoint : ∀ wanted, Touches key base first wanted → ¬ Touches key base second wanted)

include distinct distinctFirst distinctSecond disjoint

theorem mem_mergeRows_mergeRows_iff (row : α) :
    row ∈ mergeRows key (mergeRows key committed base first) base second ↔
      (row ∈ first ∧ row ∉ base) ∨ (row ∈ second ∧ row ∉ base) ∨
        row ∈ committed ∧ ¬ Touches key base first (key row) ∧
          ¬ Touches key base second (key row) := by
  rw [mem_mergeRows_iff_touches (nodup_map_mergeRows key base first distinct) distinctSecond,
    mem_mergeRows_iff_touches distinct distinctFirst]
  constructor
  · intro given
    rcases given with inSecond | ⟨inFirst | ⟨isCommitted, untouched⟩, untouchedLater⟩
    · exact Or.inr (Or.inl inSecond)
    · exact Or.inl inFirst
    · exact Or.inr (Or.inr ⟨isCommitted, untouched, untouchedLater⟩)
  · intro given
    rcases given with inFirst | inSecond | ⟨isCommitted, untouched, untouchedLater⟩
    · have touched : Touches key base first (key row) := Or.inl ⟨row, inFirst.1, rfl, inFirst.2⟩
      exact Or.inr ⟨Or.inl inFirst, disjoint _ touched⟩
    · exact Or.inl inSecond
    · exact Or.inr ⟨Or.inr ⟨isCommitted, untouched⟩, untouchedLater⟩

theorem mergeRows_mergeRows_perm :
    (mergeRows key (mergeRows key committed base first) base second).Perm
      (mergeRows key (mergeRows key committed base second) base first) := by
  have nodupMerged : ∀ one other : List α,
      (mergeRows key (mergeRows key committed base one) base other).Nodup := fun one other =>
    (nodup_map_mergeRows key base other (nodup_map_mergeRows key base one distinct)).of_map
  refine (List.perm_ext_iff_of_nodup (nodupMerged first second) (nodupMerged second first)).mpr ?_
  intro row
  rw [mem_mergeRows_mergeRows_iff distinct distinctFirst distinctSecond disjoint,
    mem_mergeRows_mergeRows_iff distinct distinctSecond distinctFirst
      fun wanted touched touchedFirst => disjoint wanted touchedFirst touched]
  tauto

theorem mem_mergeRows_mergeRows_of_touches {row : α} (touched : Touches key base first (key row)) :
    row ∈ mergeRows key (mergeRows key committed base first) base second ↔ row ∈ first := by
  rw [mem_mergeRows_mergeRows_iff distinct distinctFirst distinctSecond disjoint]
  constructor
  · intro given
    rcases given with inFirst | inSecond | ⟨-, untouched, -⟩
    · exact inFirst.1
    · have touchedSecond : Touches key base second (key row) :=
        Or.inl ⟨row, inSecond.1, rfl, inSecond.2⟩
      exact absurd touchedSecond (disjoint _ touched)
    · exact absurd touched untouched
  · intro inFirst
    left
    refine ⟨inFirst, fun inBase => ?_⟩
    rcases touched with ⟨changed, isChanged, sameKey, isNew⟩ | ⟨-, dropped⟩
    · have same : changed = row := List.inj_on_of_nodup_map distinctFirst isChanged inFirst sameKey
      exact isNew (same ▸ inBase)
    · exact dropped (List.mem_map_of_mem inFirst)

end

/-! ## All tables -/

section

variable {α κ : Type} [DecidableEq α] [DecidableEq κ] {key : α → κ}

def changedKeys (key : α → κ) (base work : List α) : List κ :=
  (work.filter (· ∉ base)).map key ++ (base.map key).filter (· ∉ work.map key)

theorem mem_changedKeys_iff (base work : List α) (wanted : κ) :
    wanted ∈ changedKeys key base work ↔ Touches key base work wanted := by
  simp [changedKeys, Touches, and_comm, and_assoc]

end

namespace Tables

variable {committed base work first second : Tables}

def changedKeys (base work : Tables) (table : TableName) : List table.Key :=
  Store.changedKeys table.keyOf (base.rows table) (work.rows table)

def Includes (tables base work : Tables) : Prop :=
  ∀ table row, table.keyOf row ∈ base.changedKeys work table →
    (row ∈ tables.rows table ↔ row ∈ work.rows table)

variable (distinct : committed.KeysDistinct) (distinctFirst : first.KeysDistinct)
  (distinctSecond : second.KeysDistinct)
  (disjoint : ∀ table, (base.changedKeys first table).Disjoint (base.changedKeys second table))

include distinct distinctFirst distinctSecond disjoint

theorem merge_merge_perm (table : TableName) :
    (((committed.merge base first).merge base second).rows table).Perm
      (((committed.merge base second).merge base first).rows table) := by
  simp only [rows_merge]
  apply mergeRows_mergeRows_perm (distinct.rows table) (distinctFirst.rows table)
    (distinctSecond.rows table)
  intro wanted touched touchedLater
  exact disjoint table ((mem_changedKeys_iff _ _ _).mpr touched)
    ((mem_changedKeys_iff _ _ _).mpr touchedLater)

theorem includes_merge_merge :
    ((committed.merge base first).merge base second).Includes base first := by
  intro table row changed
  simp only [rows_merge]
  apply mem_mergeRows_mergeRows_of_touches (distinct.rows table) (distinctFirst.rows table)
    (distinctSecond.rows table) ?_ ((mem_changedKeys_iff _ _ _).mp changed)
  intro wanted touched touchedLater
  exact disjoint table ((mem_changedKeys_iff _ _ _).mpr touched)
    ((mem_changedKeys_iff _ _ _).mpr touchedLater)

end Tables

theorem Tables.Develops.identified {earlier later : Tables} (develops : earlier.Develops later)
    (identified : later.Identified) : earlier.Identified := by
  intro role member other isOther sameUuid
  rcases develops.roles.kept role member with ⟨changed, isChanged, becomes⟩
  rcases develops.roles.kept other isOther with ⟨otherChanged, isOtherChanged, otherBecomes⟩
  have same := becomes.sameRecord
  have otherSame := otherBecomes.sameRecord
  rw [← same.id, ← otherSame.id]
  apply identified changed isChanged otherChanged isOtherChanged
  rw [same.uuid, otherSame.uuid, sameUuid]

end Store

namespace World

/-! ## Working copies -/

/-- What a unit makes of tables without two live roles of the same key has no such roles
either, as long as an identifier tells which role is meant. -/
theorem Reachable.liveKeysDistinct_work {allowed : World → Event → Prop} {world : World}
    (reachable : Reachable allowed world) {unitName : String} {draft : Draft}
    (active : world.phaseOf unitName = .active draft)
    (distinctIds : (draft.work.roles.map (·.id)).Nodup) (identified : draft.work.Identified)
    (distinct : draft.base.LiveKeysDistinct) : draft.work.LiveKeysDistinct := by
  induction reachable generalizing draft with
  | start surroundings unused => cases active
  | step event reachable _ induction =>
      cases (step_transition _ event).draftAfter active with
      | begun => exact distinct
      | old _ wasActive => exact induction wasActive distinctIds identified distinct
      | worked call wasActive change =>
          -- Calls lose no role, so numbers and identifiers told roles apart before as well.
          have wereDistinct := change.develops.roles.distinct
            (fun _ _ becomes => becomes.sameRecord.id) distinctIds
          have wereIdentified := change.develops.identified identified
          exact change.liveKeysDistinct wereDistinct wereIdentified
            (induction wasActive wereDistinct wereIdentified distinct)

/-! ## Commits -/

section

variable {world : World} {unitName : String} {draft : Draft}
  (passes : world.surroundings.check .commit = .ok ())
  (active : world.phaseOf unitName = .active draft)

include passes active

theorem outcome_commit_of_distinct
    (distinct : (world.committed.merge draft.base draft.work).LiveKeysDistinct) :
    (commit unitName).outcome world =
      (.ok (), { world.setPhase unitName .finalized with
        committed := world.committed.merge draft.base draft.work }) := by
  have unrepeated := (repeatedKey?_nil_eq_none_iff _).mpr distinct
  have commits := outcome_commit_of_active passes active unrepeated
  rcases outcome_commit world unitName with
    fails | ⟨other, isActive, ⟨key, -, refuses⟩ | ⟨-, publishes⟩⟩
  · rw [fails] at commits
    cases commits
  · rw [refuses] at commits
    cases commits
  · cases active.symm.trans isActive
    exact publishes

theorem outcome_commit_of_not_distinct
    (repeated : ¬ (world.committed.merge draft.base draft.work).LiveKeysDistinct) :
    ∃ keyName, ((commit unitName).outcome world).1 = .error (.roleExists keyName) := by
  have found := fun unrepeated => repeated ((repeatedKey?_nil_eq_none_iff _).mp unrepeated)
  rcases Option.ne_none_iff_exists'.mp found with ⟨key, found⟩
  refine ⟨key.name, ?_⟩
  rw [commit, Action.outcome_bind, outcome_finalize_of_active passes active]
  simp only [Action.outcome_bind, Action.outcome_get, publish, Action.outcome_ofOutcome]
  have sameTables : (world.setPhase unitName .finalized).committed = world.committed := rfl
  rw [sameTables, found]

end

/-- Two units began on the tables that are committed, and changed no row in common. No key
has two committed rows, and no two committed live roles have the same key. -/
structure Apart (world : World) (first second : String) (draft other : Draft) : Prop where
  different : first ≠ second
  active : world.phaseOf first = .active draft
  otherActive : world.phaseOf second = .active other
  onCommitted : draft.base = world.committed
  otherOnCommitted : other.base = world.committed
  distinct : world.committed.KeysDistinct
  liveKeysDistinct : world.committed.LiveKeysDistinct
  disjoint : ∀ table, (world.committed.changedKeys draft.work table).Disjoint
    (world.committed.changedKeys other.work table)

theorem Apart.symm {world : World} {first second : String} {draft other : Draft}
    (apart : world.Apart first second draft other) : world.Apart second first other draft where
  different := apart.different.symm
  active := apart.otherActive
  otherActive := apart.active
  onCommitted := apart.otherOnCommitted
  otherOnCommitted := apart.onCommitted
  distinct := apart.distinct
  liveKeysDistinct := apart.liveKeysDistinct
  disjoint := fun table => List.disjoint_symm (apart.disjoint table)

/-- Whichever of two units is committed first, its commit succeeds, and in the end the same
rows are committed and the changes of both units are among them; or else the second commit is
refused in either order. -/
def CommitsCommute (world : World) (first second : String) (draft other : Draft) : Prop :=
  let afterFirst := (commit first).outcome world
  let afterSecond := (commit second).outcome world
  let there := (commit second).outcome afterFirst.2
  let back := (commit first).outcome afterSecond.2
  (afterFirst.1 = .ok () ∧ afterSecond.1 = .ok ()) ∧
    ((there.1 = .ok () ∧ back.1 = .ok () ∧
        (∀ table, (there.2.committed.rows table).Perm (back.2.committed.rows table)) ∧
        there.2.committed.Includes draft.base draft.work ∧
        there.2.committed.Includes other.base other.work) ∨
      (∃ keyName, there.1 = .error (.roleExists keyName)) ∧
        ∃ keyName, back.1 = .error (.roleExists keyName))

/-- What comes of a unit that is committed first: nothing stands in the way of its changes. -/
theorem Apart.outcome_commit {allowed : World → Event → Prop} {world : World}
    {first second : String} {draft other : Draft} (reachable : Reachable allowed world)
    (apart : world.Apart first second draft other) (distinct : draft.work.KeysDistinct)
    (identified : draft.work.Identified) (passes : world.surroundings.check .commit = .ok ()) :
    (commit first).outcome world =
      (.ok (), { world.setPhase first .finalized with
        committed := world.committed.merge world.committed draft.work }) := by
  have liveKeysDistinct : draft.work.LiveKeysDistinct := by
    apply reachable.liveKeysDistinct_work apart.active distinct.roles identified
    rw [apart.onCommitted]
    exact apart.liveKeysDistinct
  have merged := Tables.LiveKeysDistinct.merge_base apart.distinct.toIdsDistinct
    distinct.toIdsDistinct liveKeysDistinct
  have commits := outcome_commit_of_distinct passes apart.active
  rw [apart.onCommitted] at commits
  exact commits merged

theorem Apart.second_commit {world later : World} {first second : String}
    {draft other : Draft} (apart : world.Apart first second draft other)
    (ended : later = { world.setPhase first .finalized with
      committed := world.committed.merge world.committed draft.work })
    (passes : world.surroundings.check .commit = .ok ()) :
    let merged := later.committed.merge world.committed other.work
    (merged.LiveKeysDistinct → (commit second).outcome later =
        (.ok (), { later.setPhase second .finalized with committed := merged })) ∧
      (¬ merged.LiveKeysDistinct →
        ∃ keyName, ((commit second).outcome later).1 = .error (.roleExists keyName)) := by
  have passesLater : later.surroundings.check .commit = .ok () := by
    rw [ended]
    exact passes
  have active : later.phaseOf second = .active other := by
    rw [ended, ← apart.otherActive]
    exact phaseOf_setPhase_other world .finalized apart.different.symm
  rw [← apart.otherOnCommitted]
  exact ⟨outcome_commit_of_distinct passesLater active,
    outcome_commit_of_not_distinct passesLater active⟩

/-- Two units that began on the committed tables and changed no row in common can be committed
in either order: the same rows are committed in the end, or in both orders the second commit is
refused because two live roles would have the same key. This takes that in the working copies,
too, rows have keys of their own and an identifier tells which role is meant, and that commits
are not made to fail. -/
theorem commits_commute {allowed : World → Event → Prop} {world : World}
    {first second : String} {draft other : Draft} (reachable : Reachable allowed world)
    (apart : world.Apart first second draft other)
    (distinct : draft.work.KeysDistinct ∧ other.work.KeysDistinct)
    (identified : draft.work.Identified ∧ other.work.Identified)
    (passes : world.surroundings.check .commit = .ok ()) :
    world.CommitsCommute first second draft other := by
  have commitsFirst := apart.outcome_commit reachable distinct.1 identified.1 passes
  have commitsSecond := apart.symm.outcome_commit reachable distinct.2 identified.2 passes
  have sameRows := Tables.merge_merge_perm apart.distinct distinct.1 distinct.2 apart.disjoint
  simp only [CommitsCommute]
  rw [commitsFirst, commitsSecond, apart.onCommitted, apart.otherOnCommitted]
  refine ⟨⟨rfl, rfl⟩, ?_⟩
  have there := apart.second_commit rfl passes
  have back := apart.symm.second_commit rfl passes
  by_cases keysDistinct : ((world.committed.merge world.committed draft.work).merge
      world.committed other.work).LiveKeysDistinct
  · left
    rw [there.1 keysDistinct, back.1 (keysDistinct.perm (sameRows .roles))]
    refine ⟨rfl, rfl, sameRows, ?_, ?_⟩
    · exact Tables.includes_merge_merge apart.distinct distinct.1 distinct.2 apart.disjoint
    · intro table row changed
      rw [(sameRows table).mem_iff]
      exact Tables.includes_merge_merge apart.distinct distinct.2 distinct.1
        apart.symm.disjoint table row changed
  · right
    refine ⟨there.2 keysDistinct, back.2 fun others => keysDistinct ?_⟩
    exact others.perm (sameRows .roles).symm

def draftOf (world : World) (unitName : String) : Draft :=
  match world.phaseOf unitName with
  | .active draft => draft
  | _ => ⟨.empty, .empty⟩

/-- One unit renames the role and gives it to the user; the other attaches the permission to
the role and gives the user the permission itself. -/
def sideBySide : World :=
  (fresh.run stocking).run [.begin "first", .begin "second",
    .call "first" (.updateRole (.fresh "Sales" .sales (.ofNat 1) ⟨0, 0⟩) (.ofNat 1)),
    .call "second" (.replacePermissions 1 [2]),
    .call "second" (.grantPermissions 7 [2]),
    .call "first" (.assignRoles 7 [1])]

theorem commits_commute_sideBySide :
    sideBySide.CommitsCommute "first" "second" (sideBySide.draftOf "first")
        (sideBySide.draftOf "second") ∧
      ((sideBySide.run [.commit "first", .commit "second"]).committed.grants.map (·.id) = [4, 3] ∧
        (sideBySide.run [.commit "second", .commit "first"]).committed.grants.map (·.id) =
          [3, 4]) := by
  have reachable : Reachable Numbers sideBySide :=
    Reachable.run (Reachable.run (.start fresh.surroundings rfl) (by decide)) (by decide)
  have active : sideBySide.phaseOf "first" = .active (sideBySide.draftOf "first") := rfl
  have otherActive : sideBySide.phaseOf "second" = .active (sideBySide.draftOf "second") := rfl
  have distinct := fun tables member => (reachable.orderly tables member).distinct
  have apart : ∀ table,
      ∀ key ∈ sideBySide.committed.changedKeys (sideBySide.draftOf "first").work table,
        key ∉ sideBySide.committed.changedKeys (sideBySide.draftOf "second").work table := by
    intro table
    cases table <;> decide
  refine ⟨commits_commute reachable ?_ ⟨?_, ?_⟩ (by decide) rfl, by decide⟩
  · exact ⟨by decide, active, otherActive, rfl, rfl, distinct _ (committed_mem_copies _),
      by decide, apart⟩
  · exact distinct _ (work_mem_copies active)
  · exact distinct _ (work_mem_copies otherActive)

/-- Two roles are stored with one identifier. A unit gives the first of them the key of the
second, which the search for the key leaves out; a second unit changes nothing. -/
def namesakes : World :=
  fresh.run [.insertRole (.fresh "Staff" .staff (.ofNat 1) ⟨0, 0⟩),
    .insertRole (.fresh "Sales" .sales (.ofNat 1) ⟨0, 0⟩),
    .begin "first", .begin "second",
    .call "first" (.updateRole (.fresh "Staff" .sales (.ofNat 1) ⟨0, 0⟩) (.ofNat 1))]

def barred : World :=
  (fresh.run stocking).run [.begin "first", .begin "second",
    .around (.disable Operation.commit.name)]

/-- The first commit can be refused: because of what the unit has in its working copy if two
roles share an identifier, and in any case if commits are made to fail. -/
theorem first_commit_refused :
    (Reachable Numbers namesakes ∧
        namesakes.Apart "first" "second" (namesakes.draftOf "first") (namesakes.draftOf "second") ∧
        ((commit "first").outcome namesakes).1 = .error (.roleExists "SALES") ∧
        ¬ namesakes.CommitsCommute "first" "second" (namesakes.draftOf "first")
          (namesakes.draftOf "second")) ∧
      Reachable Careful barred ∧
        barred.Apart "first" "second" (barred.draftOf "first") (barred.draftOf "second") ∧
        ((commit "first").outcome barred).1 = .error Operation.commit.failure ∧
        ¬ barred.CommitsCommute "first" "second" (barred.draftOf "first")
          (barred.draftOf "second") := by
  have reachable : Reachable Numbers namesakes :=
    Reachable.run (.start fresh.surroundings rfl) (by decide)
  have careful : Reachable Careful barred :=
    Reachable.run (Reachable.run (.start fresh.surroundings rfl) (by decide)) (by decide)
  have refused : ((commit "first").outcome namesakes).1 = .error (.roleExists "SALES") := by decide
  have fails : ((commit "first").outcome barred).1 = .error Operation.commit.failure := by decide
  have apart : ∀ table,
      ∀ key ∈ namesakes.committed.changedKeys (namesakes.draftOf "first").work table,
        key ∉ namesakes.committed.changedKeys (namesakes.draftOf "second").work table := by
    intro table
    cases table <;> decide
  have apartToo : ∀ table,
      ∀ key ∈ barred.committed.changedKeys (barred.draftOf "first").work table,
        key ∉ barred.committed.changedKeys (barred.draftOf "second").work table := by
    intro table
    cases table <;> decide
  refine ⟨⟨reachable, ?_, refused, fun commute => ?_⟩, careful, ?_, fails, fun commute => ?_⟩
  · exact ⟨by decide, rfl, rfl, rfl, rfl, (reachable.orderly _ (committed_mem_copies _)).distinct,
      by decide, apart⟩
  · cases refused.symm.trans commute.1.1
  · exact ⟨by decide, rfl, rfl, rfl, rfl,
      (careful.kept.orderly _ (committed_mem_copies _)).distinct, by decide, apartToo⟩
  · cases fails.symm.trans commute.1.1

end World
end Entitlement
