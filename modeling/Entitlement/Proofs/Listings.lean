import Entitlement.Proofs.Histories
import Entitlement.Proofs.Representation

/-! # The order of rows

Nothing sorts a table. New rows come to its end, and a commit brings the rows that a unit has
added to the end of what is committed by then. But their numbers were given out when they were
added. So listings are oldest first exactly as long as no unit overtakes another: a row is not
committed before a row of its kind that has a smaller number. -/

namespace Entitlement

open Store

namespace Store

/-! ## Keys of merged rows -/

section

variable {α κ : Type} [DecidableEq κ] {key : α → κ}

theorem map_key_upsertAll {written : List α} (rows : List α) (distinct : (written.map key).Nodup) :
    (written.foldl (fun rows row => upsert key row rows) rows).map key =
      rows.map key ++ (written.map key).filter fun other => !(rows.map key).contains other := by
  induction written generalizing rows with
  | nil => simp
  | cons row written induction =>
      rcases List.nodup_cons.mp distinct with ⟨unrepeated, distinctRest⟩
      rw [List.foldl_cons, induction _ distinctRest, map_key_upsert]
      by_cases known : key row ∈ rows.map key
      · rw [if_pos known, List.map_cons, List.filter_cons_of_neg (by simpa using known)]
      · have sameRest : ∀ other ∈ written.map key,
            (!(rows.map key ++ [key row]).contains other) = !(rows.map key).contains other := by
          intro other member
          have different : other ≠ key row := fun equal => unrepeated (equal ▸ member)
          simp [different]
        rw [if_neg known, List.map_cons, List.filter_cons_of_pos (by simpa using known),
          List.filter_congr sameRest, List.append_assoc, List.singleton_append]

/-- If a working copy has all rows from the beginning, and committed rows that it has are among
them, a merge appends the keys of its new rows. -/
theorem map_key_mergeRows [DecidableEq α] {committed base work : List α} {added : List κ}
    (distinct : (work.map key).Nodup) (whole : work.map key = base.map key ++ added)
    (kept : ∀ known ∈ base.map key, known ∈ committed.map key)
    (apart : ∀ isNew ∈ added, isNew ∉ committed.map key) :
    (mergeRows key committed base work).map key = committed.map key ++ added := by
  have all : committed.filter (fun row =>
      !(hasKey key (key row) base && !hasKey key (key row) work)) = committed := by
    rw [List.filter_eq_self]
    intro row _
    cases inBase : hasKey key (key row) base with
    | false => rfl
    | true =>
        have known := (hasKey_eq_true_iff key (key row) base).mp inBase
        have inWork : hasKey key (key row) work = true := by
          rw [hasKey_eq_true_iff, whole]
          exact List.mem_append_left added known
        rw [inWork]
        rfl
  -- A row that is written although its key was there from the beginning is committed already.
  have written : ∀ row ∈ work, (!(committed.map key).contains (key row) && !base.contains row) =
      !(committed.map key).contains (key row) := by
    intro row _
    by_cases inBase : row ∈ base
    · have known := kept _ (List.mem_map_of_mem inBase)
      simp [inBase, known]
    · simp [inBase]
  have noneOld : (base.map key).filter (fun other => !(committed.map key).contains other) = [] := by
    rw [List.filter_eq_nil_iff]
    intro other member
    simpa using kept other member
  have allNew : added.filter (fun other => !(committed.map key).contains other) = added := by
    rw [List.filter_eq_self]
    intro other member
    simpa using apart other member
  rw [mergeRows, all, map_key_upsertAll _ (distinct.sublist (List.filter_sublist.map key)),
    List.filter_map, List.filter_filter]
  simp only [Function.comp_apply]
  rw [List.filter_congr written]
  have keys : (work.map key).filter (fun other => !(committed.map key).contains other) =
      (work.filter fun row => !(committed.map key).contains (key row)).map key := List.filter_map
  rw [← keys, whole, List.filter_append, noneOld, allNew, List.nil_append]

end

/-! ## Rows in order -/

def Tables.OldestFirst (tables : Tables) : Prop :=
  ∀ kind, (tables.ids kind).Pairwise (· < ·)

instance (tables : Tables) : Decidable tables.OldestFirst :=
  decidable_of_iff ((tables.ids .role).Pairwise (· < ·) ∧ (tables.ids .permission).Pairwise (· < ·) ∧
    (tables.ids .grant).Pairwise (· < ·))
    ⟨fun all kind => by
      cases kind with
      | role => exact all.1
      | permission => exact all.2.1
      | grant => exact all.2.2,
    fun all => ⟨all .role, all .permission, all .grant⟩⟩

theorem Tables.oldestFirst_append_iff {tables later : Tables} {kind : Kind} {id : Int}
    (whole : later.ids kind = tables.ids kind ++ [id])
    (same : ∀ other, other ≠ kind → later.ids other = tables.ids other)
    (behind : ∀ present ∈ tables.ids kind, present < id) :
    later.OldestFirst ↔ tables.OldestFirst := by
  have inKind : (later.ids kind).Pairwise (· < ·) ↔ (tables.ids kind).Pairwise (· < ·) := by
    rw [whole, List.pairwise_append]
    simpa using fun _ => behind
  apply forall_congr'
  intro other
  by_cases equal : other = kind
  · rw [equal]
    exact inKind
  · rw [same other equal]

structure Lists {α : Type} (id : α → Int) (wanted : α → Bool) (rows listed : List α) : Prop where
  exact : ∀ row, row ∈ listed ↔ row ∈ rows ∧ wanted row = true
  oldestFirst : (listed.map id).Pairwise (· < ·)

theorem lists_filter {α : Type} {id : α → Int} {rows : List α}
    (increasing : (rows.map id).Pairwise (· < ·)) (wanted : α → Bool) :
    Lists id wanted rows (rows.filter wanted) where
  exact := fun _ => List.mem_filter
  oldestFirst := increasing.sublist (List.filter_sublist.map id)

theorem Counts.pairwise {last final : Int} {ids : List Int} (counts : Counts last ids final)
    (start : 0 ≤ last) (low : last < Width.maxSigned64)
    (below : ∀ id ∈ ids, id < Width.maxSigned64) : ids.Pairwise (· < ·) := by
  induction ids generalizing last with
  | nil => exact List.Pairwise.nil
  | cons next ids induction =>
      have behind := (counts.increasing start low below).2.2.2 next List.mem_cons_self
      rcases counts with ⟨-, rest⟩
      rcases List.forall_mem_cons.mp below with ⟨nextBelow, restBelow⟩
      have nextStart : 0 ≤ next := by omega
      have later := rest.increasing nextStart nextBelow restBelow
      apply List.Pairwise.cons
      · exact fun id member => (later.2.2.2 id member).1
      · exact induction rest nextStart nextBelow restBelow

theorem Tables.ids_merge {committed base work : Tables} {kind : Kind} {added : List Int}
    (distinct : (work.ids kind).Nodup) (whole : work.ids kind = base.ids kind ++ added)
    (kept : ∀ id ∈ base.ids kind, id ∈ committed.ids kind)
    (apart : ∀ id ∈ added, id ∉ committed.ids kind) :
    (committed.merge base work).ids kind = committed.ids kind ++ added := by
  cases kind with
  | role => exact map_key_mergeRows distinct whole kept apart
  | permission => exact map_key_mergeRows distinct whole kept apart
  | grant => exact map_key_mergeRows distinct whole kept apart

end Store

/-! ## What units have added -/

/-- The rows of a kind that a unit found are still where they were, in the working copy and in
the committed tables, and rows with larger and larger numbers follow them in the working copy. -/
structure Draft.Adds (draft : Draft) (committed : Tables) (kind : Kind) (added : List Int) :
    Prop where
  worked : draft.work.ids kind = draft.base.ids kind ++ added
  found : draft.base.ids kind <+: committed.ids kind
  increasing : added.Pairwise (· < ·)
  behind : ∀ old ∈ draft.base.ids kind, ∀ id ∈ added, old < id

namespace World

def Additive (world : World) : Prop :=
  ∀ unitName draft, world.phaseOf unitName = .active draft →
    ∀ kind, ∃ added, draft.Adds world.committed kind added

theorem Sound.ids_merge {world : World} (sound : world.Sound) {unitName : String} {draft : Draft}
    (active : world.phaseOf unitName = .active draft) {kind : Kind} {added : List Int}
    (adds : draft.Adds world.committed kind added) :
    (world.committed.merge draft.base draft.work).ids kind = world.committed.ids kind ++ added := by
  have distinct := (sound.tables _ (work_mem_copies active)).toIdsDistinct.ids kind
  apply Tables.ids_merge distinct adds.worked
  · exact fun id member => adds.found.subset member
  · intro id isNew isCommitted
    rw [adds.worked] at distinct
    have inWork : id ∈ draft.work.ids kind := by
      rw [adds.worked]
      exact List.mem_append_right _ isNew
    have inBase := sound.separate.known active kind id isCommitted inWork
    exact (List.nodup_append.mp distinct).2.2 id inBase id isNew rfl

theorem Transition.ids_prefix {world later : World} {event : Event}
    (transition : Transition world event later) (sound : world.Sound) (additive : world.Additive)
    (kind : Kind) : world.committed.ids kind <+: later.committed.ids kind := by
  cases transition with
  | none | refuse | begin | call | discard | around => exact List.prefix_refl _
  | commit unitName draft active unrepeated =>
      rcases additive unitName draft active kind with ⟨added, adds⟩
      change _ <+: (world.committed.merge draft.base draft.work).ids kind
      rw [sound.ids_merge active adds]
      exact List.prefix_append _ _
  | insertRole role =>
      cases kind with
      | role => exact (List.prefix_append _ _).map _
      | permission | grant => exact List.prefix_refl _
  | insertPermission permission =>
      cases kind with
      | permission => exact (List.prefix_append _ _).map _
      | role | grant => exact List.prefix_refl _

theorem additive_step {world : World} {event : Event} (sound : world.Sound)
    (regular : world.Regular event) (additive : world.Additive) :
    (world.step event).Additive := by
  have transition := step_transition world event
  intro unitName draft active kind
  have stays := transition.ids_prefix sound additive kind
  cases transition.draftAfter active with
  | begun => exact ⟨[], (List.append_nil _).symm, stays, List.Pairwise.nil, by simp⟩
  | old _ wasActive =>
      rcases additive unitName draft wasActive kind with ⟨added, adds⟩
      exact ⟨added, adds.worked, adds.found.trans stays, adds.increasing, adds.behind⟩
  | worked call wasActive change =>
      rename_i draft workspace
      rcases additive unitName draft wasActive kind with ⟨added, adds⟩
      rcases change.growth with ⟨rows, growth, -⟩
      have below : ∀ kind, ∀ id ∈ workspace.tables.ids kind, id < Width.maxSigned64 :=
        regular.2.2.ids (work_mem_copies active)
      have isNew := growth.increasing sound.start sound.low below
      have sub := rows.ids_sublist_numbers kind
      have upward : (rows.ids kind).Pairwise (· < ·) := by
        refine (growth.numbers.pairwise sound.start sound.low fun id member => ?_).sublist sub
        have between := isNew.2.2.2 id member
        omega
      have passedBase := (sound.tables _ (base_mem_copies wasActive)).passed kind
      have passedWork := (sound.tables _ (work_mem_copies wasActive)).passed kind
      refine ⟨added ++ rows.ids kind, ?_, adds.found.trans stays, ?_, ?_⟩
      · change workspace.tables.ids kind = _
        rw [growth.ids kind, adds.worked, List.append_assoc]
      · apply List.pairwise_append.mpr
        refine ⟨adds.increasing, upward, fun old isOld id member => ?_⟩
        have early := passedWork old (by rw [adds.worked]; exact List.mem_append_right _ isOld)
        have late := (isNew.2.2.2 id (sub.subset member)).1
        exact Int.lt_of_le_of_lt early late
      · intro old isOld id member
        rcases List.mem_append.mp member with wasAdded | isAdded
        · exact adds.behind old isOld id wasAdded
        · have early := passedBase old isOld
          have late := (isNew.2.2.2 id (sub.subset isAdded)).1
          exact Int.lt_of_le_of_lt early late

theorem Reachable.additive {world : World} (reachable : Reachable Regular world) :
    world.Additive := by
  induction reachable with
  | start surroundings unused => exact fun _ _ active => by cases active
  | step event reachable regular induction => exact additive_step reachable.sound regular induction

/-! ## Commits out of order -/

/-- A unit is committed that has added a row with a smaller number than a row of the same kind
that was committed before. -/
def Overtaken (world : World) : Event → Prop
  | .commit unitName => ((commit unitName).outcome world).1 = .ok () ∧
      ∃ draft, world.phaseOf unitName = .active draft ∧
        ∃ kind, ∃ id ∈ draft.work.ids kind, id ∉ draft.base.ids kind ∧
          ∃ present ∈ world.committed.ids kind, id < present
  | _ => False

theorem Reachable.pairwise_ids_merge_iff {world : World} (reachable : Reachable Regular world)
    {unitName : String} {draft : Draft} (active : world.phaseOf unitName = .active draft)
    (kind : Kind) :
    ((world.committed.merge draft.base draft.work).ids kind).Pairwise (· < ·) ↔
      (world.committed.ids kind).Pairwise (· < ·) ∧
        ∀ id ∈ draft.work.ids kind, id ∉ draft.base.ids kind →
          ∀ present ∈ world.committed.ids kind, ¬ id < present := by
  have sound := reachable.sound
  have distinct := (sound.tables _ (work_mem_copies active)).toIdsDistinct.ids kind
  rcases reachable.additive unitName draft active kind with ⟨added, adds⟩
  rw [sound.ids_merge active adds, List.pairwise_append]
  rw [adds.worked] at distinct ⊢
  constructor
  · intro parts
    refine ⟨parts.1, fun id inWork notInBase present isCommitted => ?_⟩
    have isNew := (List.mem_append.mp inWork).resolve_left notInBase
    have before := parts.2.2 present isCommitted id isNew
    omega
  · intro parts
    refine ⟨parts.1, adds.increasing, fun present isCommitted id isNew => ?_⟩
    have inWork := List.mem_append_right (draft.base.ids kind) isNew
    have notInBase : id ∉ draft.base.ids kind := fun inBase =>
      (List.nodup_append.mp distinct).2.2 id inBase id isNew rfl
    have notBefore := parts.2 id inWork notInBase present isCommitted
    have different : present ≠ id := by
      intro equal
      rw [equal] at isCommitted
      rw [← adds.worked] at inWork
      exact notInBase (sound.separate.known active kind id isCommitted inWork)
    omega

theorem Reachable.oldestFirst_step {world : World} (reachable : Reachable Regular world)
    {event : Event} (regular : world.Regular event) :
    (world.step event).committed.OldestFirst ↔
      world.committed.OldestFirst ∧ ¬ world.Overtaken event := by
  have sound := reachable.sound
  have passed := (sound.tables _ (committed_mem_copies world)).passed
  have below := regular.2.2
  cases event with
  | commit unitName =>
      rcases outcome_commit world unitName with
        fails | ⟨draft, active, ⟨key, -, refuses⟩ | ⟨-, publishes⟩⟩
      · simp [World.step, fails, Overtaken]
      · simp [World.step, refuses, Overtaken, setPhase]
      · rw [World.step, publishes]
        have inOrder := reachable.pairwise_ids_merge_iff active
        constructor
        · intro ordered
          refine ⟨fun kind => ((inOrder kind).mp (ordered kind)).1, fun overtaken => ?_⟩
          rcases overtaken with
            ⟨-, other, isActive, kind, id, inWork, notInBase, present, isCommitted, before⟩
          cases active.symm.trans isActive
          exact ((inOrder kind).mp (ordered kind)).2 id inWork notInBase present isCommitted before
        · rintro ⟨ordered, inTime⟩ kind
          apply (inOrder kind).mpr
          refine ⟨ordered kind, fun id inWork notInBase present isCommitted before => inTime ?_⟩
          exact ⟨by rw [publishes], draft, active, kind, id, inWork, notInBase, present,
            isCommitted, before⟩
  | insertRole role =>
      have inTable : (world.insertRole role).1.id ∈ (world.insertRole role).2.committed.ids .role :=
        List.mem_map_of_mem (List.mem_append_right _ List.mem_cons_self)
      have behind := (Supply.lt_numberFor regular.1 sound.start sound.low
        (below.ids (committed_mem_copies _) .role _ inTable)).1
      have whole : (world.insertRole role).2.committed.ids .role =
          world.committed.ids .role ++ [(world.insertRole role).1.id] := List.map_append
      simp only [Overtaken, not_false_eq_true, and_true]
      apply Tables.oldestFirst_append_iff whole
      · intro other different
        cases other <;> first | rfl | exact absurd rfl different
      · exact fun present isCommitted => Int.lt_of_le_of_lt (passed .role present isCommitted) behind
  | insertPermission permission =>
      have inTable : (world.insertPermission permission).1.id ∈
          (world.insertPermission permission).2.committed.ids .permission :=
        List.mem_map_of_mem (List.mem_append_right _ List.mem_cons_self)
      have behind := (Supply.lt_numberFor regular.1 sound.start sound.low
        (below.ids (committed_mem_copies _) .permission _ inTable)).1
      have whole : (world.insertPermission permission).2.committed.ids .permission =
          world.committed.ids .permission ++ [(world.insertPermission permission).1.id] := List.map_append
      simp only [Overtaken, not_false_eq_true, and_true]
      apply Tables.oldestFirst_append_iff whole
      · intro other different
        cases other <;> first | rfl | exact absurd rfl different
      · exact fun present isCommitted =>
          Int.lt_of_le_of_lt (passed .permission present isCommitted) behind
  | begin | call | rollback | around =>
      rw [committed_step]
      simp [publicationIn, Overtaken]

/-! ## Runs -/

/-- What an event keeps exactly if it is not harmful is there at the end of a run exactly if it
was there at the start and nothing harmful has happened. -/
theorem Reachable.run_iff {allowed harmful : World → Event → Prop} (property : World → Prop)
    (step : ∀ (now : World) (event : Event), Reachable allowed now → allowed now event →
      (property (now.step event) ↔ property now ∧ ¬ harmful now event))
    {world : World} {events : List Event} (reachable : Reachable allowed world)
    (permits : Permits allowed world events) :
    property (world.run events) ↔
      property world ∧ Permits (fun now event => ¬ harmful now event) world events := by
  induction events generalizing world with
  | nil => exact (and_iff_left trivial).symm
  | cons event events induction =>
      have rest := induction (reachable.step event permits.1) permits.2
      rw [step world event reachable permits.1, and_assoc] at rest
      exact rest

theorem Reachable.oldestFirst_work {world : World} (reachable : Reachable Regular world)
    (ordered : world.committed.OldestFirst) {unitName : String} {draft : Draft}
    (active : world.phaseOf unitName = .active draft) : draft.work.OldestFirst := by
  intro kind
  rcases reachable.additive unitName draft active kind with ⟨added, adds⟩
  rw [adds.worked]
  apply List.pairwise_append.mpr
  exact ⟨(ordered kind).sublist adds.found.sublist, adds.increasing, adds.behind⟩

/-- A listing of an active unit is answered from its working copy, unless it is made to fail. -/
theorem outcome_listing {α : Type} {world : World} {unitName : String} {draft : Draft}
    (active : world.phaseOf unitName = .active draft) (call : Call (List α))
    (passes : world.surroundings.check call.operation = .ok ()) {rows : List α}
    (answers : ((Workspace.perform call).outcome ⟨draft.work, world.surroundings.supply⟩).1 =
      .ok rows) :
    ((request unitName call).outcome world).1 = .ok rows := by
  rw [outcome_request_of_active active, passes]
  exact answers

/-- A run that starts with committed rows that are oldest first ends with such rows exactly if
no unit has overtaken another. Then each listing has exactly the live rows of the unit, oldest
first. -/
theorem listings_oldest_first_iff {world : World} {events : List Event}
    (reachable : Reachable Regular world) (ordered : world.committed.OldestFirst)
    (permits : Permits Regular world events) :
    let later := world.run events
    (later.committed.OldestFirst ↔
        Permits (fun now event => ¬ now.Overtaken event) world events) ∧
      (later.committed.OldestFirst → ∀ unitName draft, later.phaseOf unitName = .active draft →
        (later.surroundings.check .liveRoles = .ok () → ∃ listed,
          ((request unitName .liveRoles).outcome later).1 = .ok listed ∧
            Lists (·.id) (·.isLive) draft.work.roles listed) ∧
        (later.surroundings.check .livePermissions = .ok () → ∃ listed,
          ((request unitName .livePermissions).outcome later).1 = .ok listed ∧
            Lists (·.id) (·.isLive) draft.work.permissions listed) ∧
        (later.surroundings.check .grantsOf = .ok () → ∀ userId, ∃ listed,
          ((request unitName (.grantsOf userId)).outcome later).1 = .ok listed ∧
            Lists (·.id) (fun grant => grant.userId = userId && grant.isLive) draft.work.grants
              listed)) := by
  intro later
  constructor
  · have whole := Reachable.run_iff (fun now => now.committed.OldestFirst)
      (fun _ _ reached regular => reached.oldestFirst_step regular) reachable permits
    rw [and_iff_right ordered] at whole
    exact whole
  · intro stillOrdered unitName draft active
    have inWork := (reachable.run permits).oldestFirst_work stillOrdered active
    refine ⟨fun passes => ?_, fun passes => ?_, fun passes userId => ?_⟩
    · exact ⟨_, outcome_listing active .liveRoles passes rfl, lists_filter (inWork .role) _⟩
    · exact ⟨_, outcome_listing active .livePermissions passes rfl, lists_filter (inWork .permission) _⟩
    · exact ⟨_, outcome_listing active (.grantsOf userId) passes rfl, lists_filter (inWork .grant) _⟩

/-- Two units create roles and are committed one after the other. Then a third one begins. -/
def creations (former latter : String) : List Event :=
  [.begin "first", .begin "second",
    .call "first" (.createRole (.fresh "Staff" .staff (.ofNat 1) ⟨0, 0⟩)),
    .call "second" (.createRole (.fresh "Sales" .sales (.ofNat 2) ⟨0, 0⟩)),
    .commit former, .commit latter, .begin "third"]

theorem listings_oldest_first_iff_creations :
    let inTurn := fresh.run (creations "first" "second")
    (∃ draft listed, inTurn.phaseOf "third" = .active draft ∧
        ((request "third" .liveRoles).outcome inTurn).1 = .ok listed ∧
          Lists (·.id) (·.isLive) draft.work.roles listed) ∧
      ¬ Permits (fun now event => ¬ now.Overtaken event) fresh (creations "second" "first") := by
  have reachable : Reachable Regular fresh := .start fresh.surroundings rfl
  constructor
  · have permits : Permits Regular fresh (creations "first" "second") := by decide
    have given := listings_oldest_first_iff reachable (by decide) permits
    rcases (given.2 (by decide) "third" _ rfl).1 rfl with ⟨listed, answer, lists⟩
    exact ⟨_, listed, rfl, answer, lists⟩
  · intro inTime
    have permits : Permits Regular fresh (creations "second" "first") := by decide
    have ordered := (listings_oldest_first_iff reachable (by decide) permits).1.mpr inTime
    revert ordered
    decide

/-- So a listing can show a role before one that is older. -/
theorem listing_out_of_order :
    ¬ ∀ world : World, Reachable Regular world → ∀ unitName roles,
      ((request unitName .liveRoles).outcome world).1 = .ok roles →
        (roles.map (·.id)).Pairwise (· < ·) := by
  intro always
  have reachable : Reachable Regular (fresh.run (creations "second" "first")) :=
    Reachable.run (.start fresh.surroundings rfl) (by decide)
  have increasing := always _ reachable "third" _ rfl
  revert increasing
  decide

end World
end Entitlement
