import Entitlement.Proofs.Growth

/-! # Numbers of new rows

Until a unit is committed, the rows that it has added are known to nobody else: their numbers
are in no other copy of the tables. That is so in every run in which each new row gets a
number that no row of its kind has. -/

namespace Entitlement

open Store

def Phase.Issued (kind : Kind) (id : Int) : Phase → Prop
  | .active draft => id ∈ draft.work.ids kind ∧ id ∉ draft.base.ids kind
  | _ => False

namespace World

def Separate (world : World) : Prop :=
  ∀ unitName kind id, (world.phaseOf unitName).Issued kind id →
    id ∉ world.committed.ids kind ∧
      ∀ other, other ≠ unitName → ∀ tables ∈ (world.phaseOf other).copies, id ∉ tables.ids kind

def IsFree (world : World) (kind : Kind) (id : Int) : Prop :=
  ∀ tables ∈ world.copies, id ∉ tables.ids kind

instance (world : World) (kind : Kind) (id : Int) : Decidable (world.IsFree kind id) :=
  inferInstanceAs (Decidable (∀ tables ∈ world.copies, id ∉ tables.ids kind))

def NumbersAnew (world : World) : Event → Prop
  | .call unitName call => ∀ draft, world.phaseOf unitName = .active draft →
      world.surroundings.check call.operation = .ok () →
      ∀ kind, ∀ id ∈ ((Workspace.perform call).outcome
          ⟨draft.work, world.surroundings.supply⟩).2.tables.ids kind,
        id ∈ draft.work.ids kind ∨ world.IsFree kind id
  | .insertRole role => world.IsFree .role (world.insertRole role).1.id
  | .insertPermission permission =>
      world.IsFree .permission (world.insertPermission permission).1.id
  | _ => True

/-! ## One event -/

theorem phaseOf_setPhase (world : World) (unitName other : String) (phase : Phase) :
    (world.setPhase unitName phase).phaseOf other =
      if other = unitName then phase else world.phaseOf other := by
  split
  · rename_i same
    rw [same]
    exact phaseOf_setPhase_self world unitName phase
  · rename_i different
    exact phaseOf_setPhase_other world phase different

theorem not_isFree_of_issued {world : World} {unitName : String} {kind : Kind} {id : Int}
    (issued : (world.phaseOf unitName).Issued kind id) : ¬ world.IsFree kind id := by
  intro free
  cases phase : world.phaseOf unitName with
  | idle | finalized =>
      rw [phase] at issued
      exact issued
  | active draft =>
      rw [phase] at issued
      exact free draft.work (work_mem_copies phase) issued.1

theorem Separate.setPhase {world : World} (separate : world.Separate) {unitName : String}
    {phase : Phase} (addsNone : ∀ kind id, ¬ phase.Issued kind id)
    (known : ∀ tables ∈ phase.copies, tables = world.committed) :
    (world.setPhase unitName phase).Separate := by
  intro owner kind id issued
  rw [phaseOf_setPhase] at issued
  split at issued
  · exact absurd issued (addsNone kind id)
  · rcases separate owner kind id issued with ⟨uncommitted, elsewhere⟩
    refine ⟨uncommitted, fun other different tables kept => ?_⟩
    rw [phaseOf_setPhase] at kept
    split at kept
    · rw [known tables kept]
      exact uncommitted
    · exact elsewhere other different tables kept

theorem Separate.withCommitted {world : World} (separate : world.Separate) {committed : Tables}
    (surroundings : Surroundings)
    (known : ∀ kind, ∀ id ∈ committed.ids kind,
      id ∈ world.committed.ids kind ∨ world.IsFree kind id) :
    Separate ⟨committed, world.units, surroundings⟩ := by
  intro owner kind id issued
  rcases separate owner kind id issued with ⟨uncommitted, elsewhere⟩
  refine ⟨fun member => ?_, elsewhere⟩
  rcases known kind id member with isCommitted | free
  · exact uncommitted isCommitted
  · have taken : ¬ world.IsFree kind id := not_isFree_of_issued issued
    exact taken free

theorem Separate.refuse {world : World} (separate : world.Separate) (unitName : String) :
    (world.setPhase unitName (world.phaseOf unitName)).Separate := by
  have same : ∀ other, (world.setPhase unitName (world.phaseOf unitName)).phaseOf other =
      world.phaseOf other := by
    intro other
    rw [phaseOf_setPhase]
    split
    · rename_i equal
      rw [equal]
    · rfl
  intro owner kind id issued
  simp only [same] at issued ⊢
  exact separate owner kind id issued

section

variable {world : World} {unitName : String} {draft : Draft} (separate : world.Separate)
  (active : world.phaseOf unitName = .active draft)

include separate active

theorem Separate.setWork {work : Tables}
    (worked : ∀ kind, ∀ id ∈ work.ids kind, id ∈ draft.work.ids kind ∨ world.IsFree kind id) :
    (world.setPhase unitName (.active { draft with work })).Separate := by
  have baseKept : draft.base ∈ (world.phaseOf unitName).copies := by simp [active, Phase.copies]
  have workKept : draft.work ∈ (world.phaseOf unitName).copies := by simp [active, Phase.copies]
  intro owner kind id issued
  rw [phaseOf_setPhase] at issued
  split at issued
  · rename_i own
    subst own
    -- A number that the unit has just given out is free, and so in no other copy.
    have apart : id ∉ world.committed.ids kind ∧ ∀ other, other ≠ owner →
        ∀ tables ∈ (world.phaseOf other).copies, id ∉ tables.ids kind := by
      rcases worked kind id issued.1 with old | free
      · exact separate owner kind id (by rw [active]; exact ⟨old, issued.2⟩)
      · exact ⟨free _ (committed_mem_copies world),
          fun other _ tables kept => free tables (mem_copies_of_phaseOf kept)⟩
    refine ⟨apart.1, fun other different tables kept => ?_⟩
    rw [phaseOf_setPhase, if_neg different] at kept
    exact apart.2 other different tables kept
  · rcases separate owner kind id issued with ⟨uncommitted, elsewhere⟩
    refine ⟨uncommitted, fun other different tables kept => ?_⟩
    rw [phaseOf_setPhase] at kept
    split at kept
    · rename_i same
      subst same
      rcases List.mem_cons.mp kept with rfl | kept
      · exact elsewhere other different draft.base baseKept
      · rw [List.mem_singleton.mp kept]
        intro member
        rcases worked kind id member with old | free
        · exact elsewhere other different draft.work workKept old
        · exact not_isFree_of_issued issued free
    · exact elsewhere other different tables kept

theorem Separate.merge :
    Separate { world.setPhase unitName .finalized with
      committed := world.committed.merge draft.base draft.work } := by
  have workKept : draft.work ∈ (world.phaseOf unitName).copies := by simp [active, Phase.copies]
  have ended : (world.setPhase unitName .finalized).Separate :=
    separate.setPhase (fun _ _ issued => issued) (fun _ kept => by cases kept)
  intro owner kind id issued
  rcases ended owner kind id issued with ⟨uncommitted, elsewhere⟩
  refine ⟨fun member => ?_, elsewhere⟩
  rcases Tables.mem_ids_merge member with isCommitted | inWork
  · exact uncommitted isCommitted
  · change ((world.setPhase unitName .finalized).phaseOf owner).Issued kind id at issued
    rw [phaseOf_setPhase] at issued
    split at issued
    · exact issued
    · rename_i different
      exact (separate owner kind id issued).2 unitName (Ne.symm different) draft.work workKept
        inWork

end

theorem Transition.separate {world later : World} {event : Event}
    (transition : Transition world event later) (anew : world.NumbersAnew event)
    (separate : world.Separate) : later.Separate := by
  cases transition with
  | none => exact separate
  | refuse unitName call => exact separate.refuse unitName
  | begin unitName idle =>
      apply separate.setPhase
      · exact fun kind id issued => issued.2 issued.1
      · intro tables kept
        simpa [Phase.copies] using kept
  | call unitName call draft active workspace performed passes =>
      apply separate.setWork active
      rw [performed]
      exact anew draft active passes
  | commit unitName draft active unrepeated => exact separate.merge active
  | discard unitName event ending draft active =>
      exact separate.setPhase (fun _ _ issued => issued) (fun _ kept => by cases kept)
  | insertRole role =>
      apply separate.withCommitted
      intro kind id member
      cases kind with
      | role =>
          rcases List.mem_map.mp member with ⟨row, inTable, rfl⟩
          rcases List.mem_append.mp inTable with old | isNew
          · exact Or.inl (List.mem_map_of_mem old)
          · rw [List.mem_singleton.mp isNew]
            exact Or.inr anew
      | permission | grant => exact Or.inl member
  | insertPermission permission =>
      apply separate.withCommitted
      intro kind id member
      cases kind with
      | permission =>
          rcases List.mem_map.mp member with ⟨row, inTable, rfl⟩
          rcases List.mem_append.mp inTable with old | isNew
          · exact Or.inl (List.mem_map_of_mem old)
          · rw [List.mem_singleton.mp isNew]
            exact Or.inr anew
      | role | grant => exact Or.inl member
  | around happening => exact separate

theorem separate_start (surroundings : Surroundings) :
    Separate ⟨.empty, [], surroundings⟩ :=
  fun _ _ _ issued => issued.elim

/-! ## Runs -/

/-- As long as the counter has not come full circle, and numbers chosen elsewhere are larger
than all before, each new row has a number that is free. -/
theorem Orderly.numbersAnew {world : World} {event : Event} (orderly : world.Orderly)
    (numbers : world.Numbers event) : world.NumbersAnew event := by
  have isFree : ∀ kind id, ¬ world.surroundings.supply.Covers id → world.IsFree kind id := by
    intro kind id uncovered tables copy member
    have numbered := (orderly tables copy).numbered
    cases kind with
    | role =>
        rcases List.mem_map.mp member with ⟨role, inRoles, rfl⟩
        exact uncovered (numbered.roles role inRoles)
    | permission =>
        rcases List.mem_map.mp member with ⟨permission, inPermissions, rfl⟩
        exact uncovered (numbered.permissions permission inPermissions)
    | grant =>
        rcases List.mem_map.mp member with ⟨grant, inGrants, rfl⟩
        exact uncovered (numbered.grants grant inGrants)
  cases event with
  | call unitName call =>
      intro draft active passes kind id member
      rcases (Workspace.perform_change call _).growth with ⟨added, growth, few⟩
      rw [growth.ids kind] at member
      rcases List.mem_append.mp member with old | isNew
      · exact Or.inl old
      · right
        apply isFree
        exact growth.numbers.not_covers (Supply.Lasts.mono numbers few) id
          (Tables.mem_numbers_iff.mpr ⟨kind, isNew⟩)
  | insertRole role => exact isFree .role _ (Supply.numberFor_spec numbers).2.1
  | insertPermission permission => exact isFree .permission _ (Supply.numberFor_spec numbers).2.1
  | begin | commit | rollback | around => trivial

theorem Reachable.separate {world : World} (reachable : Reachable Numbers world) :
    world.Separate := by
  induction reachable with
  | start surroundings unused => exact separate_start surroundings
  | step event reachable numbers induction =>
      exact (step_transition _ event).separate (reachable.orderly.numbersAnew numbers) induction

end World
end Entitlement
