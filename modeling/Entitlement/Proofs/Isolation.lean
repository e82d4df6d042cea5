import Entitlement.Proofs.Runs

/-! # Units do not see each other

An active unit works on the tables as they were committed when it began, and only its own
calls change its working copy. All that other units share with it are the numbers and the
moments that its calls draw. The committed tables, in turn, are made by what was stored
directly and by the commits that succeeded, and by nothing else. -/

namespace Entitlement

open Store

/-! ## The calls of one unit -/

structure Turn where
  {α : Type}
  call : Call α
  supply : Supply
  refused : Bool

namespace Turn

def perform (turn : Turn) (tables : Tables) : Except Fault turn.α × Tables :=
  if turn.refused then (.error turn.call.operation.failure, tables)
  else
    let (answer, workspace) := (Workspace.perform turn.call).outcome ⟨tables, turn.supply⟩
    (answer, workspace.tables)

def replay (tables : Tables) (turns : List Turn) : Tables :=
  turns.foldl (fun tables turn => (turn.perform tables).2) tables

theorem replay_append (tables : Tables) (earlier later : List Turn) :
    replay tables (earlier ++ later) = replay (replay tables earlier) later :=
  List.foldl_append

end Turn

namespace World

def turn {α : Type} (world : World) (call : Call α) : Turn :=
  ⟨call, world.surroundings.supply,
    world.surroundings.failing.contains call.operation.name⟩

def turnIn (unitName : String) (world : World) : Event → List Turn
  | .call caller call => if caller = unitName then [world.turn call] else []
  | _ => []

def turns (unitName : String) : World → List Event → List Turn
  | _, [] => []
  | world, event :: events =>
      turnIn unitName world event ++ turns unitName (world.step event) events

/-! ## Working copies -/

theorem outcome_request_of_turn {α : Type} {world : World} {unitName : String} {draft : Draft}
    (active : world.phaseOf unitName = .active draft) (call : Call α) :
    ((request unitName call).outcome world).1 = ((world.turn call).perform draft.work).1 ∧
      ((request unitName call).outcome world).2.phaseOf unitName =
        .active ⟨draft.base, ((world.turn call).perform draft.work).2⟩ := by
  rw [outcome_request_of_active active]
  simp only [Turn.perform, turn, Surroundings.check]
  by_cases refused : world.surroundings.failing.contains call.operation.name = true
  · simp only [refused, if_true, phaseOf_setPhase_self, and_self]
  · simp only [refused, Bool.false_eq_true, if_false, true_and]
    exact phaseOf_setPhase_self _ unitName _

theorem Transition.phaseOf_of_uncalled {world later : World} {event : Event}
    {unitName : String} {draft : Draft} (transition : Transition world event later)
    (uncalled : ∀ {α : Type} (call : Call α), event ≠ .call unitName call)
    (active : world.phaseOf unitName = .active draft) :
    later.phaseOf unitName = .active draft ∨ later.phaseOf unitName = .finalized := by
  cases transition with
  | none => exact Or.inl active
  | refuse caller call =>
      have different : unitName ≠ caller := fun equal => uncalled call (by rw [equal])
      exact Or.inl ((phaseOf_setPhase_other world _ different).trans active)
  | begin beginner idle =>
      have different : unitName ≠ beginner := by
        intro equal
        rw [equal, idle] at active
        cases active
      exact Or.inl ((phaseOf_setPhase_other world _ different).trans active)
  | call caller call other isActive workspace performed passes =>
      have different : unitName ≠ caller := fun equal => uncalled call (by rw [equal])
      exact Or.inl ((phaseOf_setPhase_other world _ different).trans active)
  | commit ender other isActive unrepeated =>
      by_cases equal : unitName = ender
      · rw [equal]
        exact Or.inr (phaseOf_setPhase_self world ender .finalized)
      · exact Or.inl ((phaseOf_setPhase_other world _ equal).trans active)
  | discard ender event ending other isActive =>
      by_cases equal : unitName = ender
      · rw [equal]
        exact Or.inr (phaseOf_setPhase_self world ender .finalized)
      · exact Or.inl ((phaseOf_setPhase_other world _ equal).trans active)
  | insertRole role => exact Or.inl active
  | insertPermission permission => exact Or.inl active
  | around happening => exact Or.inl active

theorem Transition.phaseOf_of_finalized {world later : World} {event : Event}
    {unitName : String} (transition : Transition world event later)
    (finalized : world.phaseOf unitName = .finalized) :
    later.phaseOf unitName = .finalized := by
  have stays : ∀ (other : String) (phase : Phase),
      (other = unitName → phase = .finalized) →
        (world.setPhase other phase).phaseOf unitName = .finalized := by
    intro other phase same
    by_cases equal : unitName = other
    · rw [same equal.symm, equal]
      exact phaseOf_setPhase_self world other .finalized
    · exact (phaseOf_setPhase_other world phase equal).trans finalized
  cases transition with
  | none => exact finalized
  | refuse caller call =>
      apply stays
      intro equal
      rw [equal, finalized]
  | begin beginner idle =>
      apply stays
      intro equal
      rw [equal, finalized] at idle
      cases idle
  | call caller call draft active workspace performed passes =>
      apply stays
      intro equal
      rw [equal, finalized] at active
      cases active
  | commit ender draft active unrepeated => exact stays ender .finalized fun _ => rfl
  | discard ender event ending draft active => exact stays ender .finalized fun _ => rfl
  | insertRole role => exact finalized
  | insertPermission permission => exact finalized
  | around happening => exact finalized

/-- An event makes of the working copy of an active unit what the call of the unit makes of
it, or ends the unit. -/
theorem phaseOf_step {world : World} {unitName : String} {draft : Draft} (event : Event)
    (active : world.phaseOf unitName = .active draft) :
    (world.step event).phaseOf unitName =
        .active ⟨draft.base, Turn.replay draft.work (turnIn unitName world event)⟩ ∨
      (world.step event).phaseOf unitName = .finalized := by
  by_cases called : ∃ (α : Type) (call : Call α), event = .call unitName call
  · rcases called with ⟨α, call, rfl⟩
    have own : turnIn unitName world (.call unitName call) = [world.turn call] := if_pos rfl
    rw [own]
    exact Or.inl (outcome_request_of_turn active call).2
  · have uncalled : ∀ {α : Type} (call : Call α), event ≠ .call unitName call :=
      fun call equal => called ⟨_, call, equal⟩
    have none : turnIn unitName world event = [] := by
      cases event with
      | call caller call => exact if_neg fun equal => uncalled call (by rw [equal])
      | begin | commit | rollback | insertRole | insertPermission | around => rfl
    rw [none]
    exact (step_transition world event).phaseOf_of_uncalled uncalled active

theorem phaseOf_run_of_finalized {world : World} {unitName : String} (events : List Event)
    (finalized : world.phaseOf unitName = .finalized) :
    (world.run events).phaseOf unitName = .finalized := by
  induction events generalizing world with
  | nil => exact finalized
  | cons event events induction =>
      exact induction ((step_transition world event).phaseOf_of_finalized finalized)

/-- A run makes of the working copy of a unit what the calls of the unit make of it, or
ends the unit. -/
theorem phaseOf_run {world : World} {unitName : String} {draft : Draft} (events : List Event)
    (active : world.phaseOf unitName = .active draft) :
    (world.run events).phaseOf unitName =
        .active ⟨draft.base, Turn.replay draft.work (turns unitName world events)⟩ ∨
      (world.run events).phaseOf unitName = .finalized := by
  induction events generalizing world draft with
  | nil => exact Or.inl active
  | cons event events induction =>
      rcases phaseOf_step event active with stillActive | finalized
      -- The later calls are made on what the first event left of the working copy.
      · have rest := induction stillActive
        rw [← Turn.replay_append] at rest
        exact rest
      · exact Or.inr (phaseOf_run_of_finalized events finalized)

/-- A unit that is still active works on the tables that were committed when it began,
after its own calls. -/
theorem draft_of_begin {world : World} {unitName : String} {events : List Event}
    {draft : Draft} (begins : ((begin unitName).outcome world).1 = .ok ())
    (active : (world.run (.begin unitName :: events)).phaseOf unitName = .active draft) :
    draft = ⟨world.committed,
      Turn.replay world.committed (turns unitName (world.step (.begin unitName)) events)⟩ := by
  have begun : (world.step (.begin unitName)).phaseOf unitName =
      .active ⟨world.committed, world.committed⟩ := by
    rw [step]
    rcases outcome_begin world unitName with fails | ⟨-, succeeds⟩
    · rw [fails] at begins
      cases begins
    · rw [succeeds]
      exact phaseOf_setPhase_self world unitName _
  rcases phaseOf_run events begun with stillActive | finalized
  · exact Phase.active.inj (active.symm.trans stillActive)
  · cases active.symm.trans finalized

/-! ## The committed tables -/

end World

inductive Publication where
  | addRole (role : Role)
  | addPermission (permission : Permission)
  | merge (draft : Draft)

def Publication.apply (committed : Tables) : Publication → Tables
  | .addRole role => { committed with roles := committed.roles ++ [role] }
  | .addPermission permission =>
      { committed with permissions := committed.permissions ++ [permission] }
  | .merge draft => committed.merge draft.base draft.work

namespace World

/-- What one event brings into the committed tables: a row that is stored directly, or the
changes of a unit if its commit succeeds. -/
def publicationIn (world : World) : Event → List Publication
  | .insertRole role => [.addRole (world.insertRole role).1]
  | .insertPermission permission => [.addPermission (world.insertPermission permission).1]
  | .commit unitName =>
      match ((commit unitName).outcome world).1, world.phaseOf unitName with
      | .ok (), .active draft => [.merge draft]
      | _, _ => []
  | _ => []

def publications : World → List Event → List Publication
  | _, [] => []
  | world, event :: events => world.publicationIn event ++ publications (world.step event) events

theorem committed_step (world : World) (event : Event) :
    (world.step event).committed =
      (world.publicationIn event).foldl Publication.apply world.committed := by
  cases event with
  | begin unitName =>
      rw [step]
      rcases outcome_begin world unitName with fails | ⟨idle, begins⟩
      · rw [fails]
        rfl
      · rw [begins]
        rfl
  | call unitName call =>
      rw [step]
      by_cases active : ∃ draft, world.phaseOf unitName = .active draft
      · rcases active with ⟨draft, active⟩
        rw [outcome_request_of_active active]
        split <;> rfl
      · rw [outcome_request_of_not_active fun draft equal => active ⟨draft, equal⟩]
        rfl
  | commit unitName =>
      rw [step, publicationIn]
      rcases outcome_commit world unitName with
        fails | ⟨draft, active, ⟨key, -, refuses⟩ | ⟨-, publishes⟩⟩
      · rw [fails]
        rfl
      · rw [refuses]
        rfl
      · rw [publishes, active]
        rfl
  | rollback unitName =>
      rw [step]
      rcases outcome_rollback world unitName with fails | ⟨draft, active, ends⟩
      · rw [fails]
        rfl
      · rw [ends]
        rfl
  | insertRole role => rfl
  | insertPermission permission => rfl
  | around happening => rfl

theorem committed_run (world : World) (events : List Event) :
    (world.run events).committed =
      (world.publications events).foldl Publication.apply world.committed := by
  induction events generalizing world with
  | nil => rfl
  | cons event events induction =>
      rw [publications, List.foldl_append, ← committed_step]
      exact induction (world.step event)

theorem committed_of_commit_error {world later : World} {unitName : String} {fault : Fault}
    (fails : (commit unitName).outcome world = (.error fault, later)) :
    later.committed = world.committed := by
  have same := committed_step world (.commit unitName)
  rw [step, publicationIn, fails] at same
  exact same

/-! ## Isolation -/

/-- However units are interleaved: as long as a unit is active, its copies and its answers
are those of its own calls, made one after the other on the tables that were committed when
it began. And the committed tables are always the result of what was stored directly and of
the commits that succeeded, in their order; a commit that fails leaves them as they were. -/
theorem units_isolated (world : World) (events : List Event) :
    (∀ (unitName : String) (draft : Draft),
        ((begin unitName).outcome world).1 = .ok () →
        (world.run (.begin unitName :: events)).phaseOf unitName = .active draft →
        let own := turns unitName (world.step (.begin unitName)) events
        draft = ⟨world.committed, Turn.replay world.committed own⟩ ∧
          ∀ {α : Type} (call : Call α),
            let now := world.run (.begin unitName :: events)
            ((request unitName call).outcome now).1 =
              ((now.turn call).perform (Turn.replay world.committed own)).1) ∧
      (world.run events).committed =
        (world.publications events).foldl Publication.apply world.committed ∧
      ∀ (unitName : String) (fault : Fault) (later : World),
        (commit unitName).outcome (world.run events) = (.error fault, later) →
          later.committed = (world.run events).committed := by
  refine ⟨?_, committed_run world events, fun _ _ _ => committed_of_commit_error⟩
  intro unitName draft begins active own
  have copies : draft = ⟨world.committed, Turn.replay world.committed own⟩ :=
    draft_of_begin begins active
  refine ⟨copies, fun call => ?_⟩
  rw [copies] at active
  exact (outcome_request_of_turn active call).1

theorem units_isolated_overlapped :
    ∃ draft, overlapped.phaseOf "first" = .active draft ∧
      draft.base ≠ overlapped.committed ∧
      draft = ⟨(fresh.run stocking).committed, Turn.replay (fresh.run stocking).committed
        (turns "first" ((fresh.run stocking).step (.begin "first")) overlap)⟩ := by
  have active : ∃ draft, overlapped.phaseOf "first" = .active draft := ⟨_, rfl⟩
  rcases active with ⟨draft, active⟩
  have isolated := ((units_isolated (fresh.run stocking) overlap).1 "first" draft rfl active).1
  have changed : (fresh.run stocking).committed ≠ overlapped.committed := by decide
  refine ⟨draft, active, ?_, isolated⟩
  rw [isolated]
  exact changed

end World
end Entitlement
