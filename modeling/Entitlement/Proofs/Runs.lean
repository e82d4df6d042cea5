import Entitlement.Proofs.Rows
import Entitlement.World

/-! # Runs

Any number of units of work begin, make calls, and are committed or rolled back in any
order, while rows are stored directly and other things happen around them. A run is the
list of these events; each of them is one access to what the units share. Here is all that
one event can do to the world. -/

namespace Entitlement

open Store

/-! ## Events -/

/-- What happens around the tables: clocks are read, operations are made to fail, users
become known, and the cache of role keys is filled. -/
inductive Happening where
  | readClock
  | makeUuid
  | disable (operation : String)
  | enableAll
  | insertUser (user : User)
  | offerKeys (batch : KeyBatch)
  | countDecision (decision : Decision)
  | advance (milliseconds : Nat)
  | shutdown
  | changeCache (cache : Cache.Memory)

def Surroundings.after (surroundings : Surroundings) : Happening → Surroundings
  | .readClock => { surroundings with supply := surroundings.supply.readClock.2 }
  | .makeUuid => { surroundings with supply := surroundings.supply.makeUuid.2 }
  | .disable operation => surroundings.disable operation
  | .enableAll => surroundings.enableAll
  | .insertUser user => surroundings.insertUser user
  | .offerKeys batch => (surroundings.offerKeys batch).2
  | .countDecision decision =>
      { surroundings with station := surroundings.station.note (.decided decision) }
  | .advance milliseconds => surroundings.advance milliseconds
  | .shutdown => surroundings.shutdown
  | .changeCache cache =>
      { surroundings with station := { surroundings.station with cache } }

theorem Surroundings.lastId_after (surroundings : Surroundings) (happening : Happening) :
    (surroundings.after happening).supply.lastId = surroundings.supply.lastId := by
  cases happening <;> rfl

inductive Event where
  | begin (unitName : String)
  | call {α : Type} (unitName : String) (call : Call α)
  | commit (unitName : String)
  | rollback (unitName : String)
  | insertRole (role : Role)
  | insertPermission (permission : Permission)
  | around (happening : Happening)

namespace World

def request {α : Type} (unitName : String) (call : Call α) : Action World α :=
  atDesk unitName do
    Desk.backend.enter call.area
    Desk.backend.call call

def step (world : World) : Event → World
  | .begin unitName => ((begin unitName).outcome world).2
  | .call unitName call => ((request unitName call).outcome world).2
  | .commit unitName => ((commit unitName).outcome world).2
  | .rollback unitName => ((rollback unitName).outcome world).2
  | .insertRole role => (world.insertRole role).2
  | .insertPermission permission => (world.insertPermission permission).2
  | .around happening => { world with surroundings := world.surroundings.after happening }

def run (world : World) (events : List Event) : World :=
  events.foldl step world

inductive Reachable (allowed : World → Event → Prop) : World → Prop
  | start (surroundings : Surroundings) (unused : surroundings.supply.lastId = 0) :
      Reachable allowed ⟨.empty, [], surroundings⟩
  | step {world : World} (event : Event) (reachable : Reachable allowed world)
      (allows : allowed world event) : Reachable allowed (world.step event)

def Permits (allowed : World → Event → Prop) : World → List Event → Prop
  | _, [] => True
  | world, event :: events => allowed world event ∧ Permits allowed (world.step event) events

instance decidablePermits {allowed : World → Event → Prop}
    [∀ world event, Decidable (allowed world event)] :
    (world : World) → (events : List Event) → Decidable (Permits allowed world events)
  | _, [] => .isTrue True.intro
  | world, event :: events =>
      @instDecidableAnd _ _ _ (decidablePermits (world.step event) events)

theorem Reachable.run {allowed : World → Event → Prop} {world : World} {events : List Event}
    (reachable : Reachable allowed world) (permits : Permits allowed world events) :
    Reachable allowed (world.run events) := by
  induction events generalizing world with
  | nil => exact reachable
  | cons event events induction =>
      exact induction (reachable.step event permits.1) permits.2

/-! ## How far units have come -/

@[simp] theorem phaseOf_setPhase_self (world : World) (unitName : String) (phase : Phase) :
    (world.setPhase unitName phase).phaseOf unitName = phase := by
  have found : ∀ units : List (String × Phase),
      (upsert (·.1) (unitName, phase) units).lookup unitName = some phase := by
    intro units
    induction units with
    | nil => simp [upsert]
    | cons head tail induction =>
        rw [upsert]
        by_cases equal : head.1 = unitName
        · simp [equal]
        · rw [if_neg equal, List.lookup_cons, beq_false_of_ne (Ne.symm equal)]
          exact induction
  simp [phaseOf, setPhase, found]

theorem phaseOf_setPhase_other (world : World) {unitName other : String} (phase : Phase)
    (different : other ≠ unitName) :
    (world.setPhase unitName phase).phaseOf other = world.phaseOf other := by
  have found : ∀ units : List (String × Phase),
      (upsert (·.1) (unitName, phase) units).lookup other = units.lookup other := by
    intro units
    induction units with
    | nil => simp [upsert, List.lookup_cons, beq_false_of_ne different]
    | cons head tail induction =>
        rw [upsert]
        by_cases equal : head.1 = unitName
        · rw [if_pos equal, List.lookup_cons, List.lookup_cons, equal,
            beq_false_of_ne different]
        · rw [if_neg equal, List.lookup_cons, List.lookup_cons, induction]
  simp [phaseOf, setPhase, found]

/-! ## Copies of the tables -/

end World

def Phase.copies : Phase → List Tables
  | .active draft => [draft.base, draft.work]
  | _ => []

namespace World

def copies (world : World) : List Tables :=
  world.committed :: world.units.flatMap fun unit => unit.2.copies

theorem committed_mem_copies (world : World) : world.committed ∈ world.copies :=
  List.mem_cons_self

theorem mem_copies_of_phaseOf {world : World} {unitName : String} {tables : Tables}
    (kept : tables ∈ (world.phaseOf unitName).copies) : tables ∈ world.copies := by
  rcases found : world.units.lookup unitName with _ | phase
  · simp [phaseOf, found, Phase.copies] at kept
  · have kept : tables ∈ phase.copies := by simpa [phaseOf, found] using kept
    rcases List.lookup_eq_some_iff.mp found with ⟨before, after, whole, -⟩
    apply List.mem_cons_of_mem
    rw [whole]
    exact List.mem_flatMap.mpr ⟨(unitName, phase), by simp, kept⟩

theorem base_mem_copies {world : World} {unitName : String} {draft : Draft}
    (active : world.phaseOf unitName = .active draft) : draft.base ∈ world.copies :=
  mem_copies_of_phaseOf (by rw [active]; exact List.mem_cons_self)

theorem work_mem_copies {world : World} {unitName : String} {draft : Draft}
    (active : world.phaseOf unitName = .active draft) : draft.work ∈ world.copies :=
  mem_copies_of_phaseOf (by rw [active]; exact List.mem_cons_of_mem _ List.mem_cons_self)

theorem mem_copies_setPhase {world : World} {unitName : String} {phase : Phase}
    {tables : Tables} (member : tables ∈ (world.setPhase unitName phase).copies) :
    tables ∈ phase.copies ∨ tables ∈ world.copies := by
  rcases List.mem_cons.mp member with rfl | member
  · exact Or.inr (committed_mem_copies world)
  · rcases List.mem_flatMap.mp member with ⟨unit, inUnits, kept⟩
    rcases mem_of_mem_upsert inUnits with rfl | inUnits
    · exact Or.inl kept
    · exact Or.inr (List.mem_cons_of_mem _ (List.mem_flatMap.mpr ⟨unit, inUnits, kept⟩))

/-! ## What one event can do -/

theorem check_cases (surroundings : Surroundings) (operation : Operation) :
    surroundings.check operation = .ok () ∨
      surroundings.check operation = .error operation.failure := by
  rw [Surroundings.check]
  split
  · exact Or.inr rfl
  · exact Or.inl rfl

/-- A beginning fails and changes nothing, or a unit that was idle gets two copies of the
committed tables. -/
theorem outcome_begin (world : World) (unitName : String) :
    (begin unitName).outcome world = (.error Operation.begin.failure, world) ∨
      world.phaseOf unitName = .idle ∧ (begin unitName).outcome world =
        (.ok (), world.setPhase unitName (.active ⟨world.committed, world.committed⟩)) := by
  rw [begin, Action.outcome_ofOutcome]
  rcases check_cases world.surroundings .begin with passes | fails
  · rw [passes]
    cases phase : world.phaseOf unitName with
    | idle => exact Or.inr ⟨rfl, rfl⟩
    | active draft => exact Or.inl rfl
    | finalized => exact Or.inl rfl
  · rw [fails]
    exact Or.inl rfl

theorem outcome_finalize (world : World) (unitName : String) (operation : Operation) :
    (finalize unitName operation).outcome world = (.error operation.failure, world) ∨
      ∃ draft, world.phaseOf unitName = .active draft ∧
        (finalize unitName operation).outcome world =
          (.ok draft, world.setPhase unitName .finalized) := by
  rw [finalize, Action.outcome_ofOutcome]
  rcases check_cases world.surroundings operation with passes | fails
  · rw [passes]
    cases phase : world.phaseOf unitName with
    | idle => exact Or.inl rfl
    | active draft => exact Or.inr ⟨draft, rfl, rfl⟩
    | finalized => exact Or.inl rfl
  · rw [fails]
    exact Or.inl rfl

theorem outcome_finalize_of_active {world : World} {unitName : String} {draft : Draft}
    {operation : Operation} (passes : world.surroundings.check operation = .ok ())
    (active : world.phaseOf unitName = .active draft) :
    (finalize unitName operation).outcome world =
      (.ok draft, world.setPhase unitName .finalized) := by
  rw [finalize, Action.outcome_ofOutcome, passes, active]

theorem outcome_rollback (world : World) (unitName : String) :
    (rollback unitName).outcome world = (.error Operation.rollback.failure, world) ∨
      ∃ draft, world.phaseOf unitName = .active draft ∧
        (rollback unitName).outcome world = (.ok (), world.setPhase unitName .finalized) := by
  rw [rollback, Action.outcome_bind]
  rcases outcome_finalize world unitName .rollback with fails | ⟨draft, active, ends⟩
  · rw [fails]
    exact Or.inl rfl
  · rw [ends]
    exact Or.inr ⟨draft, active, rfl⟩

/-- A commit fails and changes nothing; or it finalizes an active unit, and then publishes
the merged tables unless two live roles would have the same key. -/
theorem outcome_commit (world : World) (unitName : String) :
    (commit unitName).outcome world = (.error Operation.commit.failure, world) ∨
      ∃ draft, world.phaseOf unitName = .active draft ∧
        ((∃ key, Tables.repeatedKey? []
              (world.committed.merge draft.base draft.work).roles = some key ∧
            (commit unitName).outcome world =
              (.error (.roleExists key.name), world.setPhase unitName .finalized)) ∨
          Tables.repeatedKey? [] (world.committed.merge draft.base draft.work).roles = none ∧
            (commit unitName).outcome world =
              (.ok (), { world.setPhase unitName .finalized with
                committed := world.committed.merge draft.base draft.work })) := by
  rw [commit, Action.outcome_bind]
  rcases outcome_finalize world unitName .commit with fails | ⟨draft, active, ends⟩
  · rw [fails]
    exact Or.inl rfl
  · rw [ends]
    refine Or.inr ⟨draft, active, ?_⟩
    simp only [Action.outcome_bind, Action.outcome_get, publish, Action.outcome_ofOutcome]
    have sameTables : (world.setPhase unitName .finalized).committed = world.committed := rfl
    rw [sameTables]
    cases repeated : Tables.repeatedKey? []
        (world.committed.merge draft.base draft.work).roles with
    | some key => exact Or.inl ⟨key, rfl, rfl⟩
    | none => exact Or.inr ⟨rfl, rfl⟩

theorem outcome_commit_of_active {world : World} {unitName : String} {draft : Draft}
    (passes : world.surroundings.check .commit = .ok ())
    (active : world.phaseOf unitName = .active draft)
    (unrepeated : Tables.repeatedKey? []
      (world.committed.merge draft.base draft.work).roles = none) :
    ((commit unitName).outcome world).1 = .ok () := by
  rw [commit, Action.outcome_bind, outcome_finalize_of_active passes active]
  simp only [Action.outcome_bind, Action.outcome_get, publish, Action.outcome_ofOutcome]
  have sameTables : (world.setPhase unitName .finalized).committed = world.committed := rfl
  rw [sameTables, unrepeated]

/-- A call of an active unit is made to fail and changes nothing, or is answered from the
working copy. -/
theorem outcome_request_of_active {α : Type} {world : World} {unitName : String}
    {draft : Draft} (active : world.phaseOf unitName = .active draft) (call : Call α) :
    (request unitName call).outcome world =
      match world.surroundings.check call.operation with
      | .error fault => (.error fault, world.setPhase unitName (.active draft))
      | .ok () =>
          let answer := (Workspace.perform call).outcome ⟨draft.work, world.surroundings.supply⟩
          (answer.1, { world.setPhase unitName (.active { draft with work := answer.2.tables }) with
            surroundings := { world.surroundings with supply := answer.2.supply } }) := by
  rw [request, atDesk, Action.outcome_ofOutcome, Action.outcome_bind]
  simp only [Desk.backend, Desk.enter, Action.outcome_reading, active, Desk.within,
    Action.outcome_ofOutcome]
  rcases check_cases world.surroundings call.operation with passes | fails
  · rw [passes]
  · rw [fails]
    rfl

theorem outcome_request_of_not_active {α : Type} {world : World} {unitName : String}
    (inactive : ∀ draft, world.phaseOf unitName ≠ .active draft) (call : Call α) :
    (request unitName call).outcome world =
      (.error (Operation.enter call.area).failure,
        world.setPhase unitName (world.phaseOf unitName)) := by
  rw [request, atDesk, Action.outcome_ofOutcome, Action.outcome_bind]
  simp only [Desk.backend, Desk.enter, Action.outcome_reading]
  cases phase : world.phaseOf unitName with
  | active draft => exact absurd phase (inactive draft)
  | idle => rfl
  | finalized => rfl

inductive Transition (world : World) : Event → World → Prop where
  | none (event : Event) : Transition world event world
  | refuse {α : Type} (unitName : String) (call : Call α) :
      Transition world (.call unitName call)
        (world.setPhase unitName (world.phaseOf unitName))
  | begin (unitName : String) (idle : world.phaseOf unitName = .idle) :
      Transition world (.begin unitName)
        (world.setPhase unitName (.active ⟨world.committed, world.committed⟩))
  | call {α : Type} (unitName : String) (call : Call α) (draft : Draft)
      (active : world.phaseOf unitName = .active draft) (workspace : Workspace)
      (performed : workspace =
        ((Workspace.perform call).outcome ⟨draft.work, world.surroundings.supply⟩).2)
      (passes : world.surroundings.check call.operation = .ok ()) :
      Transition world (.call unitName call)
        { world.setPhase unitName (.active { draft with work := workspace.tables }) with
          surroundings := { world.surroundings with supply := workspace.supply } }
  | commit (unitName : String) (draft : Draft)
      (active : world.phaseOf unitName = .active draft)
      (unrepeated : Tables.repeatedKey? []
        (world.committed.merge draft.base draft.work).roles = none) :
      Transition world (.commit unitName)
        { world.setPhase unitName .finalized with
          committed := world.committed.merge draft.base draft.work }
  | discard (unitName : String) (event : Event)
      (ending : event = .commit unitName ∨ event = .rollback unitName) (draft : Draft)
      (active : world.phaseOf unitName = .active draft) :
      Transition world event (world.setPhase unitName .finalized)
  | insertRole (role : Role) : Transition world (.insertRole role) (world.insertRole role).2
  | insertPermission (permission : Permission) :
      Transition world (.insertPermission permission) (world.insertPermission permission).2
  | around (happening : Happening) :
      Transition world (.around happening)
        { world with surroundings := world.surroundings.after happening }

theorem step_transition (world : World) (event : Event) :
    Transition world event (world.step event) := by
  cases event with
  | begin unitName =>
      rw [step]
      rcases outcome_begin world unitName with fails | ⟨idle, begins⟩
      · rw [fails]
        exact .none _
      · rw [begins]
        exact .begin unitName idle
  | call unitName call =>
      rw [step]
      by_cases active : ∃ draft, world.phaseOf unitName = .active draft
      · rcases active with ⟨draft, active⟩
        rw [outcome_request_of_active active]
        split
        · rw [← active]
          exact .refuse unitName call
        · rename_i passes
          exact .call unitName call draft active _ rfl passes
      · rw [outcome_request_of_not_active (fun draft equal => active ⟨draft, equal⟩)]
        exact .refuse unitName call
  | commit unitName =>
      rw [step]
      rcases outcome_commit world unitName with
        fails | ⟨draft, active, ⟨key, -, refuses⟩ | ⟨unrepeated, publishes⟩⟩
      · rw [fails]
        exact .none _
      · rw [refuses]
        exact .discard unitName _ (Or.inl rfl) draft active
      · rw [publishes]
        exact .commit unitName draft active unrepeated
  | rollback unitName =>
      rw [step]
      rcases outcome_rollback world unitName with fails | ⟨draft, active, ends⟩
      · rw [fails]
        exact .none _
      · rw [ends]
        exact .discard unitName _ (Or.inr rfl) draft active
  | insertRole role => exact .insertRole role
  | insertPermission permission => exact .insertPermission permission
  | around happening => exact .around happening

inductive CopyAfter (world : World) : Event → Tables → Prop where
  | old (event : Event) {tables : Tables} (member : tables ∈ world.copies) :
      CopyAfter world event tables
  | worked {α : Type} (unitName : String) (call : Call α) (draft : Draft)
      (active : world.phaseOf unitName = .active draft) (workspace : Workspace)
      (performed : workspace =
        ((Workspace.perform call).outcome ⟨draft.work, world.surroundings.supply⟩).2) :
      CopyAfter world (.call unitName call) workspace.tables
  | merged (unitName : String) (draft : Draft)
      (active : world.phaseOf unitName = .active draft)
      (unrepeated : Tables.repeatedKey? []
        (world.committed.merge draft.base draft.work).roles = none) :
      CopyAfter world (.commit unitName) (world.committed.merge draft.base draft.work)
  | withRole (role : Role) :
      CopyAfter world (.insertRole role) (world.insertRole role).2.committed
  | withPermission (permission : Permission) :
      CopyAfter world (.insertPermission permission)
        (world.insertPermission permission).2.committed

theorem Transition.copyAfter {world later : World} {event : Event} {tables : Tables}
    (transition : Transition world event later) (member : tables ∈ later.copies) :
    CopyAfter world event tables := by
  have fromUnits : tables ∈ world.units.flatMap (fun unit => unit.2.copies) →
      CopyAfter world event tables := fun kept => .old event (List.mem_cons_of_mem _ kept)
  cases transition with
  | none => exact .old event member
  | refuse unitName call =>
      rcases mem_copies_setPhase member with inPhase | inWorld
      · exact .old _ (mem_copies_of_phaseOf inPhase)
      · exact .old _ inWorld
  | begin unitName idle =>
      rcases mem_copies_setPhase member with inPhase | inWorld
      · have same : tables = world.committed := by simpa [Phase.copies] using inPhase
        rw [same]
        exact .old _ (committed_mem_copies world)
      · exact .old _ inWorld
  | call unitName call draft active workspace performed passes =>
      have member : tables ∈ (world.setPhase unitName
          (.active { draft with work := workspace.tables })).copies := member
      rcases mem_copies_setPhase member with inPhase | inWorld
      · have baseKept : draft.base ∈ world.copies := base_mem_copies active
        rcases List.mem_cons.mp inPhase with rfl | inPhase
        · exact .old _ baseKept
        · rw [List.mem_singleton.mp inPhase]
          exact .worked unitName call draft active workspace performed
      · exact .old _ inWorld
  | commit unitName draft active unrepeated =>
      rcases List.mem_cons.mp member with rfl | kept
      · exact .merged unitName draft active unrepeated
      · have kept : tables ∈ (world.setPhase unitName .finalized).copies :=
          List.mem_cons_of_mem _ kept
        rcases mem_copies_setPhase kept with inPhase | inWorld
        · cases inPhase
        · exact .old _ inWorld
  | discard unitName event ending draft active =>
      rcases mem_copies_setPhase member with inPhase | inWorld
      · cases inPhase
      · exact .old _ inWorld
  | insertRole role =>
      rcases List.mem_cons.mp member with rfl | kept
      · exact .withRole role
      · exact fromUnits kept
  | insertPermission permission =>
      rcases List.mem_cons.mp member with rfl | kept
      · exact .withPermission permission
      · exact fromUnits kept
  | around happening => exact .old _ member

/-! ## Two units that overlap -/

def fresh : World :=
  ⟨.empty, [], ⟨⟨0, ⟨fun reading => ⟨reading, 0⟩, 0, Uuid.random, 0⟩⟩, [], [], ⟨.empty, none, []⟩⟩⟩

def stocking : List Event :=
  [.around (.insertUser ⟨7, .ofNat 9, .active⟩),
    .insertRole (.fresh "Staff" .staff (.ofNat 1) ⟨0, 0⟩),
    .insertPermission (.fresh "Reading roles" .readRole (.ofNat 2) ⟨0, 0⟩)]

/-- While one unit puts another role in the place of the first and gives it to the user, a
second unit begins, attaches the permission to the first role, and is committed. -/
def overlap : List Event :=
  [.begin "second",
    .call "first" (.deleteRole (.ofNat 1) 7),
    .call "first" (.createRole (.fresh "Sales" .sales (.ofNat 3) ⟨0, 0⟩)),
    .call "second" (.replacePermissions 1 [2]),
    .call "first" (.replacePermissions 3 [2]),
    .call "second" (.grantPermissions 7 [2]),
    .call "first" (.assignRoles 7 [3]),
    .commit "second"]

def overlapped : World :=
  (fresh.run stocking).run (.begin "first" :: overlap)

end World
end Entitlement
