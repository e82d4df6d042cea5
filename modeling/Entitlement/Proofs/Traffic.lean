import Entitlement.Proofs.Tasks

/-! # Tasks that take turns

Any number of tasks are under way in any number of units, and each of them asks for one thing
when it is its turn. Between the turns units begin and end, and rows are stored directly. What a
unit has shown to a task stays in the unit for as long as it is active, so everything that tasks
refer to is there when they do, and in no copy of the tables does a row refer to nothing. -/

namespace Entitlement

open Store

/-! ## Requests as events -/

namespace Request

variable {α : Type}

def happenings : Request α → List Happening
  | now => [.readClock]
  | freshUuid => [.makeUuid]
  | offerKeys batch => [.offerKeys batch]
  | countDecision decision => [.countDecision decision]
  | _ => []

def demand : Request α → Nat
  | call asked => asked.demand
  | _ => 0

/-- The events that a request consists of. Whatever is no call leaves the working copy of the
unit as it is, and so counts as a look at its roles. -/
def events (unitName : String) : Request α → List Event
  | call asked => [.call unitName asked]
  | request => .call unitName .liveRoles :: request.happenings.map .around

end Request

namespace World

theorem step_look (world : World) (unitName : String) :
    world.step (.call unitName .liveRoles) =
      world.setPhase unitName (world.phaseOf unitName) := by
  rw [step]
  by_cases active : ∃ draft, world.phaseOf unitName = .active draft
  · rcases active with ⟨draft, active⟩
    rw [outcome_request_of_active active, active]
    split <;> rfl
  · rw [outcome_request_of_not_active fun draft equal => active ⟨draft, equal⟩]

theorem step_call {α : Type} (world : World) (unitName : String) (call : Call α) :
    world.step (.call unitName call) =
      ((atDesk unitName (Desk.backend.call call)).outcome world).2 := by
  rw [step, request, atDesk, atDesk, Action.outcome_ofOutcome, Action.outcome_ofOutcome,
    Action.outcome_bind]
  simp only [Desk.backend, Desk.enter, Action.outcome_reading, Desk.within,
    Action.outcome_ofOutcome]
  cases phase : world.phaseOf unitName with
  | active draft => rfl
  | idle | finalized =>
      rcases check_cases world.surroundings call.operation with passes | fails
      · rw [passes]
      · rw [fails]

theorem run_events {α : Type} (world : World) (unitName : String) (request : Request α) :
    world.run (request.events unitName) =
      ((atDesk unitName (request.perform Desk.backend)).outcome world).2 := by
  cases request with
  | call asked => exact step_call world unitName asked
  | enter | now | freshUuid | userByUuid | cachedKey | offerKeys | countDecision =>
      change (world.step (.call unitName .liveRoles)).run _ = _
      rw [step_look]
      rfl

end World

/-! ## Tasks under way -/

structure Job where
  unitName : String
  Answer : Type
  program : Program Answer

namespace Job

def advance (world : World) (job : Job) : Job × World :=
  match job.program with
  | .ended _ => (job, world)
  | .ask request next =>
      let (answer, later) :=
        (World.atDesk job.unitName (request.perform Desk.backend)).outcome world
      ({ job with program := next answer }, later)

def demand (job : Job) : Nat :=
  match job.program with
  | .ended _ => 0
  | .ask request _ => request.demand

def events (job : Job) : List Event :=
  match job.program with
  | .ended _ => []
  | .ask request _ => request.events job.unitName

theorem run_events (world : World) (job : Job) : world.run job.events = (job.advance world).2 := by
  rcases job with ⟨unitName, Answer, result | ⟨request, next⟩⟩
  · rfl
  · exact World.run_events world unitName request

end Job

structure Traffic where
  world : World
  underWay : List Job

inductive Move where
  | event (event : Event)
  | start {α : Type} (unitName : String) (task : Task α)
  | advance (place : Nat)

def Event.isCall : Event → Bool
  | .call _ _ => true
  | _ => false

namespace Traffic

def move (traffic : Traffic) : Move → Traffic
  | .event event => { traffic with world := traffic.world.step event }
  | .start unitName task =>
      { traffic with
        underWay := traffic.underWay ++ [⟨unitName, _, task.perform Program.backend⟩] }
  | .advance place =>
      match traffic.underWay[place]? with
      | none => traffic
      | some job =>
          let (advanced, world) := job.advance traffic.world
          { world, underWay := traffic.underWay.set place advanced }

def run (traffic : Traffic) (moves : List Move) : Traffic :=
  moves.foldl move traffic

/-- Calls are made by tasks only. The counter lasts for them, and a number chosen elsewhere is
larger than all that were given out or kept before. -/
def Permits (traffic : Traffic) : Move → Prop
  | .event event => event.isCall = false ∧ traffic.world.Numbers event
  | .start _ _ => True
  | .advance place =>
      ∀ job ∈ traffic.underWay[place]?, traffic.world.surroundings.supply.Lasts job.demand

instance (traffic : Traffic) : (move : Move) → Decidable (traffic.Permits move)
  | .event event =>
      inferInstanceAs (Decidable (event.isCall = false ∧ traffic.world.Numbers event))
  | .start _ _ => .isTrue True.intro
  | .advance place => inferInstanceAs (Decidable (∀ job ∈ traffic.underWay[place]?,
      traffic.world.surroundings.supply.Lasts job.demand))

def PermitsAll : Traffic → List Move → Prop
  | _, [] => True
  | traffic, move :: moves => traffic.Permits move ∧ PermitsAll (traffic.move move) moves

instance decidablePermitsAll : (traffic : Traffic) → (moves : List Move) →
    Decidable (PermitsAll traffic moves)
  | _, [] => .isTrue True.intro
  | traffic, move :: moves =>
      @instDecidableAnd _ _ _ (decidablePermitsAll (traffic.move move) moves)

inductive Reachable : Traffic → Prop where
  | start (surroundings : Surroundings) (unused : surroundings.supply.lastId = 0) :
      Reachable ⟨⟨.empty, [], surroundings⟩, []⟩
  | move {traffic : Traffic} (move : Move) (reachable : Reachable traffic)
      (permits : traffic.Permits move) : Reachable (traffic.move move)

theorem Reachable.run {traffic : Traffic} {moves : List Move} (reachable : traffic.Reachable)
    (permits : traffic.PermitsAll moves) : (traffic.run moves).Reachable := by
  induction moves generalizing traffic with
  | nil => exact reachable
  | cons move moves induction => exact induction (reachable.move move permits.1) permits.2

end Traffic

/-! ## Worlds that match -/

structure World.Matches (world other : World) : Prop where
  committed : world.committed = other.committed
  surroundings : world.surroundings = other.surroundings
  phaseOf : ∀ unitName, world.phaseOf unitName = other.phaseOf unitName

theorem World.matches_setPhase_self (world : World) (unitName : String) :
    world.Matches (world.setPhase unitName (world.phaseOf unitName)) where
  committed := rfl
  surroundings := rfl
  phaseOf := by
    intro other
    rw [phaseOf_setPhase]
    split
    · rename_i same
      rw [same]
    · rfl

theorem World.outcome_atDesk {α : Type} (world : World) (unitName : String)
    (action : Action Desk α) :
    let ended := action.outcome ⟨world.phaseOf unitName, world.surroundings⟩
    (atDesk unitName action).outcome world =
      (ended.1, { world.setPhase unitName ended.2.phase with
        surroundings := ended.2.surroundings }) := rfl

/-! ## What units have shown -/

theorem Store.Workspace.has_of_told {α : Type} {workspace later : Workspace} {call : Call α}
    {value : α} (performed : (perform call).outcome workspace = (.ok value, later)) :
    ∀ reference ∈ call.told value, later.tables.Has reference := by
  intro reference isTold
  cases call with
  | createRole role =>
      cases List.mem_singleton.mp isTold
      change (createRole role).outcome workspace = _ at performed
      rw [createRole, Action.outcome_ofOutcome] at performed
      split at performed
      · cases performed
      · cases performed
        simp [Tables.Has, Tables.ids]
  | createPermission permission =>
      cases List.mem_singleton.mp isTold
      change (createPermission permission).outcome workspace = _ at performed
      rw [createPermission, Action.outcome_ofOutcome] at performed
      split at performed
      · cases performed
      · cases performed
        simp [Tables.Has, Tables.ids]
  | roleByUuid uuid =>
      cases List.mem_singleton.mp isTold
      rw [perform, Action.outcome_reading] at performed
      split at performed
      · rename_i found
        cases performed
        exact List.mem_map_of_mem (List.mem_of_find?_eq_some found)
      · cases performed
  | roleByKey key =>
      cases performed
      rcases List.mem_map.mp isTold with ⟨role, found, rfl⟩
      exact List.mem_map_of_mem (List.mem_of_find?_eq_some (Option.mem_toList.mp found))
  | livePermissions =>
      cases performed
      rcases List.mem_map.mp isTold with ⟨permission, isLive, rfl⟩
      exact List.mem_map_of_mem (List.mem_filter.mp isLive).1
  | permissionIds uuids =>
      cases performed
      rcases List.mem_map.mp isTold with ⟨id, found, rfl⟩
      rcases List.mem_map.mp (List.mem_mergeSort.mp found) with ⟨permission, isNamed, rfl⟩
      exact List.mem_map_of_mem (List.mem_filter.mp isNamed).1
  | liveRoles | updateRole | deleteRole | keyInUse | roleWithPermissions | replacePermissions
  | roleKeysOf | permissionKeysOf | assignRoles | grantPermissions | grantsOf => cases isTold

namespace World

def Shows (world : World) (unitName : String) (reference : Reference) : Prop :=
  ∃ draft, world.phaseOf unitName = .active draft ∧ draft.work.Has reference

theorem Shows.run {world : World} {unitName : String} {reference : Reference}
    (shows : world.Shows unitName reference) (events : List Event)
    (unended : (world.run events).phaseOf unitName ≠ .finalized) :
    (world.run events).Shows unitName reference := by
  rcases shows with ⟨draft, active, has⟩
  rcases phaseOf_run events active with stillActive | ended
  · exact ⟨_, stillActive, has.mono (Turn.develops_replay draft.work _).precedes.ids⟩
  · exact absurd ended unended

theorem exists_of_atDesk {α : Type} {world later : World} {unitName : String}
    {action : Action Desk α} {value : α}
    (ends : (atDesk unitName action).outcome world = (.ok value, later)) :
    ∃ desk, action.outcome ⟨world.phaseOf unitName, world.surroundings⟩ = (.ok value, desk) ∧
      later = { world.setPhase unitName desk.phase with surroundings := desk.surroundings } := by
  rw [atDesk, Action.outcome_ofOutcome] at ends
  rcases reached : action.outcome ⟨world.phaseOf unitName, world.surroundings⟩ with
    ⟨result, desk⟩
  rw [reached] at ends
  cases ends
  exact ⟨desk, rfl, rfl⟩

theorem shows_of_told {α : Type} {world later : World} {unitName : String} {request : Request α}
    {value : α} (answered :
      (atDesk unitName (request.perform Desk.backend)).outcome world = (.ok value, later)) :
    ∀ reference ∈ request.told value, later.Shows unitName reference := by
  intro reference isTold
  cases request with
  | call asked =>
      rcases exists_of_atDesk answered with ⟨desk, atDesk, rfl⟩
      rcases Desk.exists_of_answered atDesk with ⟨draft, workspace, -, performed, rfl⟩
      refine ⟨_, phaseOf_setPhase_self world unitName _, ?_⟩
      exact Workspace.has_of_told performed reference isTold
  | enter | now | freshUuid | userByUuid | cachedKey | offerKeys | countDecision => cases isTold

end World

namespace Job

variable {world : World} {job : Job}

/-- Unless its unit has ended, a task refers to no rows but those that the unit has and those
that it is told of later. -/
def Grounded (world : World) (job : Job) : Prop :=
  world.phaseOf job.unitName ≠ .finalized →
    ∃ known, (∀ reference ∈ known, world.Shows job.unitName reference) ∧
      job.program.Informed (fun _ _ => True) known

theorem Grounded.run (grounded : job.Grounded world) (events : List Event) :
    job.Grounded (world.run events) := by
  intro unended
  rcases grounded fun ended => unended (World.phaseOf_run_of_finalized events ended) with
    ⟨known, shown, informed⟩
  exact ⟨known, fun reference isKnown => (shown reference isKnown).run events unended, informed⟩

theorem Grounded.advance (grounded : job.Grounded world) :
    (job.advance world).1.Grounded (job.advance world).2 := by
  have before := grounded.run job.events
  rw [run_events] at before
  rcases job with ⟨unitName, Answer, result | ⟨request, next⟩⟩
  · exact before
  · rcases reached : (World.atDesk unitName (request.perform Desk.backend)).outcome world with
      ⟨answer, later⟩
    have advanced : advance world ⟨unitName, Answer, .ask request next⟩ =
        (⟨unitName, Answer, next answer⟩, later) := by
      simp only [advance, reached]
    rw [advanced] at before ⊢
    intro unended
    -- What was shown before the request is still there, and the answer shows what it tells of.
    rcases before unended with ⟨known, shown, informed⟩
    cases answer with
    | error fault => exact ⟨known, shown, informed.2.1 fault⟩
    | ok value =>
        refine ⟨known ++ request.told value, ?_, informed.2.2 value⟩
        intro reference member
        rcases List.mem_append.mp member with isKnown | isTold
        · exact shown reference isKnown
        · exact World.shows_of_told reached reference isTold

theorem Grounded.permits (grounded : job.Grounded world)
    (lasts : world.surroundings.supply.Lasts job.demand) :
    World.Permits World.Grounded world job.events := by
  rcases job with ⟨unitName, Answer, result | ⟨request, next⟩⟩
  · exact True.intro
  · cases request with
    | call asked =>
        refine ⟨⟨lasts, fun draft active reference isNamed => ?_⟩, True.intro⟩
        have unended : world.phaseOf unitName ≠ .finalized := fun ended => by
          rw [active] at ended
          cases ended
        rcases grounded unended with ⟨known, shown, informed⟩
        rcases shown reference (informed.1 reference isNamed) with ⟨present, isActive, has⟩
        cases active.symm.trans isActive
        exact has
    | enter | userByUuid | cachedKey =>
        exact ⟨⟨lasts, fun _ _ _ none => by cases none⟩, True.intro⟩
    | now | freshUuid | offerKeys | countDecision =>
        exact ⟨⟨lasts, fun _ _ _ none => by cases none⟩, ⟨True.intro, True.intro⟩, True.intro⟩

end Job

/-! ## References stay intact -/

namespace Traffic

theorem Permits.grounded {traffic : Traffic} {event : Event}
    (permits : traffic.Permits (.event event)) : traffic.world.Grounded event := by
  refine ⟨permits.2, ?_⟩
  cases event with
  | call unitName call => cases permits.1
  | begin | commit | rollback | insertRole | insertPermission | around => exact True.intro

theorem Reachable.grounded {traffic : Traffic} (reachable : traffic.Reachable) :
    World.Reachable World.Grounded traffic.world ∧
      ∀ job ∈ traffic.underWay, job.Grounded traffic.world := by
  induction reachable with
  | start surroundings unused => exact ⟨.start surroundings unused, fun _ none => by cases none⟩
  | @move traffic move reachable permits induction =>
      rcases induction with ⟨worldReachable, jobsGrounded⟩
      cases move with
      | event event =>
          refine ⟨worldReachable.step event permits.grounded, fun job member => ?_⟩
          exact (jobsGrounded job member).run [event]
      | start unitName task =>
          refine ⟨worldReachable, fun job member => ?_⟩
          rcases List.mem_append.mp member with old | isNew
          · exact jobsGrounded job old
          · cases List.mem_singleton.mp isNew
            exact fun _ => ⟨[], (fun _ none => by cases none), task.informed⟩
      | advance place =>
          rw [Traffic.move]
          rcases found : traffic.underWay[place]? with _ | job
          · exact ⟨worldReachable, jobsGrounded⟩
          · have grounded := jobsGrounded job (List.mem_of_getElem? found)
            have lasts := permits job found
            dsimp only
            -- The request is a run of events, so what holds of runs holds of every other task.
            refine ⟨?_, fun other member => ?_⟩
            · rw [← Job.run_events]
              exact worldReachable.run (grounded.permits lasts)
            · rcases List.mem_or_eq_of_mem_set member with old | rfl
              · rw [← Job.run_events]
                exact (jobsGrounded other old).run job.events
              · exact grounded.advance

/-- However services take turns in any number of units, attachments and grants refer only to
roles and permissions in the same copy of the tables. So nothing refers to a role or a
permission that was just created, and its creation changes neither what any user holds nor
the result of any access check. -/
theorem nothing_dangles {traffic : Traffic} (reachable : traffic.Reachable) :
    (∀ tables ∈ traffic.world.copies, tables.Intact) ∧
      (traffic.world.surroundings.supply.Lasts 1 → ∀ unitName later,
        (∀ input created, (World.atDesk unitName (Service.createRole Desk.backend input)).outcome
            traffic.world = (.ok created, later) →
          traffic.world.Unaffected later (.role, created.id)) ∧
        (∀ role created, (World.atDesk unitName (Desk.backend.call (.createRole role))).outcome
            traffic.world = (.ok created, later) →
          traffic.world.Unaffected later (.role, created.id)) ∧
        ∀ permission created,
          (World.atDesk unitName (Desk.backend.call (.createPermission permission))).outcome
            traffic.world = (.ok created, later) →
          traffic.world.Unaffected later (.permission, created.id)) := by
  have grounded := reachable.grounded.1
  refine ⟨grounded.intact, fun lasts unitName later => ⟨?_, ?_, ?_⟩⟩
  · intro input created ends
    rcases World.exists_of_atDesk ends with ⟨desk, stores, rfl⟩
    exact (Desk.creates_of_service stores).unaffected grounded lasts
  · intro role created ends
    rcases World.exists_of_atDesk ends with ⟨desk, stores, rfl⟩
    exact (Desk.creates_of_createRole stores).unaffected grounded lasts
  · intro permission created ends
    rcases World.exists_of_atDesk ends with ⟨desk, stores, rfl⟩
    exact (Desk.creates_of_createPermission stores).unaffected grounded lasts

def turns : List Move :=
  (World.stocking ++ [Event.begin "first", Event.begin "second"]).map .event ++
    [.start "first" (.syncPermissions (.ofNat 1) [(Uuid.ofNat 2).text]),
      .start "second" (.createPermission (.fresh "Deleting roles" .deleteRole (.ofNat 3) ⟨0, 0⟩)),
      .advance 0, .advance 1, .advance 0, .advance 1, .advance 0, .advance 0, .advance 0,
      .event (.commit "second"), .event (.commit "first"), .event (.begin "third")]

theorem nothing_dangles_turns :
    let world := (run ⟨World.fresh, []⟩ turns).world
    let sales := Service.createRole Desk.backend ⟨"Sales", "", false⟩
    world.committed.references = [(.role, 1), (.permission, 2)] ∧
      (∀ tables ∈ world.copies, tables.Intact) ∧
      world.Unaffected ((World.atDesk "third" sales).outcome world).2 (.role, 4) := by
  intro world sales
  have reachable : (run ⟨World.fresh, []⟩ turns).Reachable :=
    Reachable.run (.start World.fresh.surroundings rfl) (by decide +kernel)
  have lasts : world.surroundings.supply.Lasts 1 := by decide +kernel
  rcases nothing_dangles reachable with ⟨intact, unaffected⟩
  refine ⟨by decide +kernel, intact, ?_⟩
  exact (unaffected lasts "third" _).1 ⟨"Sales", "", false⟩
    { Role.fresh "Sales" .sales (Uuid.random 0) ⟨0, 0⟩ with id := 4 }
    (Prod.ext (by decide +kernel) rfl)

end Traffic
end Entitlement
