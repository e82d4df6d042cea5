import Entitlement.Proofs.Orderly
import Entitlement.Proofs.Traffic

/-! # The life of a unit of work

A unit is idle, then active, and then finalized for ever. Units in memory and units on the
database go through these stages in the same way, so that nobody who uses one can tell which it
is. They differ only in what is left of a unit when a call of its life is made to fail. -/

namespace Entitlement

open Store
open Database (Stage Transaction Link Statement)

universe u

/-! ## The automaton -/

inductive UnitCall where
  | begin
  | commit
  | rollback
  | enter (area : Area)
deriving DecidableEq

namespace UnitCall

def operation : UnitCall → Operation
  | begin => .begin
  | commit => .commit
  | rollback => .rollback
  | enter area => .enter area

def isEnd : UnitCall → Bool
  | commit | rollback => true
  | begin | enter _ => false

def next? : UnitCall → Stage → Option Stage
  | begin, .idle => some .active
  | commit, .active | rollback, .active => some .finalized
  | enter _, .active => some .active
  | _, _ => none

def answer (call : UnitCall) (stage : Stage) : Except Fault Unit :=
  match call.next? stage with
  | some _ => .ok ()
  | none => .error call.operation.failure

def after (call : UnitCall) (stage : Stage) : Stage :=
  (call.next? stage).getD stage

end UnitCall

abbrev Record := List (UnitCall × Except Fault Unit)

def life : Stage → List UnitCall → Record
  | _, [] => []
  | stage, call :: calls => (call, call.answer stage) :: life (call.after stage) calls

def Record.successes (record : Record) (meant : UnitCall → Bool) : Nat :=
  record.countP fun entry => meant entry.1 && entry.2 = .ok ()

theorem successes_cons (stage : Stage) (call : UnitCall) (calls : List UnitCall)
    (meant : UnitCall → Bool) :
    (life stage (call :: calls)).successes meant =
      (if meant call && (call.next? stage).isSome then 1 else 0) +
        (life (call.after stage) calls).successes meant := by
  rw [life, Record.successes, List.countP_cons, Nat.add_comm, UnitCall.answer]
  cases call.next? stage <;> rfl

theorem successes_of_finalized (calls : List UnitCall) (meant : UnitCall → Bool) :
    (life .finalized calls).successes meant = 0 := by
  induction calls with
  | nil => rfl
  | cons call calls induction =>
      rw [successes_cons]
      cases call <;> simpa [UnitCall.next?, UnitCall.after] using induction

theorem successes_of_active (calls : List UnitCall) :
    (life .active calls).successes (· = .begin) = 0 ∧
      (life .active calls).successes (·.isEnd) ≤ 1 := by
  induction calls with
  | nil => exact ⟨rfl, Nat.zero_le 1⟩
  | cons call calls induction =>
      rw [successes_cons, successes_cons]
      cases call with
      | begin | enter => simpa [UnitCall.next?, UnitCall.after, UnitCall.isEnd] using induction
      | commit | rollback =>
          simp [UnitCall.next?, UnitCall.after, UnitCall.isEnd, successes_of_finalized]

theorem successes_of_idle (calls : List UnitCall) :
    (life .idle calls).successes (· = .begin) ≤ 1 ∧
      (life .idle calls).successes (·.isEnd) ≤ 1 := by
  induction calls with
  | nil => exact ⟨Nat.zero_le 1, Nat.zero_le 1⟩
  | cons call calls induction =>
      rw [successes_cons, successes_cons]
      cases call with
      | begin =>
          have active := successes_of_active calls
          simpa [UnitCall.next?, UnitCall.after, UnitCall.isEnd, active.1] using active.2
      | commit | rollback | enter =>
          simpa [UnitCall.next?, UnitCall.after, UnitCall.isEnd] using induction

/-! ## Units that are used -/

inductive Step (ε : Type u) where
  | call (unitCall : UnitCall)
  | meanwhile (event : ε)

def Step.call? {ε : Type u} : Step ε → Option UnitCall
  | call unitCall => some unitCall
  | meanwhile _ => none

/-- A way to keep units of work, as far as one unit is concerned. A call leads to the next stage
of the automaton if nothing prevents it, and what else happens does not touch the stage. -/
structure UnitKeeping where
  State : Type
  Event : Type u
  stage : State → Stage
  call : UnitCall → Action State Unit
  meanwhile : Event → State → State
  Admits : State → UnitCall → Prop
  Spares : Event → Prop
  stage_meanwhile : ∀ event state, Spares event → stage (meanwhile event state) = stage state
  follows : ∀ unitCall state, Admits state unitCall →
    ((call unitCall).outcome state).1 = unitCall.answer (stage state) ∧
      stage ((call unitCall).outcome state).2 = unitCall.after (stage state)

namespace UnitKeeping

variable (keeping : UnitKeeping)

def record : keeping.State → List (Step keeping.Event) → Record
  | _, [] => []
  | state, .call unitCall :: steps =>
      let (answer, later) := (keeping.call unitCall).outcome state
      (unitCall, answer) :: record later steps
  | state, .meanwhile event :: steps => record (keeping.meanwhile event state) steps

def IsSmooth : keeping.State → List (Step keeping.Event) → Prop
  | _, [] => True
  | state, .call unitCall :: steps =>
      keeping.Admits state unitCall ∧ IsSmooth ((keeping.call unitCall).outcome state).2 steps
  | state, .meanwhile event :: steps =>
      keeping.Spares event ∧ IsSmooth (keeping.meanwhile event state) steps

theorem record_eq_life {state : keeping.State} {steps : List (Step keeping.Event)}
    (smooth : keeping.IsSmooth state steps) :
    keeping.record state steps = life (keeping.stage state) (steps.filterMap Step.call?) := by
  induction steps generalizing state with
  | nil => rfl
  | cons step steps induction =>
      cases step with
      | call unitCall =>
          rcases keeping.follows unitCall state smooth.1 with ⟨answered, reached⟩
          have rest := induction smooth.2
          rw [reached] at rest
          simp only [record, rest, answered]
          rfl
      | meanwhile event =>
          have rest := induction smooth.2
          rw [keeping.stage_meanwhile event state smooth.1] at rest
          rw [record, rest]
          rfl

end UnitKeeping

/-! ## Units in memory -/

def Phase.stage : Phase → Stage
  | idle => .idle
  | active _ => .active
  | finalized => .finalized

def Event.SparesStage (unitName : String) : Event → Prop
  | begin other | commit other | rollback other => other ≠ unitName
  | _ => True

def Event.IsElsewhere (unitName : String) : Event → Prop
  | begin other | commit other | rollback other | call other _ => other ≠ unitName
  | _ => True

namespace World

def unitCall (unitName : String) : UnitCall → Action World Unit
  | .begin => begin unitName
  | .commit => commit unitName
  | .rollback => rollback unitName
  | .enter area => atDesk unitName (Desk.backend.enter area)

def AdmitsCall (world : World) (unitName : String) : UnitCall → Prop
  | .begin => world.phaseOf unitName = .idle → world.surroundings.check .begin = .ok ()
  | .commit => ∀ draft, world.phaseOf unitName = .active draft →
      world.surroundings.check .commit = .ok () ∧
        Tables.repeatedKey? [] (world.committed.merge draft.base draft.work).roles = none
  | .rollback => ∀ draft, world.phaseOf unitName = .active draft →
      world.surroundings.check .rollback = .ok ()
  | .enter _ => True

theorem outcome_begin_of_idle {world : World} {unitName : String}
    (passes : world.surroundings.check .begin = .ok ()) (idle : world.phaseOf unitName = .idle) :
    (begin unitName).outcome world =
      (.ok (), world.setPhase unitName (.active ⟨world.committed, world.committed⟩)) := by
  rw [begin, Action.outcome_ofOutcome, passes, idle]

theorem outcome_begin_of_not_idle {world : World} {unitName : String}
    (notIdle : world.phaseOf unitName ≠ .idle) :
    (begin unitName).outcome world = (.error Operation.begin.failure, world) :=
  (outcome_begin world unitName).resolve_right fun begins => notIdle begins.1

theorem outcome_finalize_of_not_active {world : World} {unitName : String}
    {operation : Operation} (inactive : ∀ draft, world.phaseOf unitName ≠ .active draft) :
    (finalize unitName operation).outcome world = (.error operation.failure, world) :=
  (outcome_finalize world unitName operation).resolve_right fun ends =>
    ends.elim fun draft ends => inactive draft ends.1

theorem outcome_end_of_finalize_error {world : World} {unitName : String} {fault : Fault}
    {unitCall : UnitCall} (isEnd : unitCall.isEnd = true)
    (fails : (finalize unitName unitCall.operation).outcome world = (.error fault, world)) :
    (World.unitCall unitName unitCall).outcome world = (.error fault, world) := by
  cases unitCall with
  | begin | enter => cases isEnd
  | commit =>
      change (commit unitName).outcome world = _
      rw [commit, Action.outcome_bind]
      simp only [UnitCall.operation] at fails
      rw [fails]
  | rollback =>
      change (rollback unitName).outcome world = _
      rw [rollback, Action.outcome_bind]
      simp only [UnitCall.operation] at fails
      rw [fails]

theorem outcome_unitCall_of_refused {world : World} {unitName : String} {unitCall : UnitCall}
    (refused : unitCall.next? (world.phaseOf unitName).stage = none) :
    ((World.unitCall unitName unitCall).outcome world).1 = .error unitCall.operation.failure ∧
      world.Matches ((World.unitCall unitName unitCall).outcome world).2 := by
  have same : world.Matches world := ⟨rfl, rfl, fun _ => rfl⟩
  have notActive : unitCall ≠ .begin → ∀ draft, world.phaseOf unitName ≠ .active draft := by
    intro other draft active
    rw [active] at refused
    cases unitCall with
    | begin => exact other rfl
    | commit | rollback | enter => cases refused
  cases unitCall with
  | begin =>
      have notIdle : world.phaseOf unitName ≠ .idle := fun idle => by
        rw [idle] at refused
        cases refused
      rw [World.unitCall, outcome_begin_of_not_idle notIdle]
      exact ⟨rfl, same⟩
  | commit | rollback =>
      rw [outcome_end_of_finalize_error rfl
        (outcome_finalize_of_not_active (notActive UnitCall.noConfusion))]
      exact ⟨rfl, same⟩
  | enter area =>
      have inactive := notActive UnitCall.noConfusion
      rw [World.unitCall, outcome_atDesk]
      simp only [Desk.backend, Desk.enter, Action.outcome_reading]
      refine ⟨?_, world.matches_setPhase_self unitName⟩
      cases phase : world.phaseOf unitName with
      | active draft => exact absurd phase (inactive draft)
      | idle | finalized => rfl

theorem follows_unitCall (unitName : String) (unitCall : UnitCall) (world : World)
    (admits : world.AdmitsCall unitName unitCall) :
    ((World.unitCall unitName unitCall).outcome world).1 =
        unitCall.answer (world.phaseOf unitName).stage ∧
      (((World.unitCall unitName unitCall).outcome world).2.phaseOf unitName).stage =
        unitCall.after (world.phaseOf unitName).stage := by
  cases refused : unitCall.next? (world.phaseOf unitName).stage with
  | none =>
      rcases outcome_unitCall_of_refused refused with ⟨answered, same⟩
      rw [UnitCall.answer, UnitCall.after, refused, answered, ← same.phaseOf]
      exact ⟨rfl, rfl⟩
  | some next =>
      rw [UnitCall.answer, UnitCall.after, refused]
      cases phase : world.phaseOf unitName with
      | idle =>
          rw [phase] at refused
          cases unitCall with
          | begin =>
              cases refused
              rw [World.unitCall, outcome_begin_of_idle (admits phase) phase,
                phaseOf_setPhase_self]
              exact ⟨rfl, rfl⟩
          | commit | rollback | enter => cases refused
      | active draft =>
          rw [phase] at refused
          cases unitCall with
          | begin => cases refused
          | commit =>
              cases refused
              rcases admits draft phase with ⟨passes, unrepeated⟩
              have commits := outcome_commit_of_active passes phase unrepeated
              rcases outcome_commit world unitName with
                fails | ⟨other, isActive, ⟨key, -, refuses⟩ | ⟨-, publishes⟩⟩
              · rw [fails] at commits
                cases commits
              · rw [refuses] at commits
                cases commits
              · rw [World.unitCall, publishes]
                exact ⟨rfl, congrArg Phase.stage (phaseOf_setPhase_self world unitName _)⟩
          | rollback =>
              cases refused
              rw [World.unitCall, rollback, Action.outcome_bind,
                outcome_finalize_of_active (admits draft phase) phase]
              exact ⟨rfl, congrArg Phase.stage (phaseOf_setPhase_self world unitName _)⟩
          | enter area =>
              cases refused
              have active : (⟨world.phaseOf unitName, world.surroundings⟩ : Desk).phase =
                  .active draft := phase
              rw [World.unitCall, outcome_atDesk, Desk.outcome_enter_of_active active]
              refine ⟨rfl, ?_⟩
              have kept := (world.matches_setPhase_self unitName).phaseOf unitName
              exact congrArg Phase.stage (kept.symm.trans phase)
      | finalized =>
          rw [phase] at refused
          cases unitCall <;> cases refused

theorem outcome_commit_of_passes {world : World} {unitName : String} {draft : Draft}
    (passes : world.surroundings.check .commit = .ok ())
    (active : world.phaseOf unitName = .active draft) :
    (commit unitName).outcome world =
      match Tables.repeatedKey? [] (world.committed.merge draft.base draft.work).roles with
      | some key => (.error (.roleExists key.name), world.setPhase unitName .finalized)
      | none => (.ok (), { world.setPhase unitName .finalized with
          committed := world.committed.merge draft.base draft.work }) := by
  rw [commit, Action.outcome_bind, outcome_finalize_of_active passes active]
  simp only [Action.outcome_bind, Action.outcome_get, publish, Action.outcome_ofOutcome]
  have sameTables : (world.setPhase unitName .finalized).committed = world.committed := rfl
  cases repeated : Tables.repeatedKey? []
      (world.committed.merge draft.base draft.work).roles <;>
    rw [sameTables, repeated]

/-- What the end of a unit comes to depends on the committed tables and the working copy only,
if nothing is made to fail. -/
theorem outcome_end_congr {world again : World} {unitName : String} {draft : Draft}
    {asked : UnitCall} (isEnd : asked.isEnd = true) (able : world.surroundings.failing = [])
    (ableAgain : again.surroundings.failing = [])
    (active : world.phaseOf unitName = .active draft)
    (samePhase : again.phaseOf unitName = world.phaseOf unitName)
    (sameCommitted : again.committed = world.committed) :
    let first := (World.unitCall unitName asked).outcome world
    let second := (World.unitCall unitName asked).outcome again
    second.1 = first.1 ∧ second.2.committed = first.2.committed ∧
      second.2.phaseOf unitName = first.2.phaseOf unitName := by
  have check : ∀ (surroundings : Surroundings) operation, surroundings.failing = [] →
      surroundings.check operation = .ok () := by
    intro surroundings operation none
    rw [Surroundings.check, none]
    rfl
  have activeAgain := samePhase.trans active
  cases asked with
  | begin | enter => cases isEnd
  | commit =>
      simp only [World.unitCall, outcome_commit_of_passes (check _ _ able) active,
        outcome_commit_of_passes (check _ _ ableAgain) activeAgain, sameCommitted]
      have ended : ∀ (world : World) committed, World.phaseOf
          { world.setPhase unitName .finalized with committed } unitName = .finalized :=
        fun world _ => phaseOf_setPhase_self world unitName .finalized
      cases Tables.repeatedKey? [] (world.committed.merge draft.base draft.work).roles with
      | none => exact ⟨rfl, rfl, (ended again _).trans (ended world _).symm⟩
      | some key => exact ⟨rfl, sameCommitted, (ended again _).trans (ended world _).symm⟩
  | rollback =>
      simp only [World.unitCall, rollback, Action.outcome_bind,
        outcome_finalize_of_active (check _ _ able) active,
        outcome_finalize_of_active (check _ _ ableAgain) activeAgain]
      refine ⟨rfl, sameCommitted, ?_⟩
      exact (phaseOf_setPhase_self again unitName _).trans
        (phaseOf_setPhase_self world unitName _).symm

theorem Transition.phaseOf_of_isElsewhere {world later : World} {event : Event}
    {unitName : String} (transition : Transition world event later)
    (elsewhere : event.IsElsewhere unitName) : later.phaseOf unitName = world.phaseOf unitName := by
  cases transition with
  | refuse other call | begin other idle => exact phaseOf_setPhase_other _ _ (Ne.symm elsewhere)
  | call other call draft active workspace performed passes =>
      exact phaseOf_setPhase_other world _ (Ne.symm elsewhere)
  | commit other draft active unrepeated =>
      exact phaseOf_setPhase_other world _ (Ne.symm elsewhere)
  | discard other event ending draft active =>
      have different : other ≠ unitName := by
        rcases ending with rfl | rfl
        · exact elsewhere
        · exact elsewhere
      exact phaseOf_setPhase_other _ _ (Ne.symm different)
  | none | insertRole | insertPermission | around => rfl

theorem phaseOf_run_of_isElsewhere {world : World} {unitName : String} {events : List Event}
    (elsewhere : ∀ event ∈ events, event.IsElsewhere unitName) :
    (world.run events).phaseOf unitName = world.phaseOf unitName := by
  induction events generalizing world with
  | nil => rfl
  | cons event events induction =>
      have here := (step_transition world event).phaseOf_of_isElsewhere
        (elsewhere event List.mem_cons_self)
      exact (induction fun other member =>
        elsewhere other (List.mem_cons_of_mem event member)).trans here

theorem stage_step {world : World} {unitName : String} {event : Event}
    (spares : event.SparesStage unitName) :
    ((world.step event).phaseOf unitName).stage = (world.phaseOf unitName).stage := by
  by_cases called : ∃ (α : Type) (call : Call α), event = .call unitName call
  · rcases called with ⟨α, call, rfl⟩
    by_cases active : ∃ draft, world.phaseOf unitName = .active draft
    · rcases active with ⟨draft, active⟩
      rw [active, step, (outcome_request_of_turn active call).2]
      rfl
    · rw [step, outcome_request_of_not_active fun draft equal => active ⟨draft, equal⟩]
      exact congrArg Phase.stage (phaseOf_setPhase_self world unitName _)
  · apply congrArg Phase.stage
    apply (step_transition world event).phaseOf_of_isElsewhere
    cases event with
    | call other call => exact fun equal => called ⟨_, call, by rw [equal]⟩
    | begin | commit | rollback | insertRole | insertPermission | around => exact spares

end World

def UnitKeeping.memory (unitName : String) : UnitKeeping where
  State := World
  Event := Entitlement.Event
  stage world := (world.phaseOf unitName).stage
  call := World.unitCall unitName
  meanwhile event world := world.step event
  Admits world := world.AdmitsCall unitName
  Spares := Event.SparesStage unitName
  stage_meanwhile _ _ spares := World.stage_step spares
  follows unitCall world := World.follows_unitCall unitName unitCall world

/-! ## Units on the database -/

namespace Database.Transaction

def unitCall : UnitCall → Action Transaction Unit
  | .begin => begin
  | .commit => commit
  | .rollback => rollback
  | .enter area => enter area

def AdmitsCall (transaction : Transaction) : UnitCall → Prop
  | .begin => transaction.stage = .idle →
      transaction.link.isFree = true ∧ ¬ transaction.link.Refuses .begin
  | .commit => transaction.stage = .active → ¬ transaction.link.Refuses .commit
  | .rollback => transaction.stage = .active → ¬ transaction.link.Refuses .rollback
  | .enter _ => True

/-- An active transaction is over once it was asked to end, and it has handed one statement to
the database. -/
theorem outcome_finalize_of_active {transaction : Transaction} (operation : Operation)
    (statement : Statement) (active : transaction.stage = .active) :
    (finalize operation statement).outcome transaction =
      ((match (transaction.link.exchange statement).1 with
        | .refused _ => .error operation.failure
        | _ => .ok ()),
        { stage := .finalized, link := { transaction.link.sendAll [statement] with
            held := transaction.link.held - 1 } }) := by
  simp only [finalize, Action.outcome_ofOutcome, active, if_true]
  cases answered : (transaction.link.exchange statement).1 <;> rfl

theorem outcome_finalize_of_not_active {transaction : Transaction} (operation : Operation)
    (statement : Statement) (inactive : transaction.stage ≠ .active) :
    (finalize operation statement).outcome transaction =
      (.error operation.failure, transaction) := by
  simp only [finalize, Action.outcome_ofOutcome, inactive, if_false]

theorem outcome_unitCall_of_refused {transaction : Transaction} {asked : UnitCall}
    (refused : asked.next? transaction.stage = none) :
    (unitCall asked).outcome transaction = (.error asked.operation.failure, transaction) := by
  cases asked with
  | begin =>
      have notIdle : transaction.stage ≠ .idle := fun idle => by
        rw [idle] at refused
        cases refused
      simp only [unitCall, begin, Action.outcome_ofOutcome, notIdle, false_and, if_false]
      rfl
  | commit | rollback =>
      have inactive : transaction.stage ≠ .active := fun active => by
        rw [active] at refused
        cases refused
      exact outcome_finalize_of_not_active _ _ inactive
  | enter area =>
      have inactive : transaction.stage ≠ .active := fun active => by
        rw [active] at refused
        cases refused
      simp only [unitCall, enter, Action.outcome_reading, inactive, if_false]
      rfl

theorem outcome_begin_of_idle {transaction : Transaction} (idle : transaction.stage = .idle) :
    (∃ sent, begin.outcome transaction = (.error Operation.begin.failure,
        { transaction with link := transaction.link.sendAll sent }) ∧
      (sent = [] ∨ sent = [.begin]) ∧
      (transaction.link.isFree = true → transaction.link.Refuses .begin)) ∨
    begin.outcome transaction =
      (.ok (), { stage := .active, link := { transaction.link.sendAll [.begin] with
        held := transaction.link.held + 1 } }) := by
  cases free : transaction.link.isFree with
  | false =>
      refine Or.inl ⟨[], ?_, Or.inl rfl, fun isFree => by cases isFree⟩
      simp [begin, free]
  | true =>
      simp only [begin, Action.outcome_ofOutcome, idle, free, and_self, if_true]
      cases answered : (transaction.link.exchange .begin).1 with
      | refused state => exact Or.inl ⟨[.begin], rfl, Or.inr rfl, fun _ => ⟨state, answered⟩⟩
      | affected | rows => exact Or.inr rfl

theorem outcome_begin_of_accepts {transaction : Transaction} (idle : transaction.stage = .idle)
    (free : transaction.link.isFree = true) (accepts : ¬ transaction.link.Refuses .begin) :
    begin.outcome transaction =
      (.ok (), { stage := .active, link := { transaction.link.sendAll [.begin] with
        held := transaction.link.held + 1 } }) :=
  (outcome_begin_of_idle idle).resolve_left fun fails =>
    fails.elim fun _ fails => accepts (fails.2.2 free)

theorem outcome_end_of_accepts {transaction : Transaction} {operation : Operation}
    {statement : Statement} (active : transaction.stage = .active)
    (accepts : ¬ transaction.link.Refuses statement) :
    ((finalize operation statement).outcome transaction).1 = .ok () := by
  rw [outcome_finalize_of_active operation statement active]
  dsimp only
  split
  · rename_i state answered
    exact absurd ⟨state, answered⟩ accepts
  · rfl

theorem follows_unitCall (asked : UnitCall) (transaction : Transaction)
    (admits : transaction.AdmitsCall asked) :
    ((unitCall asked).outcome transaction).1 = asked.answer transaction.stage ∧
      ((unitCall asked).outcome transaction).2.stage = asked.after transaction.stage := by
  cases refused : asked.next? transaction.stage with
  | none =>
      rw [UnitCall.answer, UnitCall.after, refused, outcome_unitCall_of_refused refused]
      exact ⟨rfl, rfl⟩
  | some next =>
      rw [UnitCall.answer, UnitCall.after, refused]
      cases stage : transaction.stage with
      | idle =>
          rw [stage] at refused
          cases asked with
          | begin =>
              cases refused
              rcases admits stage with ⟨free, accepts⟩
              rw [unitCall, outcome_begin_of_accepts stage free accepts]
              exact ⟨rfl, rfl⟩
          | commit | rollback | enter => cases refused
      | active =>
          rw [stage] at refused
          cases asked with
          | begin => cases refused
          | commit | rollback =>
              cases refused
              refine ⟨outcome_end_of_accepts stage (admits stage), ?_⟩
              exact congrArg (·.2.stage) (outcome_finalize_of_active _ _ stage)
          | enter area =>
              cases refused
              simp [unitCall, enter, stage]
      | finalized =>
          rw [stage] at refused
          cases asked <;> cases refused

def endsTransaction (statement : Statement) : Bool :=
  statement = .commit || statement = .rollback

def endsLeft : Stage → Nat
  | .idle | .active => 1
  | .finalized => 0

def handed (transaction : Transaction) (asked : UnitCall) : List Statement :=
  ((unitCall asked).outcome transaction).2.link.sent.drop transaction.link.sent.length

/-- The statements that the calls of a run hand to the database, with whatever others make of
the link in between. -/
def handedIn : Transaction → List (Step Link) → List Statement
  | _, [] => []
  | transaction, .call asked :: steps =>
      transaction.handed asked ++ handedIn ((unitCall asked).outcome transaction).2 steps
  | transaction, .meanwhile link :: steps => handedIn { transaction with link } steps

theorem handed_of_refused {transaction : Transaction} {asked : UnitCall}
    (refused : asked.next? transaction.stage = none) : transaction.handed asked = [] := by
  rw [handed, outcome_unitCall_of_refused refused, List.drop_length]

theorem handed_of_sendAll {transaction : Transaction} {asked : UnitCall}
    {sent : List Statement} (sends : ((unitCall asked).outcome transaction).2.link.sent =
      transaction.link.sent ++ sent) : transaction.handed asked = sent := by
  rw [handed, sends, List.drop_left]

/-- An end is handed to the database by an active transaction only, which is over then. -/
theorem countP_handed (transaction : Transaction) (asked : UnitCall) :
    (transaction.handed asked).countP endsTransaction +
        endsLeft ((unitCall asked).outcome transaction).2.stage ≤ endsLeft transaction.stage := by
  cases refused : asked.next? transaction.stage with
  | none => simp [handed_of_refused refused, outcome_unitCall_of_refused refused]
  | some next =>
      cases stage : transaction.stage with
      | idle =>
          rw [stage] at refused
          cases asked with
          | begin =>
              rcases outcome_begin_of_idle stage with ⟨sent, fails, isSent, -⟩ | begins
              · have sends : transaction.handed .begin = sent :=
                  handed_of_sendAll (congrArg (·.2.link.sent) fails)
                rw [sends, unitCall, fails, stage]
                rcases isSent with rfl | rfl <;> decide
              · have sends : transaction.handed .begin = [.begin] :=
                  handed_of_sendAll (congrArg (·.2.link.sent) begins)
                rw [sends, unitCall, begins]
                change List.countP endsTransaction [.begin] + endsLeft .active ≤ endsLeft .idle
                decide
          | commit | rollback | enter => cases refused
      | active =>
          rw [stage] at refused
          cases asked with
          | begin => cases refused
          | commit =>
              have ends := outcome_finalize_of_active .commit .commit stage
              have sends : transaction.handed .commit = [.commit] :=
                handed_of_sendAll (congrArg (·.2.link.sent) ends)
              rw [sends, unitCall, commit, ends]
              change List.countP endsTransaction [.commit] + endsLeft .finalized ≤ endsLeft .active
              decide
          | rollback =>
              have ends := outcome_finalize_of_active .rollback .rollback stage
              have sends : transaction.handed .rollback = [.rollback] :=
                handed_of_sendAll (congrArg (·.2.link.sent) ends)
              rw [sends, unitCall, rollback, ends]
              change List.countP endsTransaction [.rollback] + endsLeft .finalized ≤
                endsLeft .active
              decide
          | enter area =>
              have silent : transaction.handed (.enter area) = [] :=
                handed_of_sendAll (List.append_nil _).symm
              rw [silent]
              exact Nat.le_of_eq ((Nat.zero_add _).trans (congrArg endsLeft stage))
      | finalized =>
          rw [stage] at refused
          cases asked <;> cases refused

/-- A transaction hands at most one end to the database, whatever is refused and whatever others
make of the link. -/
theorem countP_handedIn (transaction : Transaction) (steps : List (Step Link)) :
    (transaction.handedIn steps).countP endsTransaction ≤ endsLeft transaction.stage := by
  induction steps generalizing transaction with
  | nil => exact Nat.zero_le _
  | cons step steps induction =>
      cases step with
      | call asked =>
          have here := transaction.countP_handed asked
          have rest := induction ((unitCall asked).outcome transaction).2
          rw [handedIn, List.countP_append]
          omega
      | meanwhile link => exact induction { transaction with link }

end Database.Transaction

def UnitKeeping.database : UnitKeeping where
  State := Transaction
  Event := Link
  stage := Transaction.stage
  call := Transaction.unitCall
  meanwhile link transaction := { transaction with link }
  Admits := Transaction.AdmitsCall
  Spares _ := True
  stage_meanwhile _ _ _ := rfl
  follows := Transaction.follows_unitCall

/-! ## Both kinds of units -/

open UnitKeeping in
/-- Whatever calls are made, and whatever else happens in between: as long as nothing prevents
them, a unit in memory and one on the database answer the same calls alike, as the automaton
does. The rest is about calls that are refused or made to fail. -/
theorem units_live_alike {unitName : String} {world : World} {transaction : Transaction}
    {steps : List (Step Event)} {others : List (Step Link)}
    (idle : world.phaseOf unitName = .idle) (idleToo : transaction.stage = .idle)
    (smooth : (memory unitName).IsSmooth world steps)
    (smoothToo : database.IsSmooth transaction others)
    (sameCalls : others.filterMap Step.call? = steps.filterMap Step.call?) :
    let record := life .idle (steps.filterMap Step.call?)
    ((memory unitName).record world steps = record ∧ database.record transaction others = record ∧
      record.successes (· = .begin) ≤ 1 ∧ record.successes (·.isEnd) ≤ 1) ∧
    -- A call that the automaton refuses changes nothing.
    (∀ (world : World) (asked : UnitCall),
      asked.next? (world.phaseOf unitName).stage = none →
        ((World.unitCall unitName asked).outcome world).1 = .error (.server asked.operation.name) ∧
          world.Matches ((World.unitCall unitName asked).outcome world).2) ∧
    (∀ (transaction : Transaction) (asked : UnitCall), asked.next? transaction.stage = none →
      (Transaction.unitCall asked).outcome transaction =
        (.error (.server asked.operation.name), transaction)) ∧
    -- A beginning that fails can be tried again.
    (∀ (world later : World) (fault : Fault), world.phaseOf unitName = .idle →
      (World.begin unitName).outcome world = (.error fault, later) →
        later = world ∧ fault = .server Operation.begin.name ∧ fault.isRetryable = true ∧
          ((World.begin unitName).outcome (later.step (.around .enableAll))).1 = .ok ()) ∧
    (∀ (transaction later : Transaction) (fault : Fault), transaction.stage = .idle →
      Transaction.begin.outcome transaction = (.error fault, later) →
        later.stage = .idle ∧ later.link.held = transaction.link.held ∧
          fault = .server Operation.begin.name ∧ fault.isRetryable = true ∧
          ∀ link : Link, link.isFree = true → ¬ link.Refuses .begin →
            (Transaction.begin.outcome { later with link }).1 = .ok ()) ∧
    -- A unit on the database hands over one end at most, and is over even if that fails.
    (∀ (transaction : Transaction) (others : List (Step Link)),
      (transaction.handedIn others).countP Transaction.endsTransaction ≤ 1) ∧
    (∀ (transaction : Transaction) (asked : UnitCall), asked.isEnd = true →
      transaction.stage = .active →
        ((Transaction.unitCall asked).outcome transaction).2.stage = .finalized) ∧
    -- A unit in memory whose end is made to fail stays as it is, and can be ended later.
    ∀ (world : World) (draft : Draft) (asked : UnitCall), asked.isEnd = true →
      world.phaseOf unitName = .active draft →
      world.surroundings.failing.contains asked.operation.name = true →
        (World.unitCall unitName asked).outcome world =
            (.error (.server asked.operation.name), world) ∧
          ∀ meanwhile : List Event, (∀ event ∈ meanwhile, event.IsElsewhere unitName) →
            (world.run meanwhile).committed = world.committed →
            let unfailing := world.step (.around .enableAll)
            let again := (world.run meanwhile).step (.around .enableAll)
            let expected := (World.unitCall unitName asked).outcome unfailing
            let ended := (World.unitCall unitName asked).outcome again
            ended.1 = expected.1 ∧ ended.2.committed = expected.2.committed ∧
              ended.2.phaseOf unitName = expected.2.phaseOf unitName := by
  intro record
  refine ⟨⟨?_, ?_, successes_of_idle _⟩, ?_, ?_, ?_, ?_, ?_, ?_, ?_⟩
  · have alike := (memory unitName).record_eq_life smooth
    exact alike.trans (congrArg (fun phase => life (Phase.stage phase) _) idle)
  · have alike := database.record_eq_life smoothToo
    exact alike.trans (congrArg₂ life idleToo sameCalls)
  · exact fun world asked refused => World.outcome_unitCall_of_refused refused
  · exact fun transaction asked refused => Transaction.outcome_unitCall_of_refused refused
  · intro world later fault idle fails
    rcases World.outcome_begin world unitName with failed | ⟨-, begins⟩
    · rw [failed] at fails
      cases fails
      refine ⟨rfl, rfl, rfl, ?_⟩
      have passes : (world.step (.around .enableAll)).surroundings.check .begin = .ok () := rfl
      rw [World.outcome_begin_of_idle passes idle]
    · rw [begins] at fails
      cases fails
  · intro transaction later fault idle fails
    rcases Transaction.outcome_begin_of_idle idle with ⟨sent, failed, -, -⟩ | begins
    · rw [failed] at fails
      cases fails
      refine ⟨idle, rfl, rfl, rfl, fun link free accepts => ?_⟩
      have stillIdle : (⟨transaction.stage, link⟩ : Transaction).stage = .idle := idle
      rw [Transaction.outcome_begin_of_accepts stillIdle free accepts]
    · rw [begins] at fails
      cases fails
  · intro transaction others
    have counted := transaction.countP_handedIn others
    have few : Transaction.endsLeft transaction.stage ≤ 1 := by
      cases transaction.stage <;> decide
    exact Nat.le_trans counted few
  · intro transaction asked isEnd active
    cases asked with
    | begin | enter => cases isEnd
    | commit | rollback =>
        exact congrArg (·.2.stage) (Transaction.outcome_finalize_of_active _ _ active)
  · intro world draft asked isEnd active fails
    have failed : (World.finalize unitName asked.operation).outcome world =
        (.error asked.operation.failure, world) := by
      rw [World.finalize, Action.outcome_ofOutcome, Surroundings.check, fails]
      rfl
    refine ⟨World.outcome_end_of_finalize_error isEnd failed, fun meanwhile elsewhere same => ?_⟩
    exact World.outcome_end_congr isEnd rfl rfl active
      (World.phaseOf_run_of_isElsewhere elsewhere) same

def strayCalls : List UnitCall :=
  [.enter .roles, .begin, .begin, .enter .grants, .commit, .rollback, .begin]

theorem units_live_alike_strayCalls :
    let steps : List (Step Event) := .meanwhile (.begin "second") :: strayCalls.map .call
    let link : Link := ⟨Database.Server.ofAnswers [] [], [], 1, 0⟩
    let record : Record := [(.enter .roles, .error (.server "unit_of_work.roles")),
      (.begin, .ok ()), (.begin, .error (.server "unit_of_work.begin")), (.enter .grants, .ok ()),
      (.commit, .ok ()), (.rollback, .error (.server "unit_of_work.rollback")),
      (.begin, .error (.server "unit_of_work.begin"))]
    (UnitKeeping.memory "first").record (World.fresh.run World.stocking) steps = record ∧
      UnitKeeping.database.record ⟨.idle, link⟩ (strayCalls.map .call) = record := by
  intro steps link record
  have smooth : (UnitKeeping.memory "first").IsSmooth (World.fresh.run World.stocking) steps := by
    have different : "second" ≠ "first" := by decide
    refine ⟨different, True.intro, fun _ => rfl, fun _ => rfl, True.intro, fun draft active => ?_,
      fun _ active => (by cases active), fun _ => rfl, True.intro⟩
    cases active
    exact ⟨rfl, by decide⟩
  have accepts : ∀ statement : Statement, statement.isBoundary = true →
      ∀ sent held, ¬ (⟨link.server, sent, 1, held⟩ : Link).Refuses statement := by
    rintro statement boundary sent held ⟨state, refused⟩
    simp [Link.exchange, link, Database.Server.ofAnswers, boundary] at refused
  have smoothToo : UnitKeeping.database.IsSmooth ⟨.idle, link⟩ (strayCalls.map .call) :=
    ⟨True.intro, fun _ => ⟨rfl, accepts .begin rfl _ _⟩, fun idle => (by cases idle), True.intro,
      fun _ => accepts .commit rfl _ _, fun active => (by cases active),
      fun idle => (by cases idle), True.intro⟩
  have idle : (World.fresh.run World.stocking).phaseOf "first" = .idle := rfl
  rcases (units_live_alike idle rfl smooth smoothToo rfl).1 with
    ⟨inMemory, onDatabase, -⟩
  exact ⟨inMemory, onDatabase⟩

end Entitlement
