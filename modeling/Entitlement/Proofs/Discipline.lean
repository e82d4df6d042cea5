import Entitlement.Command.Run
import Entitlement.Proofs.Orderly
import Mathlib.Data.List.Basic

/-! # Discipline of units of work

Whatever the database answers, each unit of work of a command begins first, stops at the first
statement that is refused, and is committed exactly if nothing has failed. A command that is to
seed first does not begin before seeding was committed. What it prints and its exit status tell
whether its own changes were kept. -/

namespace Entitlement
namespace Database

/-! ## Beginning and ending a unit -/

def Shared.begun (shared : Shared) : Desk where
  stage := .active
  shared := { shared with
    link := { shared.link.sendAll [.begin] with held := shared.link.held + 1 } }

def Desk.closed (desk : Desk) (statement : Statement) : Shared :=
  { desk.shared with
    link := { desk.shared.link.sendAll [statement] with held := desk.shared.link.held - 1 } }

/-- A unit of work as it has to be. It begins first. Once a statement was refused, all it can
still send is that its changes are to be dropped. It is committed exactly if it could begin, its
operation succeeded and none of the statements was refused, and only once. -/
structure Disciplined {α : Type} (operation : Action Desk α) (start : Shared)
    (sent : List Statement) : Prop where
  begins : sent.head? = some .begin
  stops : ∀ earlier statement later, sent = earlier ++ statement :: later →
    (start.link.sendAll earlier).Refuses statement → later = [] ∨ later = [.rollback]
  commits : .commit ∈ sent ↔ ∃ own value,
    (operation.outcome start.begun).1 = .ok value ∧
      (operation.outcome start.begun).2.shared.link.sent =
        start.link.sent ++ .begin :: own ∧
      start.link.Accepts (.begin :: own)
  once : sent.count .commit ≤ 1

def Link.Commits (link : Link) (sent : List Statement) : Prop :=
  ∃ earlier, sent = earlier ++ [.commit] ∧ ¬(link.sendAll earlier).Refuses .commit

section

variable {link : Link} {statement : Statement} {sent : List Statement}

theorem Link.accepts_hold (link : Link) (held : Nat) :
    ({ link with held } : Link).Accepts sent ↔ link.Accepts sent := by
  induction sent generalizing link with
  | nil => rfl
  | cons statement sent induction =>
      exact and_congr_right fun _ => induction (link.sendAll [statement])

theorem Link.accepts_begin {start : Shared} {own : List Statement}
    (accepts : ¬start.link.Refuses .begin)
    (ownAccepted : start.begun.transaction.link.Accepts own) :
    start.link.Accepts (.begin :: own) :=
  ⟨accepts, (Link.accepts_hold _ _).mp ownAccepted⟩

theorem Link.not_accepts_of_refuses {earlier later : List Statement}
    (refuses : (link.sendAll earlier).Refuses statement) :
    ¬link.Accepts (earlier ++ statement :: later) := by
  rw [Link.accepts_append]
  exact fun accepted => accepted.2.1 refuses

theorem Link.eq_nil_of_refuses {earlier later : List Statement}
    (opening : link.Accepts (earlier ++ statement :: later).dropLast)
    (refuses : (link.sendAll earlier).Refuses statement) : later = [] := by
  by_contra notLast
  rw [List.dropLast_append_of_ne_nil (List.cons_ne_nil _ _),
    List.dropLast_cons_of_ne_nil notLast] at opening
  exact Link.not_accepts_of_refuses refuses opening

theorem Link.commits_concat_commit :
    link.Commits (sent ++ [.commit]) ↔ ¬(link.sendAll sent).Refuses .commit := by
  constructor
  · rintro ⟨earlier, same, accepts⟩
    rwa [List.append_cancel_right same]
  · exact fun accepts => ⟨sent, rfl, accepts⟩

theorem Link.not_commits_concat (other : statement ≠ .commit) :
    ¬link.Commits (sent ++ [statement]) := by
  rintro ⟨earlier, same, -⟩
  exact other (by simpa using (List.append_inj' same rfl).2)

end

namespace Disciplined

variable {α : Type} {operation : Action Desk α} {start : Shared} {own : List Statement}
  {result : Except Fault α} {desk : Desk}

theorem link_eq (sends : start.begun.transaction.Sends own result desk.transaction) :
    desk.shared.link =
      { start.link.sendAll (.begin :: own) with held := start.link.held + 1 } := by
  have isLater : desk.shared.link = start.begun.transaction.link.sendAll own :=
    congrArg Transaction.link sends.after_eq
  rw [isLater]
  simp [Link.sendAll, Shared.begun, Desk.transaction]

theorem closed_link (sends : start.begun.transaction.Sends own result desk.transaction)
    (statement : Statement) :
    (desk.closed statement).link = start.link.sendAll (.begin :: own ++ [statement]) := by
  simp [Desk.closed, link_eq sends, Link.sendAll]

theorem count_commit (sends : start.begun.transaction.Sends own result desk.transaction) :
    (Statement.begin :: own).count .commit = 0 := by
  refine List.count_eq_zero.mpr fun isSent => ?_
  rcases List.mem_cons.mp isSent with isBegin | isOwn
  · exact absurd isBegin (by decide)
  · exact absurd (sends.inside _ isOwn) (by decide)

theorem of_refuses (refuses : start.link.Refuses .begin) :
    Disciplined operation start [.begin] where
  begins := rfl
  stops earlier statement later isSplit refused := by
    have opening : start.link.Accepts (earlier ++ statement :: later).dropLast := by
      rw [← isSplit]
      trivial
    exact Or.inl (Link.eq_nil_of_refuses opening refused)
  commits := by
    constructor
    · exact fun commits => absurd commits (by decide)
    · rintro ⟨own, value, -, -, accepted⟩
      exact absurd refuses accepted.1
  once := by decide

theorem of_error {fault : Fault} (accepts : ¬start.link.Refuses .begin)
    (reached : operation.outcome start.begun = (.error fault, desk))
    (sends : start.begun.transaction.Sends own (.error fault : Except Fault α) desk.transaction) :
    Disciplined operation start (.begin :: own ++ [.rollback]) where
  begins := rfl
  stops earlier statement later isSplit refused := by
    have opening : start.link.Accepts (Statement.begin :: own).dropLast := by
      cases own with
      | nil => trivial
      | cons first own => exact Link.accepts_begin accepts sends.opening
    rcases later.eq_nil_or_concat' with rfl | ⟨rest, last, rfl⟩
    · exact Or.inl rfl
    · rw [← List.cons_append, ← List.append_assoc] at isSplit
      rcases List.append_inj' isSplit rfl with ⟨isOpening, isLast⟩
      rw [isOpening] at opening
      rw [Link.eq_nil_of_refuses opening refused, List.nil_append, ← isLast]
      exact Or.inr rfl
  commits := by
    constructor
    · intro commits
      rcases List.mem_append.mp commits with isOwn | isEnd
      · exact absurd isOwn (List.count_eq_zero.mp (count_commit sends))
      · exact absurd isEnd (by decide)
    · rintro ⟨_, value, isOk, -⟩
      rw [reached] at isOk
      cases isOk
  once := by
    rw [List.count_append, count_commit sends]
    decide

theorem of_ok {value : α} (accepts : ¬start.link.Refuses .begin)
    (reached : operation.outcome start.begun = (.ok value, desk))
    (sends : start.begun.transaction.Sends own (.ok value : Except Fault α) desk.transaction) :
    Disciplined operation start (.begin :: own ++ [.commit]) where
  begins := rfl
  stops earlier statement later isSplit refused := by
    have opening : start.link.Accepts (Statement.begin :: own ++ [Statement.commit]).dropLast := by
      rw [List.dropLast_concat]
      exact Link.accepts_begin accepts (sends.accepted value rfl)
    rw [isSplit] at opening
    exact Or.inl (Link.eq_nil_of_refuses opening refused)
  commits := by
    refine iff_of_true (List.mem_concat_self ..) ⟨own, value, by rw [reached], ?_,
      Link.accepts_begin accepts (sends.accepted value rfl)⟩
    rw [reached, link_eq sends]
    rfl
  once := by
    rw [List.count_append, count_commit sends]
    decide

theorem exists_ok {sent : List Statement} (disciplined : Disciplined operation start sent)
    (commits : start.link.Commits sent) :
    ∃ value, (operation.outcome start.begun).1 = .ok value := by
  rcases commits with ⟨earlier, rfl, -⟩
  rcases disciplined.commits.mp (List.mem_concat_self ..) with ⟨_, value, isOk, -⟩
  exact ⟨value, isOk⟩

theorem ne_nil {sent : List Statement} (disciplined : Disciplined operation start sent) :
    sent ≠ [] := by
  rintro rfl
  cases disciplined.begins

end Disciplined

end Database

open Database

theorem Action.outcome_tryCatch {σ α : Type} (action : Action σ α)
    (recover : Fault → Action σ α) (state : σ) :
    outcome (tryCatch action recover) state =
      match action.outcome state with
      | (.ok value, later) => (.ok value, later)
      | (.error fault, later) => (recover fault).outcome later := by
  rw [outcome, ExceptT.run_tryCatch, StateT.run_bind]
  rcases reached : action.outcome state with ⟨result, later⟩
  rw [outcome] at reached
  rw [reached]
  cases result <;> rfl

namespace Command

variable {α : Type} {start : Shared}

theorem outcome_begin_of_refuses (free : start.link.isFree) (refuses : start.link.Refuses .begin) :
    (Desk.onTransaction Transaction.begin).outcome ⟨.idle, start⟩ =
      (.error Operation.begin.failure,
        ⟨.idle, { start with link := start.link.sendAll [.begin] }⟩) := by
  rcases refuses with ⟨state, refused⟩
  simp only [Desk.onTransaction, Action.onPart, Action.outcome_ofOutcome, Transaction.begin,
    free, refused, and_self, if_true]
  rfl

theorem outcome_begin (free : start.link.isFree) (accepts : ¬start.link.Refuses .begin) :
    (Desk.onTransaction Transaction.begin).outcome ⟨.idle, start⟩ = (.ok (), start.begun) := by
  simp only [Desk.onTransaction, Action.onPart, Action.outcome_ofOutcome, Transaction.begin,
    free, and_self, if_true]
  rw [Link.Refuses] at accepts
  cases answered : (start.link.exchange .begin).1 with
  | refused state => exact absurd ⟨state, answered⟩ accepts
  | rows | affected => rfl

theorem outcome_finalize {desk : Desk} (active : desk.stage = .active) (operation : Operation)
    (statement : Statement) :
    ∃ result, (Desk.onTransaction (Transaction.finalize operation statement)).outcome desk =
        (result, ⟨.finalized, desk.closed statement⟩) ∧
      (desk.shared.link.Refuses statement → result = .error operation.failure) ∧
      (¬desk.shared.link.Refuses statement → result = .ok ()) := by
  simp only [Desk.onTransaction, Action.onPart, Action.outcome_ofOutcome, Transaction.finalize,
    if_pos active, Link.Refuses]
  cases answered : (desk.shared.link.exchange statement).1 with
  | rows | affected => exact ⟨_, rfl, by simp, fun _ => rfl⟩
  | refused state => exact ⟨_, rfl, fun _ => rfl, by simp⟩

section

variable {action : Action Desk α}

theorem outcome_inUnit_of_refuses (free : start.link.isFree) (refuses : start.link.Refuses .begin) :
    (inUnit action).outcome start =
      (.error Operation.begin.failure, { start with link := start.link.sendAll [.begin] }) := by
  rw [inUnit, Action.onPart, Action.outcome_ofOutcome, Action.outcome_bind,
    outcome_begin_of_refuses free refuses]

theorem outcome_inUnit_of_error (free : start.link.isFree) (accepts : ¬start.link.Refuses .begin)
    {fault : Fault} {desk : Desk} (failed : action.outcome start.begun = (.error fault, desk))
    (active : desk.stage = .active) :
    (inUnit action).outcome start = (.error fault, desk.closed .rollback) := by
  rcases outcome_finalize active .rollback .rollback with ⟨result, ended, -, -⟩
  have recovered : (tryCatch (Desk.onTransaction Transaction.rollback)
      fun _ => (pure () : Action Desk Unit)).outcome desk =
        (.ok (), ⟨.finalized, desk.closed .rollback⟩) := by
    rw [Action.outcome_tryCatch, Transaction.rollback, ended]
    cases result <;> rfl
  rw [inUnit, Action.onPart, Action.outcome_ofOutcome, Action.outcome_bind,
    outcome_begin free accepts]
  simp only [Action.outcome_bind, Action.outcome_tryCatch, failed, recovered]
  rfl

theorem outcome_inUnit_of_ok (free : start.link.isFree) (accepts : ¬start.link.Refuses .begin)
    {value : α} {desk : Desk} (succeeded : action.outcome start.begun = (.ok value, desk))
    (active : desk.stage = .active) :
    ∃ result, (inUnit action).outcome start = (result, desk.closed .commit) ∧
      (desk.shared.link.Refuses .commit → result = .error Operation.commit.failure) ∧
      (¬desk.shared.link.Refuses .commit → result = .ok value) := by
  rcases outcome_finalize active .commit .commit with ⟨result, ended, fails, succeeds⟩
  rw [inUnit, Action.onPart, Action.outcome_ofOutcome, Action.outcome_bind,
    outcome_begin free accepts]
  simp only [Action.outcome_bind, Action.outcome_tryCatch, succeeded, Transaction.commit, ended]
  cases result with
  | error fault =>
      exact ⟨_, rfl, fun refuses => by simpa using fails refuses, by simpa using succeeds⟩
  | ok => exact ⟨_, rfl, by simpa using fails, fun _ => rfl⟩

/-- Every unit of work is disciplined if its operation is orderly, and it succeeds exactly if its
changes are kept. -/
theorem inUnit_disciplined (orderly : Orderly Desk.transaction action) (free : start.link.isFree) :
    ∃ sent, Disciplined action start sent ∧
      ((inUnit action).outcome start).2.link = start.link.sendAll sent ∧
      ∀ value, ((inUnit action).outcome start).1 = .ok value ↔
        start.link.Commits sent ∧ (action.outcome start.begun).1 = .ok value := by
  by_cases refuses : start.link.Refuses .begin
  · rw [outcome_inUnit_of_refuses free refuses]
    refine ⟨[.begin], .of_refuses refuses, rfl, fun value => iff_of_false (by simp) ?_⟩
    have notCommits : ¬start.link.Commits ([] ++ [.begin]) := Link.not_commits_concat (by decide)
    exact fun succeeds => notCommits succeeds.1
  rcases orderly start.begun with ⟨own, sends⟩
  rcases reached : action.outcome start.begun with ⟨fault | value, desk⟩
  all_goals
    rw [reached] at sends
    have active : desk.stage = .active := congrArg Transaction.stage sends.after_eq
  · rw [outcome_inUnit_of_error free refuses reached active]
    exact ⟨_, .of_error refuses reached sends, Disciplined.closed_link sends _,
      fun value => by simp⟩
  · rcases outcome_inUnit_of_ok free refuses reached active with
      ⟨result, isOutcome, fails, succeeds⟩
    have sameRefusal : desk.shared.link.Refuses .commit ↔
        (start.link.sendAll (.begin :: own)).Refuses .commit := by
      rw [Disciplined.link_eq sends]
      rfl
    rw [isOutcome]
    refine ⟨_, .of_ok refuses reached sends, Disciplined.closed_link sends _, fun other => ?_⟩
    rw [Link.commits_concat_commit, ← sameRefusal]
    by_cases refusesCommit : desk.shared.link.Refuses .commit
    · simp [fails refusesCommit, refusesCommit]
    · simp [succeeds refusesCommit, refusesCommit]

end

theorem outcome_inUnit_report {β : Type} (action : Action Desk α) (report : α → β)
    (start : Shared) :
    (do let value ← inUnit action; return report value : Action Shared β).outcome start =
      (inUnit (do let value ← action; return report value)).outcome start := by
  simp only [inUnit, Action.onPart, Action.outcome_bind, Action.outcome_ofOutcome,
    Action.outcome_tryCatch]
  rcases (Desk.onTransaction Transaction.begin).outcome ⟨.idle, start⟩ with ⟨fault | _, begun⟩
  · rfl
  rcases reached : action.outcome begun with ⟨fault | value, desk⟩
  · rcases ended : (Desk.onTransaction Transaction.rollback).outcome desk with ⟨_ | _, later⟩
    all_goals
      simp only [reached, ended]
      rfl
  · rcases ended : (Desk.onTransaction Transaction.commit).outcome desk with ⟨_ | _, later⟩
    all_goals simp [reached, ended]

/-! ## Commands -/

def serve : Command → Action Desk Success
  | .migrate => pure ⟨"Schema is up to date", 0⟩
  | .seed => do
      let report ← Service.seed Desk.backend
      return ⟨seedLine report, 0⟩
  | .roles => do
      let roles ← Service.listRoles Desk.backend
      return ⟨(Json.list (roles.map Role.toJson)).pretty, 0⟩
  | .permissions => do
      let permissions ← Service.listPermissions Desk.backend
      return ⟨(Json.list (permissions.map Permission.toJson)).pretty, 0⟩
  | .check userUuid required => do
      let decision ← Service.checkAccess Desk.backend userUuid required
      return ⟨decision.toJson.pretty, if decision.isAllowed then 0 else 2⟩
  | .assignDefault userId => do
      let role ← Service.assignUserRole Desk.backend userId
      return ⟨assignedLine userId role, 0⟩
  | .syncPermissions roleUuid permissionUuids => do
      let bundle ← Service.syncPermissions Desk.backend roleUuid permissionUuids
      return ⟨bundle.toJson.pretty, 0⟩

theorem orderly_serve (command : Command) : Orderly Desk.transaction command.serve := by
  cases command with
  | migrate => exact .pure _
  | seed => exact .bind Desk.orderly_seed fun _ => .pure _
  | roles => exact .bind Desk.orderly_listRoles fun _ => .pure _
  | permissions => exact .bind Desk.orderly_listPermissions fun _ => .pure _
  | check userUuid required => exact .bind (Desk.orderly_checkAccess _ _) fun _ => .pure _
  | assignDefault userId => exact .bind (Desk.orderly_assignUserRole _) fun _ => .pure _
  | syncPermissions roleUuid permissionUuids =>
      exact .bind (Desk.orderly_syncPermissions _ _) fun _ => .pure _

theorem outcome_perform {command : Command} (notMigrate : command ≠ .migrate) (start : Shared) :
    command.perform.outcome start = (inUnit command.serve).outcome start := by
  cases command with
  | migrate => exact absurd rfl notMigrate
  | seed | roles | permissions | check | assignDefault | syncPermissions =>
      exact outcome_inUnit_report _ _ start

def Denies (command : Command) (start : Shared) : Prop :=
  ∃ userUuid required, command = .check userUuid required ∧
    ((Service.checkAccess Desk.backend userUuid required).outcome start.begun).1 = .ok .denied

theorem outcome_report_eq_ok_iff {σ β : Type} (action : Action σ α) (report : α → β) (state : σ)
    (reported : β) :
    ((do let value ← action; return report value : Action σ β).outcome state).1 = .ok reported ↔
      ∃ value, (action.outcome state).1 = .ok value ∧ report value = reported := by
  rw [Action.outcome_bind]
  rcases action.outcome state with ⟨fault | value, later⟩ <;> simp

theorem exitStatus_of_serve {command : Command} {success : Success}
    (succeeds : (command.serve.outcome start.begun).1 = .ok success) :
    (success.exitStatus = 0 ∧ ¬command.Denies start) ∨
      (success.exitStatus = 2 ∧ command.Denies start) := by
  cases command with
  | check userUuid required =>
      rcases (outcome_report_eq_ok_iff _ _ _ _).mp succeeds with ⟨decision, decided, rfl⟩
      cases decision with
      | granted userId reason =>
          refine Or.inl ⟨rfl, ?_⟩
          rintro ⟨_, _, same, denied⟩
          cases same
          rw [decided] at denied
          cases denied
      | denied => exact Or.inr ⟨rfl, _, _, rfl, decided⟩
  | migrate =>
      cases succeeds
      exact Or.inl ⟨rfl, fun ⟨_, _, same, _⟩ => nomatch same⟩
  | seed | roles | permissions | assignDefault | syncPermissions =>
      rcases (outcome_report_eq_ok_iff _ _ _ _).mp succeeds with ⟨_, -, rfl⟩
      exact Or.inl ⟨rfl, fun ⟨_, _, same, _⟩ => nomatch same⟩

def ready (seedFirst : Bool) (start : Shared) : Shared :=
  if seedFirst then ((inUnit (Service.seed Desk.backend)).outcome start).2 else start

theorem outcome_execute {command : Command} (notMigrate : command ≠ .migrate) (seedFirst : Bool)
    (start : Shared) :
    (command.execute seedFirst).outcome start =
      match seedFirst, ((inUnit (Service.seed Desk.backend)).outcome start).1 with
      | true, .error fault => (.error fault, ready true start)
      | _, _ => (inUnit command.serve).outcome (ready seedFirst start) := by
  cases seedFirst with
  | false => exact outcome_perform notMigrate start
  | true =>
      rw [execute, ready, if_pos rfl, ← outcome_perform notMigrate]
      simp only [notMigrate, ne_eq, not_false_eq_true, decide_true, Bool.and_self, if_true,
        Action.outcome_bind]
      rcases (inUnit (Service.seed Desk.backend)).outcome start with ⟨fault | report, later⟩ <;> rfl

/-- The units of work of a command: the one that seeds, if it is to seed first, and its own one,
unless the first one was not kept. -/
theorem execute_disciplined {command : Command} (notMigrate : command ≠ .migrate)
    (seedFirst : Bool) (free : start.link.isFree) :
    ∃ seeding own,
      ((command.execute seedFirst).outcome start).2.link = start.link.sendAll (seeding ++ own) ∧
      (seedFirst = true → Disciplined (Service.seed Desk.backend) start seeding) ∧
      (seedFirst = false → seeding = []) ∧
      (own ≠ [] ↔ (seedFirst = true → start.link.Commits seeding)) ∧
      (own ≠ [] → Disciplined command.serve (ready seedFirst start) own) ∧
      ∀ success, ((command.execute seedFirst).outcome start).1 = .ok success ↔
        (ready seedFirst start).link.Commits own ∧
          (command.serve.outcome (ready seedFirst start).begun).1 = .ok success := by
  rw [outcome_execute notMigrate]
  cases seedFirst with
  | false =>
      rcases inUnit_disciplined (orderly_serve command) free with
        ⟨own, disciplined, isLink, succeeds⟩
      exact ⟨[], own, isLink, by simp, fun _ => rfl, by simp [disciplined.ne_nil],
        fun _ => disciplined, succeeds⟩
  | true =>
      rcases inUnit_disciplined Desk.orderly_seed free with ⟨seeding, seeds, isLink, seeded⟩
      have isReady : (ready true start).link = start.link.sendAll seeding := isLink
      rcases reached : ((inUnit (Service.seed Desk.backend)).outcome start).1 with fault | report
      · have notKept : ¬start.link.Commits seeding := by
          intro commits
          rcases seeds.exists_ok commits with ⟨report, isOk⟩
          rw [(seeded report).mpr ⟨commits, isOk⟩] at reached
          cases reached
        have nothing : ¬(ready true start).link.Commits [] := by
          rintro ⟨earlier, same, -⟩
          simp at same
        exact ⟨seeding, [], by simpa using isReady, fun _ => seeds, by simp, by simp [notKept],
          by simp, by simp [nothing]⟩
      · have kept : start.link.Commits seeding := ((seeded report).mp reached).1
        have freeAgain : (ready true start).link.isFree := by
          rw [isReady]
          exact free
        rcases inUnit_disciplined (orderly_serve command) freeAgain with
          ⟨own, disciplined, isLast, succeeds⟩
        refine ⟨seeding, own, ?_, fun _ => seeds, by simp, by simp [disciplined.ne_nil, kept],
          fun _ => disciplined, succeeds⟩
        rw [← Link.sendAll_sendAll, ← isReady]
        exact isLast

end Command

/-! ## Runs -/

/-- A run as it has to be, for a command that is not the one to create tables. `seeding` and `own`
are the statements of its units of work: it seeds if it is told to, goes on with the command only
if that was committed, prints something only if its own unit was committed, and tells by its exit
status whether it was and what was decided. -/
structure Run.Disciplined (run : Run) (seedFirst : Bool) (command : Command) (start : Shared)
    (seeding own : List Statement) : Prop where
  statements_eq : run.statements = seeding ++ own
  seeds : seedFirst = true → Database.Disciplined (Service.seed Desk.backend) start seeding
  seeds_only : seedFirst = false → seeding = []
  begins_iff : own ≠ [] ↔ (seedFirst = true → start.link.Commits seeding)
  works : own ≠ [] → Database.Disciplined command.serve (Command.ready seedFirst start) own
  prints_iff : ∀ success, run.outcome = .ok success ↔
    (Command.ready seedFirst start).link.Commits own ∧
      (command.serve.outcome (Command.ready seedFirst start).begun).1 = .ok success
  exits_zero_iff : run.exitStatus = 0 ↔
    (Command.ready seedFirst start).link.Commits own ∧
      ¬command.Denies (Command.ready seedFirst start)
  exits_two_iff : run.exitStatus = 2 ↔
    (Command.ready seedFirst start).link.Commits own ∧
      command.Denies (Command.ready seedFirst start)
  fails : ¬(Command.ready seedFirst start).link.Commits own → run.exitStatus = 1

namespace Run

theorem exitStatus_cases {run : Run} {command : Command} {ready : Shared} {own : List Statement}
    (works : own ≠ [] → Database.Disciplined command.serve ready own)
    (prints : ∀ success, run.outcome = .ok success ↔
      ready.link.Commits own ∧ (command.serve.outcome ready.begun).1 = .ok success)
    (isFault : ∀ failure, run.outcome = .error failure → failure.exitStatus = 1) :
    (run.exitStatus = 0 ∧ ready.link.Commits own ∧ ¬command.Denies ready) ∨
      (run.exitStatus = 2 ∧ ready.link.Commits own ∧ command.Denies ready) ∨
      (run.exitStatus = 1 ∧ ¬ready.link.Commits own) := by
  rw [exitStatus]
  by_cases commits : ready.link.Commits own
  · have begun : own ≠ [] := by
      rcases commits with ⟨earlier, rfl, -⟩
      simp
    rcases (works begun).exists_ok commits with ⟨success, isOk⟩
    rw [(prints success).mpr ⟨commits, isOk⟩]
    rcases Command.exitStatus_of_serve isOk with ⟨isZero, allows⟩ | ⟨isTwo, denies⟩
    · exact Or.inl ⟨isZero, commits, allows⟩
    · exact Or.inr (Or.inl ⟨isTwo, commits, denies⟩)
  · rcases isOutcome : run.outcome with failure | success
    · exact Or.inr (Or.inr ⟨isFault failure isOutcome, commits⟩)
    · exact absurd ((prints success).mp isOutcome).1 commits

theorem withSettings_disciplined {site : Site} {settings : Settings} {command : Command}
    {start : Shared} (notMigrate : command ≠ .migrate)
    (prepared : site.prepare settings = .ok start) (fresh : start.link.sent = [])
    (free : start.link.isFree) :
    ∃ seeding own, (withSettings site settings command).Disciplined settings.seed.onStartup command
      start seeding own := by
  rcases Command.execute_disciplined notMigrate settings.seed.onStartup free with
    ⟨seeding, own, isLink, seeds, seedsOnly, begins, works, succeeds⟩
  have sent : (withSettings site settings command).statements =
      ((command.execute settings.seed.onStartup).outcome start).2.link.sent := by
    rw [withSettings, prepared]
  have isOutcome : (withSettings site settings command).outcome =
      ((command.execute settings.seed.onStartup).outcome start).1.mapError .fault := by
    rw [withSettings, prepared]
  generalize ((command.execute settings.seed.onStartup).outcome start).1 = result
    at isOutcome succeeds
  have prints (success : Command.Success) :
      (withSettings site settings command).outcome = .ok success ↔
        (Command.ready settings.seed.onStartup start).link.Commits own ∧
          (command.serve.outcome (Command.ready settings.seed.onStartup start).begun).1 =
            .ok success := by
    rw [isOutcome, ← succeeds success]
    cases result <;> simp [Except.mapError]
  have exits := exitStatus_cases works prints (by
    intro failure isFailure
    rw [isOutcome] at isFailure
    cases result <;> cases isFailure
    rfl)
  refine ⟨seeding, own, ?_, seeds, seedsOnly, begins, works, prints, ?_, ?_, ?_⟩
  · rw [sent, isLink, Link.sendAll, fresh, List.nil_append]
  all_goals
    rcases exits with ⟨isZero, commits, allows⟩ | ⟨isTwo, commits, denies⟩ | ⟨isOne, fails⟩ <;>
      simp [*]

theorem exists_of_bind {ε α β : Type} {first : Except ε α} {next : α → Except ε β} {value : β}
    (reached : first >>= next = .ok value) :
    ∃ middle, first = .ok middle ∧ next middle = .ok value := by
  cases first with
  | error => cases reached
  | ok middle => exact ⟨middle, rfl, reached⟩

theorem connect_eq_ok_iff {site : Site} {settings : DatabaseSettings} {link : Link} :
    site.connect settings = .ok link ↔
      ∃ server, site.database settings.url = some server ∧
        ¬Width.maxSigned64 < site.uptime + settings.acquireTimeout ∧
        settings.acquireMilliseconds ≠ 0 ∧
        link = { server, sent := [], capacity := settings.maxConnections, held := 0 } := by
  rw [Site.connect]
  constructor
  · intro connected
    split at connected
    · rename_i server found
      split at connected
      · cases connected
      · rename_i inTime
        split at connected
        · cases connected
        · rename_i someTime
          cases connected
          exact ⟨server, found, inTime, someTime, rfl⟩
    · cases connected
  · rintro ⟨server, found, inTime, someTime, rfl⟩
    simp only [found, if_neg inTime, if_neg someTime]

theorem prepare_eq_ok_iff {site : Site} {settings : Settings} {start : Shared} :
    site.prepare settings = .ok start ↔
      (∃ setup, Logging.setUp (site.environment.lookup "RUST_LOG") "wd-admin" settings.log.format
        settings.log.level none = .ok setup) ∧
      ∃ link cache queue, site.connect settings.database = .ok link ∧
        site.openCache settings = .ok cache ∧
        Cache.WriteQueue.start? settings.roleCache.queueCapacity settings.roleCache.taskTimeout =
          some queue ∧
        start = { link, ambient := site.ambient, station := ⟨cache, some queue, []⟩ } := by
  constructor
  · intro prepared
    rcases exists_of_bind prepared with ⟨setup, isSetUp, afterSetUp⟩
    rcases exists_of_bind afterSetUp with ⟨link, connected, afterConnect⟩
    rcases exists_of_bind afterConnect with ⟨cache, opened, started⟩
    split at started
    · rename_i queue isQueue
      cases started
      refine ⟨⟨setup, ?_⟩, link, cache, queue, connected, opened, isQueue, rfl⟩
      generalize Logging.setUp _ _ _ _ _ = result at isSetUp ⊢
      cases result <;> cases isSetUp
      rfl
    · cases started
  · rintro ⟨⟨setup, isSetUp⟩, link, cache, queue, connected, opened, isQueue, rfl⟩
    simp only [Site.prepare, isSetUp, connected, opened, isQueue]
    rfl

theorem link_eq_of_prepare {site : Site} {settings : Settings} {start : Shared}
    (prepared : site.prepare settings = .ok start) :
    ∃ server, site.database settings.database.url = some server ∧ start.link =
      { server, sent := [], capacity := settings.database.maxConnections, held := 0 } := by
  rcases prepare_eq_ok_iff.mp prepared with ⟨-, link, cache, queue, connected, -, -, rfl⟩
  rcases connect_eq_ok_iff.mp connected with ⟨server, found, -, -, rfl⟩
  exact ⟨server, found, rfl⟩

theorem link_of_prepare {site : Site} {settings : Settings} {start : Shared}
    (prepared : site.prepare settings = .ok start) (valid : settings.brokenRule? = none) :
    start.link.sent = [] ∧ start.link.isFree := by
  have someConnection : settings.database.maxConnections ≠ 0 := by
    intro noConnection
    simp only [Settings.brokenRule?, noConnection, if_true] at valid
    split at valid <;> cases valid
  rcases link_eq_of_prepare prepared with ⟨server, -, isLink⟩
  rw [isLink]
  exact ⟨rfl, decide_eq_true (Nat.pos_of_ne_zero someConnection)⟩

theorem valid_of_load {source : SettingsSource} {settings : Settings}
    (loaded : Settings.load source = .ok settings) : settings.brokenRule? = none := by
  rw [Settings.load] at loaded
  split at loaded
  all_goals
    rcases exists_of_bind loaded with ⟨_, -, afterFile⟩
    rcases exists_of_bind afterFile with ⟨overridden, -, checked⟩
    split at checked <;> cases checked
    assumption

def source (site : Site) (path : Option String) : SettingsSource where
  folder := site.folder
  environment := site.environment
  path := path <|> site.environment.lookup pathVariable

/-- Every run of a command other than the one to create tables is disciplined, whatever the
settings are and whatever the database answers, unless it cannot even be prepared: then nothing is
sent. -/
theorem ofCommand_disciplined (site : Site) (path : Option String) {command : Command}
    (notMigrate : command ≠ .migrate) :
    (∀ fault, Settings.load (source site path) = .error fault →
      (ofCommand site path command).outcome = .error (.settings fault) ∧
        (ofCommand site path command).statements = [] ∧
        (ofCommand site path command).exitStatus = 1) ∧
    ∀ settings, Settings.load (source site path) = .ok settings →
      (∀ failure, site.prepare settings = .error failure →
        (ofCommand site path command).outcome = .error failure ∧
          (ofCommand site path command).statements = [] ∧
          (ofCommand site path command).exitStatus ∈ [1, 101]) ∧
      ∀ start, site.prepare settings = .ok start →
        ∃ seeding own, (ofCommand site path command).Disciplined settings.seed.onStartup command
          start seeding own := by
  refine ⟨fun fault isFault => ?_, fun settings loaded => ⟨fun failure fails => ?_,
    fun start prepared => ?_⟩⟩
  · have isRun : ofCommand site path command = ⟨.error (.settings fault), [], []⟩ := by
      rw [source] at isFault
      rw [ofCommand, isFault]
    rw [isRun]
    exact ⟨rfl, rfl, rfl⟩
  all_goals
    have isRun : ofCommand site path command = withSettings site settings command := by
      rw [source] at loaded
      rw [ofCommand, loaded]
    rw [isRun]
  · rw [withSettings, fails]
    refine ⟨rfl, rfl, ?_⟩
    cases failure <;> simp [exitStatus, Failure.exitStatus]
  · rcases link_of_prepare prepared (valid_of_load loaded) with ⟨fresh, free⟩
    exact withSettings_disciplined notMigrate prepared fresh free

def deniedSite : Site where
  folder := ⟨[]⟩
  environment := ⟨[Text.bytes "WARDEN_ROLE_CACHE_ENABLED=false"]⟩
  database := fun _ => some (Server.ofAnswers [
    .rows [⟨[("id", .integer 7), ("uuid", .uuid (.ofNat 9)), ("status", .text "ACTIVE")]⟩],
    .rows [⟨[("key", .text "STAFF")]⟩],
    .rows [⟨[("key", .text "READ_USER")]⟩]] [])
  cacheServer := fun _ => none
  ambient := ⟨fun reading => ⟨reading, 0⟩, 0, Uuid.random, 0⟩
  uptime := 0

/-- A check that is denied is told by the exit status only after the unit was committed. -/
theorem ofCommand_disciplined_denied :
    ∃ earlier, (ofCommand deniedSite none (.check (Uuid.ofNat 9).text [.readRole])).statements =
      earlier ++ [.commit] := by
  have isTwo : (ofCommand deniedSite none (.check (Uuid.ofNat 9).text [.readRole])).exitStatus =
      2 := by decide +kernel
  rcases ofCommand_disciplined deniedSite none (by decide :
    Command.check (Uuid.ofNat 9).text [.readRole] ≠ .migrate) with ⟨unreadable, readable⟩
  rcases loaded : Settings.load (source deniedSite none) with fault | settings
  · rw [(unreadable fault loaded).2.2] at isTwo
    cases isTwo
  rcases prepared : deniedSite.prepare settings with failure | start
  · have isFailure := ((readable settings loaded).1 failure prepared).2.2
    rw [isTwo] at isFailure
    exact absurd isFailure (by decide)
  rcases (readable settings loaded).2 start prepared with ⟨seeding, own, disciplined⟩
  rcases (disciplined.exits_two_iff.mp isTwo).1 with ⟨earlier, rfl, -⟩
  exact ⟨seeding ++ earlier, by rw [disciplined.statements_eq, List.append_assoc]⟩

end Run
end Entitlement
