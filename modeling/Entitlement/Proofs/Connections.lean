import Entitlement.Proofs.Capacity
import Entitlement.Proofs.Contracts
import Entitlement.Proofs.RemoteAccess

/-! # Connections

A unit of work on the database holds one of the connections from its start to its end. A user is
looked up on another one. A command has one unit of work at a time, so two connections are enough
for every command. With a single one, a check of a user can never go on: the connection that it
waits for is the one that it holds. -/

namespace Entitlement

open Database

variable {α : Type}

/-! ## Requests -/

namespace Request

/-- Takes a connection besides the one that its unit of work holds. A text that is no identifier
is rejected before anything is asked. -/
def TakesConnection : Request α → Prop
  | userByUuid text => ∃ uuid, Uuid.read text = .ok uuid
  | _ => False

theorem orderly_perform (request : Request α) :
    Orderly Database.Desk.transaction (request.perform Database.Desk.backend) := by
  cases request with
  | enter area => exact Database.Desk.orderly_enter area
  | call asked => exact Database.Desk.orderly_call asked
  | now => exact Database.Desk.orderly_now
  | freshUuid => exact Database.Desk.orderly_freshUuid
  | userByUuid text => exact Database.Desk.orderly_userByUuid text
  | cachedKey uuid => exact .of_silent fun _ => rfl
  | offerKeys batch => exact Database.Desk.orderly_offerKeys batch
  | countDecision decision => exact Database.Desk.orderly_countDecision decision

theorem link_perform (request : Request α) (desk : Database.Desk) :
    ∃ sent, ((request.perform Database.Desk.backend).outcome desk).2.shared.link =
      desk.shared.link.sendAll sent := by
  rcases request.orderly_perform desk with ⟨sent, sends⟩
  exact ⟨sent, congrArg Transaction.link sends.after_eq⟩

theorem disregards_perform (request : Request α) {desk : Database.Desk} {capacity : Nat}
    (free : request.TakesConnection → desk.shared.link.isFree)
    (more : desk.shared.link.capacity ≤ capacity) :
    (request.perform Database.Desk.backend).Disregards (Database.Desk.resize capacity) desk := by
  cases request with
  | userByUuid text =>
      exact Database.Desk.disregards_userByUuid (fun uuid reads => free ⟨uuid, reads⟩) more
  | call asked =>
      exact Database.Desk.disregards_onTransaction (Transaction.disregards_perform asked _)
  | enter | now | freshUuid | cachedKey | offerKeys | countDecision => rfl

end Request

/-! ## Databases that answer, and connections that are not free -/

namespace Database

def Server.RefusesNothing (server : Server) : Prop :=
  ∀ sent statement state, server sent statement ≠ .refused state

theorem Server.RefusesNothing.accepts {link : Link} (answers : link.server.RefusesNothing)
    (statement : Statement) : ¬link.Refuses statement := by
  rintro ⟨state, refused⟩
  exact answers link.sent statement state refused

theorem Server.refusesNothing_ofAnswers {answers : List Answer}
    (none : ∀ answer ∈ answers, ∀ state, answer ≠ .refused state) :
    (ofAnswers answers []).RefusesNothing := by
  intro sent statement state
  rw [ofAnswers, if_neg (by simp)]
  split
  · simp
  · generalize (sent.filter fun earlier => !earlier.isBoundary).length = place
    cases found : answers[place]? with
    | none => simp
    | some answer => exact none answer (List.mem_of_getElem? found) state

theorem Shared.isFree_begun (shared : Shared) :
    shared.begun.shared.link.isFree = decide (shared.link.held + 1 < shared.link.capacity) := rfl

end Database

namespace Database.Desk

variable {desk : Desk}

theorem outcome_userByUuid_of_not_isFree (notFree : ¬desk.shared.link.isFree) (text : String) :
    ∃ fault, (backend.userByUuid text).outcome desk = (.error fault, desk) := by
  cases reads : Uuid.read text with
  | ok uuid =>
      refine ⟨Operation.userByUuid.failure, ?_⟩
      rw [outcome_userByUuid desk reads, Link.userRows?, if_neg notFree, if_neg notFree]
  | error misspelling =>
      refine ⟨.invalidBody "user_uuid" misspelling.message, ?_⟩
      change (onLink (Link.userByUuid text)).outcome desk = _
      rw [onLink, Action.onPart, Action.outcome_ofOutcome, Link.userByUuid, reads]
      rfl

end Database.Desk

/-! ## Programs -/

def Contract.takesNoConnection : Contract where
  may request := ¬request.TakesConnection
  tells _ _ := True

theorem Contract.isFairToAnonymous_takesNoConnection : takesNoConnection.IsFairToAnonymous where
  plain := by
    intro α request _ anonymous takes
    cases request with
    | userByUuid => cases anonymous
    | _ => exact takes
  creates _ _ takes := takes
  updates _ _ _ _ _ takes := takes
  offers _ _ takes := takes

namespace Program

def Starves : Program α → Database.Desk → Prop
  | ended _, _ => False
  | ask request next, desk =>
      let answered := (request.perform Database.Desk.backend).outcome desk
      (request.TakesConnection ∧ ¬desk.shared.link.isFree) ∨ (next answered.1).Starves answered.2

theorem starves_ask {β : Type} {request : Request β} {next : Except Fault β → Program α}
    {desk : Database.Desk} : (ask request next).Starves desk ↔
      (request.TakesConnection ∧ ¬desk.shared.link.isFree) ∨
        (next ((request.perform Database.Desk.backend).outcome desk).1).Starves
          ((request.perform Database.Desk.backend).outcome desk).2 := Iff.rfl

/-- A connection besides that of the unit of work is enough for every program, since it is given
back after every request. -/
theorem not_starves_of_isFree (program : Program α) {desk : Database.Desk}
    (free : desk.shared.link.isFree) : ¬program.Starves desk := by
  induction program generalizing desk with
  | ended result => exact id
  | ask request next induction =>
      rw [starves_ask]
      rintro (⟨-, notFree⟩ | later)
      · exact notFree free
      · refine induction _ ?_ later
        rcases request.link_perform desk with ⟨sent, isLink⟩
        rw [isLink]
        exact free

theorem disregards_servedBy (program : Program α) {desk : Database.Desk} {capacity : Nat}
    (feeds : ¬program.Starves desk) (more : desk.shared.link.capacity ≤ capacity) :
    (program.servedBy Database.Desk.backend).Disregards (Database.Desk.resize capacity) desk := by
  induction program generalizing desk with
  | ended result => cases result <;> rfl
  | ask request next induction =>
      rw [starves_ask, not_or, not_and_not_right] at feeds
      have answered := request.disregards_perform feeds.1 more
      rcases request.link_perform desk with ⟨sent, isLink⟩
      rw [Action.Disregards] at answered ⊢
      simp only [servedBy, Action.outcome_ofOutcome, answered]
      refine induction _ feeds.2 ?_
      rw [isLink]
      exact more

theorem not_starves_of_obeys {ends : α → Prop} {program : Program α}
    (obeys : program.Obeys .takesNoConnection ends) (desk : Database.Desk) :
    ¬program.Starves desk := by
  induction program generalizing desk with
  | ended result => exact id
  | ask request next induction =>
      have obeys := obeys_ask.mp obeys
      rw [starves_ask]
      rintro (⟨takes, -⟩ | later)
      · exact obeys.1 takes
      · rcases reached : (request.perform Database.Desk.backend).outcome desk with
          ⟨fault | value, left⟩
        all_goals rw [reached] at later
        · exact induction _ (obeys.2.1 fault) left later
        · exact induction _ (obeys.2.2 value True.intro) left later

/-- A program that looks a user up first, and gives up without one, waits at once or never. -/
theorem starves_userByUuid_iff (text : String) (next : Except Fault User → Program α)
    (desk : Database.Desk) (givesUp : ∀ fault, next (.error fault) = ended (.error fault)) :
    (ask (.userByUuid text) next).Starves desk ↔
      ¬desk.shared.link.isFree ∧ ∃ uuid, Uuid.read text = .ok uuid := by
  constructor
  · intro starves
    have notFree : ¬desk.shared.link.isFree := fun free => not_starves_of_isFree _ free starves
    rcases Database.Desk.outcome_userByUuid_of_not_isFree notFree text with ⟨fault, fails⟩
    rw [starves_ask, Request.perform, fails] at starves
    rcases starves with lacks | later
    · exact lacks.symm
    · rw [givesUp] at later
      exact later.elim
  · exact fun lacks => Or.inl lacks.symm

end Program

/-! ## Tasks -/

namespace Task

def LooksUp : Task α → Prop
  | checkAccess userUuid _ | effectivePermissions userUuid => ∃ uuid, Uuid.read userUuid = .ok uuid
  | _ => False

/-- At some time, a unit of work for a task has to wait for a connection while none is free: to
begin, or in the course of the task. -/
def Starves (task : Task α) (start : Shared) : Prop :=
  ¬start.link.isFree ∨
    ¬start.link.Refuses .begin ∧ (task.perform Program.backend).Starves start.begun

theorem starves_perform_iff (task : Task α) (desk : Database.Desk) :
    (task.perform Program.backend).Starves desk ↔ ¬desk.shared.link.isFree ∧ task.LooksUp := by
  cases looksUp : task.looksUpUser with
  | false =>
      have obeys := task.obeys_of_anonymous Contract.isFairToAnonymous_takesNoConnection looksUp
        fun _ _ _ takes => takes
      have never : ¬task.LooksUp := by
        cases task with
        | checkAccess | effectivePermissions => cases looksUp
        | _ => exact id
      exact iff_of_false (Program.not_starves_of_obeys obeys desk) fun lacks => never lacks.2
  | true =>
      cases task with
      | checkAccess text required => exact Program.starves_userByUuid_iff _ _ desk (by intro; rfl)
      | effectivePermissions text => exact Program.starves_userByUuid_iff _ _ desk (by intro; rfl)
      | _ => cases looksUp

theorem starves_iff (task : Task α) {start : Shared} (free : start.link.isFree)
    (accepts : ¬start.link.Refuses .begin) :
    task.Starves start ↔ ¬start.begun.shared.link.isFree ∧ task.LooksUp := by
  rw [Starves, starves_perform_iff]
  exact ⟨fun starves => (starves.resolve_left (not_not.mpr free)).2,
    fun lacks => Or.inr ⟨accepts, lacks⟩⟩

/-- A unit of work that never waits in vain does the same with any more connections. -/
theorem disregards_inUnit (task : Task α) {start : Shared} {capacity : Nat}
    (feeds : ¬task.Starves start) (more : start.link.capacity ≤ capacity) :
    (Command.inUnit (task.perform Database.Desk.backend)).Disregards (Shared.resize capacity)
      start := by
  rw [Starves, not_or, not_not, not_and] at feeds
  refine Command.disregards_inUnit feeds.1 more fun accepts => ?_
  rw [← task.servedBy_perform]
  exact Program.disregards_servedBy _ (feeds.2 accepts) more

end Task

/-! ## Commands -/

namespace Command

def task? : Command → Option (Sigma Task)
  | .migrate => none
  | .seed => some ⟨_, .seed⟩
  | .roles => some ⟨_, .listRoles⟩
  | .permissions => some ⟨_, .listPermissions⟩
  | .check userUuid required => some ⟨_, .checkAccess userUuid required⟩
  | .assignDefault userId => some ⟨_, .assignUserRole userId⟩
  | .syncPermissions roleUuid permissionUuids =>
      some ⟨_, .syncPermissions roleUuid permissionUuids⟩

theorem task?_eq_none_iff {command : Command} : command.task? = none ↔ command = .migrate := by
  cases command <;> simp [task?]

theorem perform_of_task? {command : Command} {task : Task α}
    (isTask : command.task? = some ⟨α, task⟩) :
    ∃ report : α → Success, command.perform =
      (do let value ← inUnit (task.perform Database.Desk.backend); return report value) := by
  cases command <;> cases isTask <;> exact ⟨_, rfl⟩

def Seeds (seedFirst : Bool) (start : Shared) : Prop :=
  seedFirst = true →
    ∃ report, ((inUnit (Service.seed Database.Desk.backend)).outcome start).1 = .ok report

/-- At some time, a command has to wait for a connection while none is free: in the unit of work
that seeds, in its own one, or to create the tables. -/
def Starves (seedFirst : Bool) (command : Command) (start : Shared) : Prop :=
  match command.task? with
  | none => ¬start.link.isFree
  | some ⟨_, task⟩ =>
      (seedFirst = true ∧ Task.seed.Starves start) ∨
        (Seeds seedFirst start ∧ task.Starves (ready seedFirst start))

variable {start : Shared}

theorem link_ready (free : start.link.isFree) (seedFirst : Bool) :
    ∃ seeding, (ready seedFirst start).link = start.link.sendAll seeding := by
  cases seedFirst with
  | false => exact ⟨[], Link.sendAll_nil.symm⟩
  | true =>
      rcases inUnit_disciplined Database.Desk.orderly_seed free with ⟨seeding, -, isLink, -⟩
      exact ⟨seeding, isLink⟩

theorem connections_ready (free : start.link.isFree) (seedFirst : Bool) :
    (ready seedFirst start).link.isFree ∧
      (ready seedFirst start).begun.shared.link.isFree = start.begun.shared.link.isFree ∧
      (ready seedFirst start).link.server = start.link.server := by
  rcases link_ready free seedFirst with ⟨seeding, isLink⟩
  simp only [Shared.begun, isLink]
  exact ⟨free, rfl, rfl⟩

theorem looksUp_iff_of_task? {command : Command} {task : Task α}
    (isTask : command.task? = some ⟨α, task⟩) :
    task.LooksUp ↔ ∃ userUuid required uuid, command = .check userUuid required ∧
      Uuid.read userUuid = .ok uuid := by
  cases command with
  | check userUuid required =>
      cases isTask
      simp [Task.LooksUp]
  | migrate => cases isTask
  | seed | roles | permissions | assignDefault | syncPermissions =>
      cases isTask
      simp [Task.LooksUp]

/-- Only checks wait, and only if the connection of their unit of work is the only one. -/
theorem starves_iff (command : Command) (seedFirst : Bool) (free : start.link.isFree)
    (answers : start.link.server.RefusesNothing) :
    command.Starves seedFirst start ↔
      ¬start.begun.shared.link.isFree ∧
        (∃ userUuid required uuid, command = .check userUuid required ∧
          Uuid.read userUuid = .ok uuid) ∧
        Seeds seedFirst start := by
  rcases connections_ready free seedFirst with ⟨freeAgain, sameBegun, sameServer⟩
  have acceptsAgain : ¬(ready seedFirst start).link.Refuses .begin := by
    rw [← sameServer] at answers
    exact answers.accepts _
  have seeding : ¬Task.seed.Starves start := by
    rw [Task.starves_iff _ free (answers.accepts _)]
    exact fun lacks => lacks.2
  rw [Starves]
  split
  · rename_i isMigrate
    refine iff_of_false (not_not.mpr free) ?_
    rintro ⟨-, ⟨userUuid, required, uuid, rfl, -⟩, -⟩
    cases isMigrate
  · rename_i Result task isTask
    rw [Task.starves_iff _ freeAgain acceptsAgain, sameBegun, looksUp_iff_of_task? isTask]
    constructor
    · rintro (⟨-, waits⟩ | ⟨seeds, notFree, looksUp⟩)
      · exact absurd waits seeding
      · exact ⟨notFree, looksUp, seeds⟩
    · rintro ⟨notFree, looksUp, seeds⟩
      exact Or.inr ⟨seeds, notFree, looksUp⟩

theorem disregards_migrate {capacity : Nat} (free : start.link.isFree)
    (more : start.link.capacity ≤ capacity) :
    migrate.perform.Disregards (Shared.resize capacity) start := by
  rw [perform, onLink]
  refine .bind (.onPart ?_ rfl fun _ => rfl) fun _ _ _ => .pure _
  exact .bind (Link.disregards_ask _ _ free more) fun _ _ _ => .pure _

theorem disregards_execute (command : Command) {seedFirst : Bool} {capacity : Nat}
    (free : start.link.isFree) (feeds : ¬command.Starves seedFirst start)
    (more : start.link.capacity ≤ capacity) :
    (command.execute seedFirst).Disregards (Shared.resize capacity) start := by
  rw [Starves] at feeds
  split at feeds
  · rename_i isMigrate
    cases task?_eq_none_iff.mp isMigrate
    have performs : migrate.execute seedFirst = migrate.perform := by simp [execute]
    rw [performs]
    exact disregards_migrate free more
  · rename_i Result task isTask
    rw [not_or, not_and, not_and] at feeds
    have own (seeds : Seeds seedFirst start) :
        command.perform.Disregards (Shared.resize capacity) (ready seedFirst start) := by
      rcases perform_of_task? isTask with ⟨report, performs⟩
      rcases link_ready free seedFirst with ⟨seeding, isLink⟩
      rw [performs]
      refine .bind (task.disregards_inUnit (feeds.2 seeds) ?_) fun _ _ _ => .pure _
      rw [isLink]
      exact more
    cases seedFirst with
    | false =>
        have performs : command.execute false = command.perform := by simp [execute]
        rw [performs]
        exact own fun never => absurd never Bool.false_ne_true
    | true =>
        have notMigrate : command ≠ .migrate := by
          rintro rfl
          cases isTask
        have performs : command.execute true =
            (do let _ ← inUnit (Service.seed Database.Desk.backend); command.perform) := by
          simp [execute, notMigrate]
        rw [performs]
        refine .bind (Task.seed.disregards_inUnit (feeds.1 rfl) more) fun report later seeded => ?_
        have seeded : (inUnit (Service.seed Database.Desk.backend)).outcome start =
          (.ok report, later) := seeded
        have isReady : ready true start = later := by rw [ready, if_pos rfl, seeded]
        rw [← isReady]
        exact own fun _ => ⟨report, by rw [seeded]⟩

theorem outcome_execute_of_starves {userUuid : String} {uuid : Uuid}
    (reads : Uuid.read userUuid = .ok uuid) (required : List PermissionKey) {seedFirst : Bool}
    (free : start.link.isFree) (answers : start.link.server.RefusesNothing)
    (notFree : ¬start.begun.shared.link.isFree) (seeds : Seeds seedFirst start) :
    ((check userUuid required).execute seedFirst).outcome start =
      (.error Operation.userByUuid.failure, (ready seedFirst start).begun.closed .rollback) := by
  rcases connections_ready free seedFirst with ⟨freeAgain, sameBegun, sameServer⟩
  rw [← sameBegun] at notFree
  rw [← sameServer] at answers
  have unserved : ((check userUuid required).serve).outcome (ready seedFirst start).begun =
      (.error Operation.userByUuid.failure, (ready seedFirst start).begun) := by
    have unknown : (Service.activeUser Database.Desk.backend userUuid).outcome
        (ready seedFirst start).begun =
          (.error Operation.userByUuid.failure, (ready seedFirst start).begun) := by
      simp only [Service.activeUser, Action.outcome_bind, Database.Desk.outcome_userByUuid _ reads,
        Link.userRows?, if_neg notFree]
    simp only [serve, Action.outcome_bind, Database.Desk.outcome_checkAccess_of_error unknown]
  have ended := outcome_inUnit_of_error freeAgain (answers.accepts _) unserved rfl
  rw [outcome_execute (by simp)]
  cases seedFirst with
  | false => exact ended
  | true =>
      rcases seeds rfl with ⟨report, seeded⟩
      rw [seeded]
      exact ended

end Command

/-! ## Runs -/

def Settings.withConnections (connections : Nat) (settings : Settings) : Settings :=
  { settings with database := { settings.database with maxConnections := connections } }

namespace Run

theorem prepare_withConnections {site : Site} {settings : Settings} {start : Shared}
    (prepared : site.prepare settings = .ok start) (connections : Nat) :
    site.prepare (settings.withConnections connections) = .ok (start.resize connections) := by
  rcases prepare_eq_ok_iff.mp prepared with
    ⟨isSetUp, link, cache, queue, connected, opened, isQueue, rfl⟩
  rcases connect_eq_ok_iff.mp connected with ⟨server, found, inTime, someTime, rfl⟩
  exact prepare_eq_ok_iff.mpr ⟨isSetUp, _, cache, queue,
    connect_eq_ok_iff.mpr ⟨server, found, inTime, someTime, rfl⟩, opened, isQueue, rfl⟩

theorem withSettings_withConnections {site : Site} {settings : Settings} {command : Command}
    {start : Shared} {connections : Nat} (prepared : site.prepare settings = .ok start)
    (free : start.link.isFree) (feeds : ¬command.Starves settings.seed.onStartup start)
    (more : start.link.capacity ≤ connections) :
    withSettings site (settings.withConnections connections) command =
      withSettings site settings command := by
  have executed := command.disregards_execute free feeds more
  have sameSeed : (settings.withConnections connections).seed = settings.seed := rfl
  rw [Action.Disregards] at executed
  rw [withSettings, withSettings, prepare_withConnections prepared, prepared]
  simp only [sameSeed, executed]
  rfl

/-- Settings that keep the rules leave a command waiting for its own connection exactly if it is a
check of a user and there is only one connection, unless seeding fails before: then nobody is
looked up. The check fails, and nothing is left of its unit of work. Every other command does what
it does with any more connections. -/
theorem starves_on_one_connection_iff {site : Site} {settings : Settings} {start : Shared}
    (valid : settings.brokenRule? = none) (prepared : site.prepare settings = .ok start)
    (answers : start.link.server.RefusesNothing) (command : Command) :
    (command.Starves settings.seed.onStartup start ↔
      settings.database.maxConnections = 1 ∧
        (∃ userUuid required uuid, command = .check userUuid required ∧
          Uuid.read userUuid = .ok uuid) ∧
        Command.Seeds settings.seed.onStartup start) ∧
    (command.Starves settings.seed.onStartup start →
      let run := withSettings site settings command
      run.outcome = .error (.fault (.server "user.get_by_uuid")) ∧
        run.exitStatus = 1 ∧
        run.statements =
          (Command.ready settings.seed.onStartup start).link.sent ++ [.begin, .rollback]) ∧
    (¬command.Starves settings.seed.onStartup start →
      ∀ connections, settings.database.maxConnections ≤ connections →
        withSettings site (settings.withConnections connections) command =
          withSettings site settings command) := by
  rcases link_of_prepare prepared valid with ⟨-, free⟩
  rcases link_eq_of_prepare prepared with ⟨server, -, isLink⟩
  have isCapacity : start.link.capacity = settings.database.maxConnections := by rw [isLink]
  have noneHeld : start.link.held = 0 := by rw [isLink]
  have onlyOne : ¬start.begun.shared.link.isFree ↔ settings.database.maxConnections = 1 := by
    simp only [Link.isFree, decide_eq_true_eq] at free
    rw [Shared.isFree_begun, decide_eq_true_eq]
    omega
  have starves := command.starves_iff settings.seed.onStartup free answers
  rw [onlyOne] at starves
  refine ⟨starves, fun waits => ?_, fun feeds connections more => ?_⟩
  · rcases starves.mp waits with ⟨isOne, ⟨userUuid, required, uuid, rfl, reads⟩, seeds⟩
    have ended := Command.outcome_execute_of_starves reads required free answers
      (onlyOne.mpr isOne) seeds
    simp only [withSettings, prepared, ended]
    refine ⟨rfl, rfl, ?_⟩
    simp [Desk.closed, Shared.begun, Link.sendAll]
  · exact withSettings_withConnections prepared free feeds (isCapacity ▸ more)

def crampedSettings : Settings where
  database := { maxConnections := 1 }
  roleCache := { enabled := false }

theorem exists_prepare_crampedSettings :
    ∃ start, deniedSite.prepare crampedSettings = .ok start ∧
      start.link.server.RefusesNothing := by
  have isPrepared : (deniedSite.prepare crampedSettings).toOption.isSome = true := by
    decide +kernel
  rcases prepared : deniedSite.prepare crampedSettings with failure | start
  · rw [prepared] at isPrepared
    cases isPrepared
  · rcases link_eq_of_prepare prepared with ⟨server, found, isLink⟩
    refine ⟨start, rfl, ?_⟩
    rw [isLink]
    cases found
    exact Server.refusesNothing_ofAnswers (by simp)

theorem starves_on_one_connection_iff_crampedSettings :
    (withSettings deniedSite crampedSettings
        (.check (Uuid.ofNat 9).text [.readRole])).statements = [.begin, .rollback] ∧
      withSettings deniedSite (crampedSettings.withConnections 2) .roles =
        withSettings deniedSite crampedSettings .roles := by
  have valid : crampedSettings.brokenRule? = none := by decide +kernel
  rcases exists_prepare_crampedSettings with ⟨start, prepared, answers⟩
  have noSeeding : Command.Seeds crampedSettings.seed.onStartup start :=
    fun never => absurd never Bool.false_ne_true
  have check := starves_on_one_connection_iff valid prepared answers
    (.check (Uuid.ofNat 9).text [.readRole])
  have roles := starves_on_one_connection_iff valid prepared answers .roles
  constructor
  · have isCheck : ∃ userUuid required uuid,
        Command.check (Uuid.ofNat 9).text [.readRole] = .check userUuid required ∧
          Uuid.read userUuid = .ok uuid := ⟨_, _, .ofNat 9, rfl, by decide⟩
    rw [(check.2.1 (check.1.mpr ⟨rfl, isCheck, noSeeding⟩)).2.2]
    change start.link.sent ++ _ = _
    rw [(link_of_prepare prepared valid).1]
    rfl
  · refine roles.2.2 (fun starves => ?_) 2 (by decide)
    rcases (roles.1.mp starves).2.1 with ⟨_, _, _, isRoles, -⟩
    cases isRoles

/-- A database that answers everything, and settings that keep all rules, do not prevent a command
from waiting for the connection that it holds. -/
theorem check_waits_for_itself :
    crampedSettings.brokenRule? = none ∧
      ∃ start, deniedSite.prepare crampedSettings = .ok start ∧
        start.link.server.RefusesNothing ∧
        (Command.check (Uuid.ofNat 9).text [.readRole]).Starves
          crampedSettings.seed.onStartup start := by
  have valid : crampedSettings.brokenRule? = none := by decide +kernel
  rcases exists_prepare_crampedSettings with ⟨start, prepared, answers⟩
  refine ⟨valid, start, prepared, answers, ?_⟩
  rw [Command.starves_iff _ _ (link_of_prepare prepared valid).2 answers]
  refine ⟨?_, ⟨_, _, .ofNat 9, rfl, by decide⟩,
    fun never => absurd never Bool.false_ne_true⟩
  rcases link_eq_of_prepare prepared with ⟨server, -, isLink⟩
  rw [Shared.isFree_begun, isLink]
  exact Bool.false_ne_true

end Run

end Entitlement
