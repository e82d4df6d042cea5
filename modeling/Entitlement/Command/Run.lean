import Entitlement.Command.Arguments
import Entitlement.Database.Desk
import Entitlement.Json.Printer
import Entitlement.Logging.Setup
import Entitlement.Service.Access
import Entitlement.Service.Seeding
import Entitlement.Settings.Loading

/-! # Running a command

A command runs in one unit of work, which is committed if the command succeeds and
rolled back if it fails. What a command prints is printed only after its changes are
kept. -/

namespace Entitlement

open Database Cache

/-! ## Units of work -/

namespace Command

variable {α : Type}

/-- Does something in a unit of work of its own: commits if it succeeds, rolls back if it
fails. A rollback that fails does not matter. -/
def inUnit (action : Action Desk α) : Action Shared α :=
  Action.onPart (fun shared => ⟨.idle, shared⟩) (fun _ desk => desk.shared) do
    Desk.onTransaction Transaction.begin
    let value ← tryCatch action fun fault => do
      tryCatch (Desk.onTransaction Transaction.rollback) fun _ => pure ()
      throw fault
    Desk.onTransaction Transaction.commit
    return value

def onLink (action : Action Link α) : Action Shared α :=
  Action.onPart (·.link) (fun shared link => { shared with link }) action

/-! ## Commands -/

structure Success where
  output : String
  exitStatus : Nat := 0
deriving DecidableEq

def seedLine (report : Service.SeedReport) : String :=
  "Created " ++ toString report.permissionsCreated ++ " permissions and " ++
    toString report.rolesCreated ++ " roles"

def assignedLine (userId : Int) (role : Role) : String :=
  "User " ++ toString userId ++ " now holds role " ++ role.key.name ++ " (" ++ role.uuid.text ++ ")"

def perform : Command → Action Shared Success
  | .migrate => do
      onLink Link.createTables
      return ⟨"Schema is up to date", 0⟩
  | .seed => do
      let report ← inUnit (Service.seed Desk.backend)
      return ⟨seedLine report, 0⟩
  | .roles => do
      let roles ← inUnit (Service.listRoles Desk.backend)
      return ⟨(Json.list (roles.map Role.toJson)).pretty, 0⟩
  | .permissions => do
      let permissions ← inUnit (Service.listPermissions Desk.backend)
      return ⟨(Json.list (permissions.map Permission.toJson)).pretty, 0⟩
  | .check userUuid required => do
      let decision ← inUnit (Service.checkAccess Desk.backend userUuid required)
      return ⟨decision.toJson.pretty, if decision.isAllowed then 0 else 2⟩
  | .assignDefault userId => do
      let role ← inUnit (Service.assignUserRole Desk.backend userId)
      return ⟨assignedLine userId role, 0⟩
  | .syncPermissions roleUuid permissionUuids => do
      let bundle ← inUnit (Service.syncPermissions Desk.backend roleUuid permissionUuids)
      return ⟨bundle.toJson.pretty, 0⟩

/-- Carries out a command, after seeding if every command is to seed first. Creating the
tables is never preceded by anything. -/
def execute (seedFirst : Bool) (command : Command) : Action Shared Success := do
  if seedFirst && command ≠ .migrate then
    let _ ← inUnit (Service.seed Desk.backend)
  command.perform

end Command

/-! ## The program -/

inductive Collapse where
  | directive
  | endlessWait
  | queueLength
deriving DecidableEq

def Collapse.message : Collapse → String
  | directive => "a log directive breaks within a character"
  | endlessWait => "the wait for a connection is too long"
  | queueLength => "the queue in front of the cache is too long"

inductive Failure where
  | settings (fault : SettingsFault)
  | logging (fault : Logging.SetupFault)
  | database
  | cacheServer
  | fault (fault : Fault)
  | collapse (collapse : Collapse)
deriving DecidableEq

namespace Failure

/-- The wording of a failure, with its cause if the wording does not tell it. A cause that
has a cause of its own is numbered. -/
def lines : Failure → String × Option String
  | settings cause =>
      let number := if cause.hasCause then "0: " else ""
      ("Failed to load configuration", some (number ++ cause.message))
  | logging cause => (cause.message, none)
  | database => ("Failed to connect to PostgreSQL", none)
  | cacheServer => ("Failed to connect to Redis", none)
  | fault cause => (cause.message, none)
  | collapse cause => (cause.message, none)

def report (failure : Failure) : String :=
  match failure.lines with
  | (line, none) => "Error: " ++ line
  | (line, some cause) => "Error: " ++ line ++ "\n\nCaused by:\n    " ++ cause

def exitStatus : Failure → Nat
  | collapse _ => 101
  | _ => 1

def ofLogging : Logging.SetupFault → Failure
  | .invalidDirective _ .splitCharacter => collapse .directive
  | cause => logging cause

end Failure

structure Site where
  folder : Folder
  environment : Environment
  database : String → Option Server
  cacheServer : String → Option ValueServer
  ambient : Ambient
  /-- How many seconds the machine has been running. -/
  uptime : Nat

namespace Site

/-- Connects to the database. Without any time to do so, it fails. The end of the time is
counted in seconds from the start of the machine, in 64 bits with a sign. -/
def connect (site : Site) (settings : DatabaseSettings) : Except Failure Link :=
  match site.database settings.url with
  | some server =>
      if Width.maxSigned64 < site.uptime + settings.acquireTimeout then
        .error (.collapse .endlessWait)
      else if settings.acquireMilliseconds = 0 then .error .database
      else .ok { server, sent := [], capacity := settings.maxConnections, held := 0 }
  | none => .error .database

def openCache (site : Site) (settings : Settings) : Except Failure RoleCache :=
  if settings.roleCache.enabled then
    match site.cacheServer settings.cacheServer.url with
    | some server =>
        .ok (.remote
          ⟨server, settings.cacheServer.nameSpace, settings.cacheServer.lifetimeMilliseconds⟩)
    | none => .error .cacheServer
  else .ok (.memory Memory.empty)

def prepare (site : Site) (settings : Settings) : Except Failure Shared := do
  let _ ← (Logging.setUp (site.environment.lookup "RUST_LOG") "wd-admin" settings.log.format
    settings.log.level none).mapError .ofLogging
  let link ← site.connect settings.database
  let cache ← site.openCache settings
  match WriteQueue.start? settings.roleCache.queueCapacity settings.roleCache.taskTimeout with
  | some queue => return { link, ambient := site.ambient, station := ⟨cache, some queue, []⟩ }
  | none => throw (.collapse .queueLength)

end Site

structure Run where
  outcome : Except Failure Command.Success
  statements : List Statement
  cacheCommands : List Cache.Command

namespace Run

def commandsOf : RoleCache → List Cache.Command
  | .memory _ => []
  | .remote cache => cache.server.received

def exitStatus (run : Run) : Nat :=
  match run.outcome with
  | .ok success => success.exitStatus
  | .error failure => failure.exitStatus

/-- Runs the program with settings that are loaded. The queue in front of the cache is
worked off at the end, whatever becomes of the command. -/
def withSettings (site : Site) (settings : Settings) (command : Command) : Run :=
  match site.prepare settings with
  | .error failure => ⟨.error failure, [], []⟩
  | .ok shared =>
      let (result, shared) := (command.execute settings.seed.onStartup).outcome shared
      let station := shared.station.shutdown RoleCache.writer
      ⟨result.mapError .fault, shared.link.sent, commandsOf station.cache⟩

def pathVariable : String := "WARDEN_CONFIG"

def ofCommand (site : Site) (path : Option String) (command : Command) : Run :=
  let source : SettingsSource :=
    { folder := site.folder, environment := site.environment,
      path := path <|> site.environment.lookup pathVariable }
  match Settings.load source with
  | .error fault => ⟨.error (.settings fault), [], []⟩
  | .ok settings => withSettings site settings command

def presetOf (environment : Environment) : Arguments.Preset :=
  match environment.value? pathVariable with
  | none => .missing
  | some value => if (Text.ofBytes? value).isSome then .text else .notText

def ofArguments (site : Site) (arguments : List String) : Except ArgumentFault Run :=
  (Arguments.read (presetOf site.environment) arguments).map
    fun (path, command) => ofCommand site path command

end Run
end Entitlement
