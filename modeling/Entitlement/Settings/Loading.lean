import Entitlement.Settings.Folder
import Entitlement.Settings.Misfit
import Entitlement.Text.Numeral
import Entitlement.Text.Position
import Entitlement.Toml.Reader

/-! # Loading settings

Settings come from the first settings file that is found, if any. Variables of the
environment replace single settings. The result has to keep the rules of settings. -/

namespace Entitlement

inductive SettingsFault where
  | unreadableFile (fault : PathFault)
  | malformedFile (position : Position)
  | badVariable (name value : String)
  | badFormat (unknown : Logging.UnknownFormat)
  | broken (rule : Settings.Rule)
deriving DecidableEq

def SettingsFault.message : SettingsFault → String
  | unreadableFile fault => "Failed to read config file: " ++ fault.message
  | malformedFile position =>
      "Failed to parse TOML: TOML parse error at line " ++ toString position.line ++ ", column " ++
        toString position.column
  | badVariable name value =>
      "Environment variable error: " ++ name ++ " has an invalid value: " ++ value
  | badFormat unknown => "Environment variable error: " ++ unknown.message
  | broken rule => "Invalid configuration: " ++ rule.message

def SettingsFault.hasCause : SettingsFault → Bool
  | unreadableFile _ | malformedFile _ => true
  | badVariable _ _ | badFormat _ | broken _ => false

/-! ## Single settings -/

inductive Setting : Type → Type where
  | databaseUrl : Setting String
  | maxConnections : Setting Nat
  | acquireTimeout : Setting Nat
  | cacheUrl : Setting String
  | nameSpace : Setting String
  | lifetime : Setting Nat
  | cacheEnabled : Setting Bool
  | queueCapacity : Setting Nat
  | taskTimeout : Setting Nat
  | logFormat : Setting Logging.Format
  | logLevel : Setting String
  | seedOnStartup : Setting Bool

namespace Setting

variable {α : Type}

def variableEnd : Setting α → String
  | databaseUrl => "DATABASE_URL"
  | maxConnections => "DATABASE_MAX_CONNECTIONS"
  | acquireTimeout => "DATABASE_ACQUIRE_TIMEOUT_SECS"
  | cacheUrl => "REDIS_URL"
  | nameSpace => "REDIS_KEY_PREFIX"
  | lifetime => "REDIS_TTL_SECS"
  | cacheEnabled => "ROLE_CACHE_ENABLED"
  | queueCapacity => "ROLE_CACHE_QUEUE_CAPACITY"
  | taskTimeout => "ROLE_CACHE_TASK_TIMEOUT_MS"
  | logFormat => "LOG_FORMAT"
  | logLevel => "LOG_LEVEL"
  | seedOnStartup => "SEED_ON_STARTUP"

def get : Setting α → Settings → α
  | databaseUrl, settings => settings.database.url
  | maxConnections, settings => settings.database.maxConnections
  | acquireTimeout, settings => settings.database.acquireTimeout
  | cacheUrl, settings => settings.cacheServer.url
  | nameSpace, settings => settings.cacheServer.nameSpace
  | lifetime, settings => settings.cacheServer.lifetime
  | cacheEnabled, settings => settings.roleCache.enabled
  | queueCapacity, settings => settings.roleCache.queueCapacity
  | taskTimeout, settings => settings.roleCache.taskTimeout
  | logFormat, settings => settings.log.format
  | logLevel, settings => settings.log.level
  | seedOnStartup, settings => settings.seed.onStartup

def put : Setting α → α → Settings → Settings
  | databaseUrl, value, settings =>
      { settings with database := { settings.database with url := value } }
  | maxConnections, value, settings =>
      { settings with database := { settings.database with maxConnections := value } }
  | acquireTimeout, value, settings =>
      { settings with database := { settings.database with acquireTimeout := value } }
  | cacheUrl, value, settings =>
      { settings with cacheServer := { settings.cacheServer with url := value } }
  | nameSpace, value, settings =>
      { settings with cacheServer := { settings.cacheServer with nameSpace := value } }
  | lifetime, value, settings =>
      { settings with cacheServer := { settings.cacheServer with lifetime := value } }
  | cacheEnabled, value, settings =>
      { settings with roleCache := { settings.roleCache with enabled := value } }
  | queueCapacity, value, settings =>
      { settings with roleCache := { settings.roleCache with queueCapacity := value } }
  | taskTimeout, value, settings =>
      { settings with roleCache := { settings.roleCache with taskTimeout := value } }
  | logFormat, value, settings => { settings with log := { settings.log with format := value } }
  | logLevel, value, settings => { settings with log := { settings.log with level := value } }
  | seedOnStartup, value, settings =>
      { settings with seed := { settings.seed with onStartup := value } }

def truth? (text : String) : Option Bool :=
  if text = "true" then some true else if text = "false" then some false else none

/-- The value that the text of a variable stands for. Texts are taken as they are; all
else is read without the blanks at its ends. -/
def ofText (name text : String) : Setting α → Except SettingsFault α
  | databaseUrl | cacheUrl | nameSpace | logLevel => .ok text
  | maxConnections => number Width.max32
  | acquireTimeout | lifetime | queueCapacity | taskTimeout => number Width.max64
  | cacheEnabled | seedOnStartup =>
      match truth? (Text.trim text) with
      | some value => .ok value
      | none => .error (.badVariable name text)
  | logFormat => (Logging.Format.read text).mapError .badFormat
where
  number (most : Nat) : Except SettingsFault Nat :=
    match Text.natural? most (Text.trim text) with
    | some value => .ok value
    | none => .error (.badVariable name text)

def variableEnds : List String :=
  [databaseUrl.variableEnd, maxConnections.variableEnd, acquireTimeout.variableEnd,
    cacheUrl.variableEnd, nameSpace.variableEnd, lifetime.variableEnd, cacheEnabled.variableEnd,
    queueCapacity.variableEnd, taskTimeout.variableEnd, logFormat.variableEnd,
    logLevel.variableEnd, seedOnStartup.variableEnd]

end Setting

/-! ## The environment -/

/-- The variables of the environment: each entry is a name, an equals sign and a value. -/
structure Environment where
  entries : List Bytes

namespace Environment

/-- What follows the name of a variable and an equals sign in the first entry that begins with
them. Nothing forbids a name with an equals sign of its own. -/
def value? (environment : Environment) (name : String) : Option Bytes :=
  environment.entries.findSome? (Text.bytes (name ++ "=")).isPrefixOf?

def lookup (environment : Environment) (name : String) : Option String :=
  (environment.value? name).bind Text.ofBytes?

end Environment

structure SettingsSource where
  folder : Folder
  environment : Environment
  start : String := "WARDEN"
  path : Option String := none

namespace SettingsSource

def variableName (source : SettingsSource) (ending : String) : String :=
  source.start ++ "_" ++ ending

def textOf? (source : SettingsSource) (ending : String) : Option String :=
  source.environment.lookup (source.variableName ending)

/-! ## Files -/

def searchPaths : List String :=
  ["config.toml", "warden.toml", "./config/warden.toml", "/etc/warden/config.toml"]

/-- The path of the settings file: the one that was named, the one that a variable names,
or a usual one; the first that is there. -/
def path? (source : SettingsSource) : Option String :=
  (source.path.toList ++ (source.textOf? "CONFIG").toList ++ searchPaths).find?
    source.folder.hasPath

end SettingsSource

namespace Settings

def ofFile (folder : Folder) (path : String) : Except SettingsFault Settings :=
  match folder.read path with
  | .error fault => .error (.unreadableFile fault)
  | .ok content =>
      let malformed (spot : Toml.Spot) : SettingsFault :=
        .malformedFile (Position.of content.toList spot)
      match Toml.read content with
      | .error spot => .error (malformed spot)
      | .ok file =>
          match read? .file file.toJson with
          | some settings => .ok settings
          | none => .error (malformed (misfit file))

/-! ## Variables -/

def override {α : Type} (source : SettingsSource) (setting : Setting α) (settings : Settings) :
    Except SettingsFault Settings :=
  match source.textOf? setting.variableEnd with
  | none => .ok settings
  | some text =>
      (setting.ofText (source.variableName setting.variableEnd) text).map fun value =>
        setting.put value settings

def overrideAll (source : SettingsSource) (settings : Settings) :
    Except SettingsFault Settings := do
  let settings ← override source .databaseUrl settings
  let settings ← override source .maxConnections settings
  let settings ← override source .acquireTimeout settings
  let settings ← override source .cacheUrl settings
  let settings ← override source .nameSpace settings
  let settings ← override source .lifetime settings
  let settings ← override source .cacheEnabled settings
  let settings ← override source .queueCapacity settings
  let settings ← override source .taskTimeout settings
  let settings ← override source .logFormat settings
  let settings ← override source .logLevel settings
  override source .seedOnStartup settings

/-! ## Loading -/

def load (source : SettingsSource) : Except SettingsFault Settings := do
  let settings ← match source.path? with
    | some path => ofFile source.folder path
    | none => pure {}
  let settings ← overrideAll source settings
  match settings.brokenRule? with
  | some rule => throw (.broken rule)
  | none => return settings

end Settings
end Entitlement
