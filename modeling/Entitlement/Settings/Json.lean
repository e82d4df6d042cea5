import Entitlement.Settings.Basic
import Entitlement.Width

/-! # Settings in JSON and in files

Every section, and every setting in it, may be left out. Settings files follow the same
rules as JSON, except in two corners where lists and empty tables are treated with less
care. -/

namespace Entitlement

open Json.Fields

structure Dialect where
  allowsMore : Bool
  isUnit : Json → Bool

namespace Dialect

/-- The rules of JSON: nothing may be left over, and only null says nothing. -/
def json : Dialect where
  allowsMore := false
  isUnit
    | .null => true
    | _ => false

/-- The rules of settings files: more items are ignored, and an empty table or list says
nothing. -/
def file : Dialect where
  allowsMore := true
  isUnit
    | .object [] => true
    | .list [] => true
    | _ => false

def record? {α : Type} (dialect : Dialect) (fields : Json.FieldReader α) (value : Json) :
    Option α := do
  let start ← of? value
  let (result, rest) ← fields.run start
  if dialect.allowsMore then
    some result
  else do
    let _ ← done rest
    some result

/-- Reads a log format: its name, or an object that says nothing under its name. -/
def format? (dialect : Dialect) (value : Json) : Option Logging.Format :=
  (value.choiceWhere? dialect.isUnit).bind Logging.Format.ofName?

end Dialect

/-! ## Sections -/

namespace DatabaseSettings

def toJson (settings : DatabaseSettings) : Json :=
  .object [("url", .text settings.url), ("max_connections", .integer settings.maxConnections),
    ("acquire_timeout_secs", .integer settings.acquireTimeout)]

def fields : Json.FieldReader DatabaseSettings := do
  let url ← defaulted "url" Json.text? ({} : DatabaseSettings).url
  let maxConnections ← defaulted "max_connections" (Json.natural? Width.max32)
    ({} : DatabaseSettings).maxConnections
  let acquireTimeout ← defaulted "acquire_timeout_secs" (Json.natural? Width.max64)
    ({} : DatabaseSettings).acquireTimeout
  return { url, maxConnections, acquireTimeout }

end DatabaseSettings

namespace CacheServerSettings

def toJson (settings : CacheServerSettings) : Json :=
  .object [("url", .text settings.url), ("key_prefix", .text settings.nameSpace),
    ("ttl_secs", .integer settings.lifetime)]

def fields : Json.FieldReader CacheServerSettings := do
  let url ← defaulted "url" Json.text? ({} : CacheServerSettings).url
  let nameSpace ← defaulted "key_prefix" Json.text? ({} : CacheServerSettings).nameSpace
  let lifetime ← defaulted "ttl_secs" (Json.natural? Width.max64)
    ({} : CacheServerSettings).lifetime
  return { url, nameSpace, lifetime }

end CacheServerSettings

namespace RoleCacheSettings

def toJson (settings : RoleCacheSettings) : Json :=
  .object [("enabled", .bool settings.enabled), ("queue_capacity", .integer settings.queueCapacity),
    ("task_timeout_ms", .integer settings.taskTimeout)]

def fields : Json.FieldReader RoleCacheSettings := do
  let enabled ← defaulted "enabled" Json.bool? ({} : RoleCacheSettings).enabled
  let queueCapacity ← defaulted "queue_capacity" (Json.natural? Width.max64)
    ({} : RoleCacheSettings).queueCapacity
  let taskTimeout ← defaulted "task_timeout_ms" (Json.natural? Width.max64)
    ({} : RoleCacheSettings).taskTimeout
  return { enabled, queueCapacity, taskTimeout }

end RoleCacheSettings

namespace LogSettings

def toJson (settings : LogSettings) : Json :=
  .object [("format", settings.format.toJson), ("level", .text settings.level)]

def fields (dialect : Dialect) : Json.FieldReader LogSettings := do
  let format ← defaulted "format" dialect.format? ({} : LogSettings).format
  let level ← defaulted "level" Json.text? ({} : LogSettings).level
  return { format, level }

end LogSettings

namespace SeedSettings

def toJson (settings : SeedSettings) : Json :=
  .object [("on_startup", .bool settings.onStartup)]

def fields : Json.FieldReader SeedSettings := do
  let onStartup ← defaulted "on_startup" Json.bool? ({} : SeedSettings).onStartup
  return { onStartup }

end SeedSettings

/-! ## All settings -/

namespace Settings

def toJson (settings : Settings) : Json :=
  .object [("database", settings.database.toJson), ("redis", settings.cacheServer.toJson),
    ("role_cache", settings.roleCache.toJson), ("logging", settings.log.toJson),
    ("seed", settings.seed.toJson)]

def fields (dialect : Dialect) : Json.FieldReader Settings := do
  let database ← defaulted "database" (dialect.record? DatabaseSettings.fields) {}
  let cacheServer ← defaulted "redis" (dialect.record? CacheServerSettings.fields) {}
  let roleCache ← defaulted "role_cache" (dialect.record? RoleCacheSettings.fields) {}
  let log ← defaulted "logging" (dialect.record? (LogSettings.fields dialect)) {}
  let seed ← defaulted "seed" (dialect.record? SeedSettings.fields) {}
  return { database, cacheServer, roleCache, log, seed }

def read? (dialect : Dialect) (value : Json) : Option Settings :=
  dialect.record? (fields dialect) value

def ofJson? (value : Json) : Option Settings := read? .json value

end Settings
end Entitlement
