import Entitlement.Settings.Json
import Entitlement.Toml.Tree

/-! # Values that do not fit

A settings file may be well written and yet hold a value that cannot be a setting. The first
such value is looked for, in the order of the file. -/

namespace Entitlement.Settings

open Toml

/-! ## Single settings -/

inductive Kind where
  | text
  | number (most : Nat)
  | truth
  | format

def Kind.fits (kind : Kind) (value : Json) : Bool :=
  match kind with
  | text => value.text?.isSome
  | number most => (value.natural? most).isSome
  | truth => value.bool?.isSome
  | format => (Dialect.file.format? value).isSome

/-- Where a value is at fault. A log format with something under its name is at fault there;
if the name is none, it is the name. -/
def Kind.misfit? (kind : Kind) (value : Tree) : Option Spot :=
  if kind.fits value.toJson then none
  else
    match kind, value with
    | format, .table _ [(name, inner)] =>
        some (if (Logging.Format.ofName? name.text).isSome then inner.spot else name.spot)
    | _, _ => some value.spot

/-! ## Sections -/

/-- Where a record is at fault, from what tells the same of its fields. A date counts as a
record of no known fields. -/
def recordMisfit? {κ : Type} (misfit? : κ → Tree → Option Spot) (fields : List (String × κ)) :
    Tree → Option Spot
  | .table _ members =>
      members.findSome? fun (name, value) => (fields.lookup name.text).bind (misfit? · value)
  | .list _ items =>
      (fields.zip items).findSome? fun (field, value) => misfit? field.2 value
  | .leaf _ (.moment _) => none
  | .leaf spot _ => some spot

def sections : List (String × List (String × Kind)) :=
  [("database", [("url", .text), ("max_connections", .number Width.max32),
      ("acquire_timeout_secs", .number Width.max64)]),
    ("redis", [("url", .text), ("key_prefix", .text), ("ttl_secs", .number Width.max64)]),
    ("role_cache", [("enabled", .truth), ("queue_capacity", .number Width.max64),
      ("task_timeout_ms", .number Width.max64)]),
    ("logging", [("format", .format), ("level", .text)]),
    ("seed", [("on_startup", .truth)])]

def misfit (file : Tree) : Spot :=
  (recordMisfit? (recordMisfit? Kind.misfit?) sections file).getD file.spot

end Entitlement.Settings
