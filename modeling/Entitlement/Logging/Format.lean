import Entitlement.Json.Record
import Entitlement.Text.Blank

/-! # Log formats

Log lines are written for people or for machines. -/

namespace Entitlement.Logging

/-- A text that names no log format, without blanks at its ends and with its basic
letters in lower case. -/
structure UnknownFormat where
  text : String
deriving DecidableEq

def UnknownFormat.message (unknown : UnknownFormat) : String :=
  "Unknown log format: " ++ unknown.text

inductive Format where
  | text
  | json
deriving DecidableEq

namespace Format

def all : List Format := [text, json]

def name : Format → String
  | text => "text"
  | json => "json"

def ofName? (word : String) : Option Format :=
  all.find? (·.name == word)

def read (input : String) : Except UnknownFormat Format :=
  let word := (Text.trim input).map Char.toLower
  if word = "pretty" then .ok text
  else
    match ofName? word with
    | some format => .ok format
    | none => .error ⟨word⟩

def toJson (format : Format) : Json := .text format.name

end Format
end Entitlement.Logging
