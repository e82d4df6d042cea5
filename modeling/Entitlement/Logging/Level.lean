import Entitlement.Text.Numeral

/-! # Log levels

How much is logged, from nothing to everything. -/

namespace Entitlement.Logging

inductive Level where
  | off
  | error
  | warn
  | info
  | debug
  | trace
deriving DecidableEq

namespace Level

def all : List Level := [off, error, warn, info, debug, trace]

def name : Level → String
  | off => "off"
  | error => "error"
  | warn => "warn"
  | info => "info"
  | debug => "debug"
  | trace => "trace"

def rank (level : Level) : Nat := all.idxOf level

/-- The level that a word stands for: its name in any case, or its rank as a numeral. -/
def ofWord? (word : String) : Option Level :=
  match Text.natural? Width.max64 word with
  | some rank => all[rank]?
  | none => all.find? (·.name == word.map Char.toLower)

def max (left right : Level) : Level :=
  if left.rank < right.rank then right else left

end Level
end Entitlement.Logging
