import Entitlement.Logging.Directive

/-! # Log filters

A filter is a list of directives, written with commas between them. -/

namespace Entitlement.Logging

abbrev Filter := List Directive

namespace Filter

/-- Reads a filter. What is empty between commas does not count, so the empty text lets
nothing through. -/
def read (text : String) : Except DirectiveFault Filter :=
  ((Text.pieces ',' text.toList).filter (· ≠ [])).mapM Directive.read

def level (filter : Filter) : Level :=
  (filter.map (·.reach)).foldl Level.max .off

/-- The filter in force: the one that the surroundings ask for, if that is one, and else
the given one. No other is tried where a directive breaks within a character. -/
def choose (asked : Option String) (given : String) : Except DirectiveFault Filter :=
  match asked.map read with
  | some (.ok filter) => .ok filter
  | some (.error .splitCharacter) => .error .splitCharacter
  | _ => read given

end Filter

end Entitlement.Logging
