import Entitlement.Logging.Filter
import Entitlement.Logging.Format

/-! # Setting up logging

Logging is set up once in the life of a program. -/

namespace Entitlement.Logging

inductive SetupFault where
  | unknownFormat (unknown : UnknownFormat)
  | invalidDirective (text : String) (fault : DirectiveFault)
  | alreadySetUp
deriving DecidableEq

def SetupFault.message : SetupFault → String
  | unknownFormat unknown => unknown.message
  | invalidDirective text fault => "Invalid log directive '" ++ text ++ "': " ++ fault.message
  | alreadySetUp => "Global subscriber already installed: " ++
      "a global default trace dispatcher has already been set"

structure Setup where
  service : String
  format : Format
  filter : Filter
deriving DecidableEq

/-- Sets up logging, unless it has been set up already. `asked` is the filter that the
surroundings ask for. -/
def setUp (asked : Option String) (service : String) (format : Format) (directives : String)
    (present : Option Setup) : Except SetupFault Setup :=
  match Filter.choose asked directives, present with
  | .error fault, _ => .error (.invalidDirective directives fault)
  | .ok _, some _ => .error .alreadySetUp
  | .ok filter, none => .ok ⟨service, format, filter⟩

end Entitlement.Logging
