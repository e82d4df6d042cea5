import Entitlement.Instant.Reading
import Entitlement.Json.Record
import Entitlement.Uuid.Reading

/-! # Identifiers and moments in JSON

Both are texts; neither has a second form. -/

namespace Entitlement

def Uuid.toJson (uuid : Uuid) : Json := .text uuid.text

def Uuid.ofJson? : Json → Option Uuid
  | .text value => ofText? value
  | _ => none

def Instant.toJson (moment : Instant) : Json := .text moment.text

def Instant.ofJson? : Json → Option Instant
  | .text value => ofText? value
  | _ => none

end Entitlement
