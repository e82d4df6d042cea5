import Entitlement.Database.Link
import Entitlement.Instant.Reading
import Entitlement.Json.Basic

/-! # Recorded answers

The answers of a database can be written down in JSON, so that a run can be repeated
without one. Rows are written as lists of values, and the columns name the type that
their values have. -/

namespace Entitlement.Database

/-- The cell that a value stands for in a column of a type. A value that is not of the
type stands for no cell. -/
def Cell.ofJson? (type : String) (value : Json) : Option Cell :=
  match type, value with
  | _, .null => some .null
  | "int8", .integer number => some (.integer number)
  | "text", .text value => some (.text value)
  | "bool", .bool truth => some (.bool truth)
  | "uuid", .text value => (Uuid.ofText? value).map .uuid
  | "timestamptz", .text value =>
      (Instant.ofText? value).map fun time => .moment time.toMicroseconds
  | _, _ => none

def columnOfJson? : Json → Option (String × String)
  | .list [.text name, .text type] => some (name, type)
  | _ => none

def Row.ofJson? (columns : List (String × String)) (value : Json) : Option Row := do
  let values ← Json.listOf? some value
  let cells ← (columns.zip values).mapM fun ((name, type), value) =>
    (Cell.ofJson? type value).map (name, ·)
  return ⟨cells⟩

/-- The answer that an object stands for: a refusal, a number of changed rows, or rows. An
object without members stands for no rows. -/
def Answer.ofJson? (value : Json) : Option Answer :=
  match value.member? "error", value.member? "affected" with
  | some (.text state), _ => some (.refused state)
  | none, some (.integer count) => some (.affected count.toNat)
  | none, none => do
      let columns ← ((value.member? "cols").getD (.list [])).listOf? columnOfJson?
      let rows ← ((value.member? "rows").getD (.list [])).listOf? (Row.ofJson? columns)
      return .rows rows
  | _, _ => none

end Entitlement.Database
