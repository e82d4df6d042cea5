import Entitlement.Grant
import Entitlement.Role
import Entitlement.User

/-! # Answers

What the database answers to a statement, and how rows are read. A row is read by the
names of its columns; where two columns have one name, the later one counts. A cell
that is missing, empty where it must not be, or of another type makes the whole row
unreadable. -/

namespace Entitlement.Database

inductive Cell where
  | null
  | integer (value : Int)
  | text (value : String)
  | bool (value : Bool)
  | uuid (value : Uuid)
  | moment (value : Instant)
deriving DecidableEq

namespace Cell

def integer? : Cell → Option Int
  | integer value => some value
  | _ => none

def text? : Cell → Option String
  | text value => some value
  | _ => none

def bool? : Cell → Option Bool
  | bool value => some value
  | _ => none

def uuid? : Cell → Option Uuid
  | uuid value => some value
  | _ => none

def moment? : Cell → Option Instant
  | moment value => some value
  | _ => none

end Cell

structure Row where
  cells : List (String × Cell)

namespace Row

variable {α : Type}

def cell? (row : Row) (column : String) : Option Cell :=
  row.cells.reverse.lookup column

def required? (row : Row) (column : String) (read? : Cell → Option α) : Option α :=
  (row.cell? column).bind read?

def optional? (row : Row) (column : String) (read? : Cell → Option α) : Option (Option α) :=
  match row.cell? column with
  | none => none
  | some .null => some none
  | some cell => (read? cell).map some

def first? (read? : Cell → Option α) (row : Row) : Option α :=
  row.cells.head?.bind fun (_, cell) => read? cell

def role? (row : Row) : Option Role := do
  let key ← row.required? "key" Cell.text?
  let key ← RoleKey.ofName? key
  let id ← row.required? "id" Cell.integer?
  let uuid ← row.required? "uuid" Cell.uuid?
  let title ← row.required? "title" Cell.text?
  let description ← row.required? "description" Cell.text?
  let isDefault ← row.required? "is_default" Cell.bool?
  let createdAt ← row.required? "created_at" Cell.moment?
  let updatedAt ← row.required? "updated_at" Cell.moment?
  let deletedAt ← row.optional? "deleted_at" Cell.moment?
  let deletedBy ← row.optional? "deleted_by" Cell.integer?
  return {
    id, uuid, title, key, description, isDefault, createdAt, updatedAt, deletedAt, deletedBy }

def permission? (row : Row) : Option Permission := do
  let key ← row.required? "key" Cell.text?
  let key ← PermissionKey.ofName? key
  let id ← row.required? "id" Cell.integer?
  let uuid ← row.required? "uuid" Cell.uuid?
  let title ← row.required? "title" Cell.text?
  let group ← row.required? "group_name" Cell.text?
  let description ← row.required? "description" Cell.text?
  let createdAt ← row.required? "created_at" Cell.moment?
  let updatedAt ← row.required? "updated_at" Cell.moment?
  let deletedAt ← row.optional? "deleted_at" Cell.moment?
  return { id, uuid, title, key, group, description, createdAt, updatedAt, deletedAt }

def grant? (row : Row) : Option Grant := do
  let id ← row.required? "id" Cell.integer?
  let userId ← row.required? "user_id" Cell.integer?
  let roleId ← row.optional? "role_id" Cell.integer?
  let permissionId ← row.optional? "permission_id" Cell.integer?
  let createdAt ← row.required? "created_at" Cell.moment?
  let deletedAt ← row.optional? "deleted_at" Cell.moment?
  return { id, userId, roleId, permissionId, createdAt, deletedAt }

/-- The user in a row. A state of the account that has no known name is unknown. -/
def user? (row : Row) : Option User := do
  let status ← row.required? "status" Cell.text?
  let id ← row.required? "id" Cell.integer?
  let uuid ← row.required? "uuid" Cell.uuid?
  return { id, uuid, status := (UserStatus.ofName? status).getD .unknown }

end Row

inductive Answer where
  | rows (rows : List Row)
  | affected (count : Nat)
  | refused (state : String)

namespace Answer

def rowList : Answer → List Row
  | rows found => found
  | _ => []

def count : Answer → Nat
  | rows found => found.length
  | affected count => count
  | refused _ => 0

def repeatedKeyState : String := "23505"

end Answer
end Entitlement.Database
