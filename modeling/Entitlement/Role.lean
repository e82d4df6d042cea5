import Entitlement.Fault
import Entitlement.Permission
import Entitlement.Title

/-! # Roles

A role is a named bundle of permissions. Its key follows from its title. A role
that has been deleted is kept, with the moment and the author of its deletion; all
others are live. -/

namespace Entitlement

/-- The role key that a title stands for; a title that stands for none is reported
as it was given, without blanks at its ends. -/
def RoleKey.ofTitle (title : String) : Except Fault RoleKey :=
  match RoleKey.ofName? (Title.key title) with
  | some key => .ok key
  | none =>
      .error (.invalidBody "title" ("'" ++ Text.trim title ++ "' does not map to a known role key"))

structure Role where
  id : Int
  uuid : Uuid
  title : String
  key : RoleKey
  description : String
  isDefault : Bool
  createdAt : Instant
  updatedAt : Instant
  deletedAt : Option Instant
  deletedBy : Option Int
deriving DecidableEq

namespace Role

def isLive (role : Role) : Bool := role.deletedAt.isNone

def fresh (title : String) (key : RoleKey) (uuid : Uuid) (now : Instant) : Role where
  id := 0
  uuid := uuid
  title := title
  key := key
  description := ""
  isDefault := false
  createdAt := now
  updatedAt := now
  deletedAt := none
  deletedBy := none

def members (role : Role) : List (String × Json) :=
  [("id", .integer role.id), ("uuid", role.uuid.toJson), ("title", .text role.title),
    ("key", role.key.toJson), ("description", .text role.description),
    ("isDefault", .bool role.isDefault), ("createdAt", role.createdAt.toJson),
    ("updatedAt", role.updatedAt.toJson)] ++
    Json.optionalMember "deletedAt" Instant.toJson role.deletedAt ++
    Json.optionalMember "deletedBy" Json.integer role.deletedBy

def toJson (role : Role) : Json := .object role.members

open Json.Fields in
def fields (key? : Json → Option RoleKey) : Json.FieldReader Role := do
  let id ← required "id" Json.integer?
  let uuid ← required "uuid" Uuid.ofJson?
  let title ← required "title" Json.text?
  let key ← required "key" key?
  let description ← required "description" Json.text?
  let isDefault ← required "isDefault" Json.bool?
  let createdAt ← required "createdAt" Instant.ofJson?
  let updatedAt ← required "updatedAt" Instant.ofJson?
  let deletedAt ← optional "deletedAt" Instant.ofJson?
  let deletedBy ← optional "deletedBy" Json.integer?
  return {
    id, uuid, title, key, description, isDefault, createdAt, updatedAt, deletedAt, deletedBy }

def ofJson? (value : Json) : Option Role := Json.record? (fields RoleKey.ofJson?) value

end Role

/-! ## Requests -/

structure RoleInput where
  title : String
  description : String := ""
  isDefault : Bool := false
deriving DecidableEq

namespace RoleInput

def toJson (input : RoleInput) : Json :=
  .object [("title", .text input.title), ("description", .text input.description),
    ("isDefault", .bool input.isDefault)]

open Json.Fields in
def fields : Json.FieldReader RoleInput := do
  let title ← required "title" Json.text?
  let description ← defaulted "description" Json.text? ""
  let isDefault ← defaulted "isDefault" Json.bool? false
  return { title, description, isDefault }

def ofJson? (value : Json) : Option RoleInput := Json.record? fields value

end RoleInput

/-! ## Roles with their permissions -/

structure RoleWithPermissions where
  role : Role
  permissions : List Permission
deriving DecidableEq

namespace RoleWithPermissions

def toJson (bundle : RoleWithPermissions) : Json :=
  .object (bundle.role.members ++
    [("permissions", .list (bundle.permissions.map Permission.toJson))])

/-- Reads the JSON form, which has to be an object. The members that are not the permissions
are set aside for the role. -/
def ofJson? : Json → Option RoleWithPermissions
  | .object members => do
      let permissions ← members.lookup "permissions" >>= Json.listOf? Permission.ofJson?
      let role ← Json.record? (Role.fields RoleKey.ofAside?) (.object members)
      some { role, permissions }
  | _ => none

end RoleWithPermissions
end Entitlement
