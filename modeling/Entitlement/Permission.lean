import Entitlement.Instant.Json
import Entitlement.Key

/-! # Permissions

A permission is one thing that a user can be allowed to do. A permission that has
been deleted is kept, with the moment of its deletion; all others are live. -/

namespace Entitlement

structure Permission where
  id : Int
  uuid : Uuid
  title : String
  key : PermissionKey
  group : String
  description : String
  createdAt : Instant
  updatedAt : Instant
  deletedAt : Option Instant
deriving DecidableEq

namespace Permission

def isLive (permission : Permission) : Bool := permission.deletedAt.isNone

/-- A permission that is not stored yet: it has no number of its own, and the heading
that its key belongs under. -/
def fresh (title : String) (key : PermissionKey) (uuid : Uuid) (now : Instant) : Permission where
  id := 0
  uuid := uuid
  title := title
  key := key
  group := key.group
  description := ""
  createdAt := now
  updatedAt := now
  deletedAt := none

def toJson (permission : Permission) : Json :=
  .object ([("id", .integer permission.id), ("uuid", permission.uuid.toJson),
    ("title", .text permission.title), ("key", permission.key.toJson),
    ("group", .text permission.group), ("description", .text permission.description),
    ("createdAt", permission.createdAt.toJson), ("updatedAt", permission.updatedAt.toJson)] ++
    Json.optionalMember "deletedAt" Instant.toJson permission.deletedAt)

open Json.Fields in
def fields : Json.FieldReader Permission := do
  let id ← required "id" Json.integer?
  let uuid ← required "uuid" Uuid.ofJson?
  let title ← required "title" Json.text?
  let key ← required "key" PermissionKey.ofJson?
  let group ← required "group" Json.text?
  let description ← required "description" Json.text?
  let createdAt ← required "createdAt" Instant.ofJson?
  let updatedAt ← required "updatedAt" Instant.ofJson?
  let deletedAt ← optional "deletedAt" Instant.ofJson?
  return { id, uuid, title, key, group, description, createdAt, updatedAt, deletedAt }

def ofJson? (value : Json) : Option Permission := Json.record? fields value

end Permission

/-- A permission attached to a role: whoever holds the role holds the permission. -/
structure Attachment where
  roleId : Int
  permissionId : Int
deriving DecidableEq

namespace Attachment

def toJson (attachment : Attachment) : Json :=
  .object [("roleId", .integer attachment.roleId),
    ("permissionId", .integer attachment.permissionId)]

open Json.Fields in
def fields : Json.FieldReader Attachment := do
  let roleId ← required "roleId" Json.integer?
  let permissionId ← required "permissionId" Json.integer?
  return { roleId, permissionId }

def ofJson? (value : Json) : Option Attachment := Json.record? fields value

end Attachment
end Entitlement
