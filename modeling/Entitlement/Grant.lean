import Entitlement.Instant.Json

/-! # Grants

A grant gives a role or a single permission to a user. A grant that has been
revoked is kept, with the moment of its revocation; all others are live. -/

namespace Entitlement

structure Grant where
  id : Int
  userId : Int
  roleId : Option Int
  permissionId : Option Int
  createdAt : Instant
  deletedAt : Option Instant
deriving DecidableEq

namespace Grant

def isLive (grant : Grant) : Bool := grant.deletedAt.isNone

def ofRole (userId roleId : Int) (now : Instant) : Grant :=
  ⟨0, userId, some roleId, none, now, none⟩

def ofPermission (userId permissionId : Int) (now : Instant) : Grant :=
  ⟨0, userId, none, some permissionId, now, none⟩

def toJson (grant : Grant) : Json :=
  .object ([("id", .integer grant.id), ("userId", .integer grant.userId)] ++
    Json.optionalMember "roleId" Json.integer grant.roleId ++
    Json.optionalMember "permissionId" Json.integer grant.permissionId ++
    [("createdAt", grant.createdAt.toJson)] ++
    Json.optionalMember "deletedAt" Instant.toJson grant.deletedAt)

open Json.Fields in
def fields : Json.FieldReader Grant := do
  let id ← required "id" Json.integer?
  let userId ← required "userId" Json.integer?
  let roleId ← optional "roleId" Json.integer?
  let permissionId ← optional "permissionId" Json.integer?
  let createdAt ← required "createdAt" Instant.ofJson?
  let deletedAt ← optional "deletedAt" Instant.ofJson?
  return { id, userId, roleId, permissionId, createdAt, deletedAt }

def ofJson? (value : Json) : Option Grant := Json.record? fields value

end Grant
end Entitlement
