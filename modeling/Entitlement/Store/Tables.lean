import Entitlement.Grant
import Entitlement.Role
import Entitlement.Store.Table

/-! # The tables of the store

Roles, permissions, the permissions attached to roles, and the grants to users.
Rows of roles, permissions and grants are never removed: they are marked as deleted
and from then on are not live. -/

namespace Entitlement.Store

structure Tables where
  roles : List Role
  permissions : List Permission
  attachments : List Attachment
  grants : List Grant
deriving DecidableEq

namespace Tables

def empty : Tables := ⟨[], [], [], []⟩

/-! ## Rows that are live -/

def liveRoles (tables : Tables) : List Role :=
  tables.roles.filter (·.isLive)

def livePermissions (tables : Tables) : List Permission :=
  tables.permissions.filter (·.isLive)

def grantsOf (tables : Tables) (userId : Int) : List Grant :=
  tables.grants.filter (·.userId = userId)

def liveGrants (tables : Tables) (userId : Int) : List Grant :=
  tables.grants.filter fun grant => grant.userId = userId && grant.isLive

def roleByUuid? (tables : Tables) (uuid : Uuid) : Option Role :=
  tables.roles.find? fun role => role.uuid = uuid && role.isLive

def roleByKey? (tables : Tables) (key : RoleKey) : Option Role :=
  tables.roles.find? fun role => role.key = key && role.isLive

def roleById? (tables : Tables) (id : Int) : Option Role :=
  tables.roles.find? fun role => role.id = id && role.isLive

def permissionById? (tables : Tables) (id : Int) : Option Permission :=
  tables.permissions.find? fun permission => permission.id = id && permission.isLive

def keyInUse (tables : Tables) (key : RoleKey) (exclude : Option Uuid) : Bool :=
  tables.roles.any fun role => role.key = key && role.isLive && some role.uuid ≠ exclude

/-! ## What roles and users hold -/

def attachedIds (tables : Tables) (roleId : Int) : List Int :=
  ((tables.attachments.filter (·.roleId = roleId)).map (·.permissionId)).mergeSort

def permissionsOfRole (tables : Tables) (roleId : Int) : List Permission :=
  (tables.attachments.filter (·.roleId = roleId)).filterMap fun attachment =>
    tables.permissionById? attachment.permissionId

def permissionsOfGrant (tables : Tables) (grant : Grant) : List Permission :=
  let throughRole := match grant.roleId.bind tables.roleById? with
    | some role => tables.permissionsOfRole role.id
    | none => []
  throughRole ++ (grant.permissionId.bind tables.permissionById?).toList

def roleKeysOf (tables : Tables) (userId : Int) : List RoleKey :=
  ((tables.liveGrants userId).filterMap fun grant =>
    (grant.roleId.bind tables.roleById?).map (·.key)).eraseDups

def permissionKeysOf (tables : Tables) (userId : Int) : List PermissionKey :=
  (((tables.liveGrants userId).flatMap tables.permissionsOfGrant).map (·.key)).eraseDups

def roleWithPermissions? (tables : Tables) (uuid : Uuid) : Option RoleWithPermissions :=
  (tables.roleByUuid? uuid).map fun role =>
    ⟨role, (tables.permissionsOfRole role.id).mergeSort fun left right => left.id ≤ right.id⟩

def permissionIds (tables : Tables) (uuids : List Uuid) : List Int :=
  ((tables.permissions.filter fun permission =>
    permission.isLive && uuids.contains permission.uuid).map (·.id)).mergeSort

/-! ## Keys that occur twice -/

/-- The first key among live roles that an earlier live role has already; `seen` are
the keys of the roles before. -/
def repeatedKey? (seen : List RoleKey) : List Role → Option RoleKey
  | [] => none
  | role :: roles =>
      if role.isLive then
        if seen.contains role.key then some role.key else repeatedKey? (role.key :: seen) roles
      else repeatedKey? seen roles

/-! ## Merging -/

def merge (committed base work : Tables) : Tables where
  roles := mergeRows (·.id) committed.roles base.roles work.roles
  permissions := mergeRows (·.id) committed.permissions base.permissions work.permissions
  attachments := mergeRows (fun row => (row.roleId, row.permissionId)) committed.attachments
    base.attachments work.attachments
  grants := mergeRows (·.id) committed.grants base.grants work.grants

end Tables
end Entitlement.Store
