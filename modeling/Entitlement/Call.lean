import Entitlement.Grant
import Entitlement.Operation
import Entitlement.Role
import Entitlement.User

/-! # Calls to a store

What a unit of work can ask of the store that it works on, and the type of each
answer. Every backend answers the same calls. -/

namespace Entitlement

inductive Call : Type → Type where
  | createRole (role : Role) : Call Role
  | roleByUuid (uuid : Uuid) : Call Role
  | liveRoles : Call (List Role)
  | updateRole (role : Role) (uuid : Uuid) : Call Role
  | deleteRole (uuid : Uuid) (deletedBy : Int) : Call Unit
  | keyInUse (key : RoleKey) (exclude : Option Uuid) : Call Bool
  | roleByKey (key : RoleKey) : Call (Option Role)
  | roleWithPermissions (uuid : Uuid) : Call RoleWithPermissions
  | replacePermissions (roleId : Int) (permissionIds : List Int) : Call Unit
  | roleKeysOf (userId : Int) : Call (List RoleKey)
  /-- The keys of the permissions that a user holds through live roles and live direct
  grants, without repetition. -/
  | permissionKeysOf (userId : Int) : Call (List PermissionKey)
  | livePermissions : Call (List Permission)
  | permissionIds (uuids : List Uuid) : Call (List Int)
  | createPermission (permission : Permission) : Call Permission
  | assignRoles (userId : Int) (roleIds : List Int) : Call Unit
  | grantPermissions (userId : Int) (permissionIds : List Int) : Call Unit
  | grantsOf (userId : Int) : Call (List Grant)

def Call.operation {α : Type} : Call α → Operation
  | createRole _ => .createRole
  | roleByUuid _ => .roleByUuid
  | liveRoles => .liveRoles
  | updateRole _ _ => .updateRole
  | deleteRole _ _ => .deleteRole
  | keyInUse _ _ => .keyInUse
  | roleByKey _ => .roleByKey
  | roleWithPermissions _ => .roleWithPermissions
  | replacePermissions _ _ => .replacePermissions
  | roleKeysOf _ => .roleKeysOf
  | permissionKeysOf _ => .permissionKeysOf
  | livePermissions => .livePermissions
  | permissionIds _ => .permissionIds
  | createPermission _ => .createPermission
  | assignRoles _ _ => .assignRoles
  | grantPermissions _ _ => .grantPermissions
  | grantsOf _ => .grantsOf

def Call.area {α : Type} : Call α → Area
  | createRole _ | roleByUuid _ | liveRoles | updateRole _ _ | deleteRole _ _ | keyInUse _ _
  | roleByKey _ | roleWithPermissions _ | replacePermissions _ _ | roleKeysOf _ => .roles
  | permissionKeysOf _ | livePermissions | permissionIds _ | createPermission _ => .permissions
  | assignRoles _ _ | grantPermissions _ _ | grantsOf _ => .grants

end Entitlement
