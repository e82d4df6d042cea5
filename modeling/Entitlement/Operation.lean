/-! # Operations

The names under which technical failures are reported. -/

namespace Entitlement

inductive Area where
  | roles
  | permissions
  | grants
deriving DecidableEq

inductive Operation where
  | createRole
  | roleByUuid
  | liveRoles
  | updateRole
  | deleteRole
  | keyInUse
  | roleByKey
  | roleWithPermissions
  | replacePermissions
  | roleKeysOf
  | permissionKeysOf
  | livePermissions
  | permissionIds
  | createPermission
  | assignRoles
  | grantPermissions
  | grantsOf
  | begin
  | commit
  | rollback
  | enter (area : Area)
  | userByUuid
  | createTables
  | connectCache
  | readCache
  | writeCache
deriving DecidableEq

def Operation.name : Operation → String
  | createRole => "role.create"
  | roleByUuid => "role.get_by_uuid"
  | liveRoles => "role.list"
  | updateRole => "role.update"
  | deleteRole => "role.delete"
  | keyInUse => "role.exist_key"
  | roleByKey => "role.find_by_key"
  | roleWithPermissions => "role.get_permissions"
  | replacePermissions => "role.sync_permissions"
  | roleKeysOf => "role.get_role_keys"
  | permissionKeysOf => "permission.get_user_permission_keys"
  | livePermissions => "permission.list"
  | permissionIds => "permission.filter_valid_permissions"
  | createPermission => "permission.create"
  | assignRoles => "acl.assign_roles_to_user"
  | grantPermissions => "acl.grant_permissions_to_user"
  | grantsOf => "acl.list_by_user"
  | begin => "unit_of_work.begin"
  | commit => "unit_of_work.commit"
  | rollback => "unit_of_work.rollback"
  | enter .roles => "unit_of_work.roles"
  | enter .permissions => "unit_of_work.permissions"
  | enter .grants => "unit_of_work.acl"
  | userByUuid => "user.get_by_uuid"
  | createTables => "schema.init"
  | connectCache => "role_cache.connect"
  | readCache => "role_cache.get"
  | writeCache => "role_cache.set_bulk"

end Entitlement
