import Entitlement.Service.Roles

/-! # Access

Deciding whether a user may do something, and giving roles and permissions to
users.

A check first finds the user, who has to be active. Whoever holds the role that
allows everything is let through without a look at permissions. For all others the
permissions are looked up, and one of the required keys has to be among them, unless
the list of required keys says that nothing is required. -/

namespace Entitlement.Service

universe u

variable {m : Type → Type u} [Monad m] [MonadExceptOf Fault m]

def activeUser (backend : Backend m) (userUuid : String) : m User := do
  let user ← backend.userByUuid userUuid
  MonadExcept.ofExcept (user.status.requireActive user.uuid)
  return user

def decide (userId : Int) (required effective : List PermissionKey) : Decision :=
  if required.contains .none then .granted userId .noneSentinel
  else if required.any (effective.contains ·) then .granted userId .permission
  else .denied

def checkAccess (backend : Backend m) (userUuid : String) (required : List PermissionKey) :
    m Decision := do
  let user ← activeUser backend userUuid
  backend.enter .roles
  let roleKeys ← backend.call (.roleKeysOf user.id)
  let decision ←
    if roleKeys.contains .superAdmin then
      pure (Decision.granted user.id .superAdmin)
    else do
      backend.enter .permissions
      let effective ← backend.call (.permissionKeysOf user.id)
      pure (decide user.id required effective)
  backend.countDecision decision
  return decision

def effectivePermissions (backend : Backend m) (userUuid : String) : m (List PermissionKey) := do
  let user ← activeUser backend userUuid
  backend.enter .permissions
  backend.call (.permissionKeysOf user.id)

/-! ## Giving roles and permissions -/

def userRole (backend : Backend m) : m Role := do
  match ← backend.call (.roleByKey .user) with
  | some role => pure role
  | none => throw (Fault.notFound "role" RoleKey.user.name)

def assignUserRole (backend : Backend m) (userId : Int) : m Role := do
  backend.enter .roles
  let role ← userRole backend
  backend.enter .grants
  backend.call (.assignRoles userId [role.id])
  return role

def assignRoles (backend : Backend m) (userId : Int) (roleUuids : List String) :
    m (List Role) := do
  let uuids ← MonadExcept.ofExcept (readUuids "role_uuids" [] roleUuids)
  backend.enter .roles
  let roles ← uuids.mapM fun uuid => backend.call (.roleByUuid uuid)
  backend.enter .grants
  backend.call (.assignRoles userId (roles.map (·.id)))
  return roles

/-- Grants permissions to a user directly, on top of what the user has. Returns how
many of the identifiers name a live permission. -/
def grantPermissions (backend : Backend m) (userId : Int) (permissionUuids : List String) :
    m Nat := do
  let uuids ← MonadExcept.ofExcept (readUuids "permission_uuids" [] permissionUuids)
  backend.enter .permissions
  let permissionIds ← backend.call (.permissionIds uuids)
  backend.enter .grants
  backend.call (.grantPermissions userId permissionIds)
  return permissionIds.length

end Entitlement.Service
