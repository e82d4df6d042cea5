import Entitlement.Backend

/-! # Seeding

The permissions and roles that every installation has. Seeding creates those that
are missing and leaves alone those that exist, whatever has been made of them. -/

namespace Entitlement.Service

/-! ## What is seeded -/

structure RoleDefinition where
  key : RoleKey
  title : String
  description : String
  isDefault : Bool
  permissions : List PermissionKey
deriving DecidableEq

def roleDefinitions : List RoleDefinition := [
  ⟨.superAdmin, "Super Admin", "Unrestricted access to every operation", false,
    [.readUser, .createUser, .updateUser, .deleteUser, .banUser, .readRole, .createRole,
      .updateRole, .deleteRole, .assignRole, .readPermission, .assignPermission]⟩,
  ⟨.admin, "Admin", "User and role administration", false,
    [.readUser, .createUser, .updateUser, .banUser, .readRole, .createRole, .updateRole,
      .assignRole, .readPermission, .assignPermission]⟩,
  ⟨.manager, "Manager", "Manages users within the organisation", false,
    [.readUser, .updateUser, .readRole, .readPermission]⟩,
  ⟨.accountant, "Accountant", "Finance staff", false, [.readUser]⟩,
  ⟨.supplier, "Supplier", "External supplier account", false, []⟩,
  ⟨.sales, "Sales", "Sales staff", false, [.readUser]⟩,
  ⟨.staff, "Staff", "Internal staff", false, [.readUser, .readRole]⟩,
  ⟨.user, "User", "Default role for registered users", true, []⟩]

def seededKeys : List PermissionKey :=
  PermissionKey.all.filter fun key => !key.isSentinel

def permissionTitle (key : PermissionKey) : String :=
  match key.name.toList.map fun letter => if letter = '_' then ' ' else letter.toLower with
  | [] => ""
  | first :: rest => String.ofList (first.toUpper :: rest)

structure SeedReport where
  permissionsCreated : Nat
  rolesCreated : Nat
deriving DecidableEq

/-! ## The run -/

universe u

variable {m : Type → Type u} [Monad m]

/-- The numbers of permissions by key; of two permissions with one key the later one
counts. -/
abbrev PermissionIndex := List (PermissionKey × Int)

def PermissionIndex.of (permissions : List Permission) : PermissionIndex :=
  permissions.foldl (fun index permission => (permission.key, permission.id) :: index) []

/-- Creates the permissions with the given keys that the index lacks. Returns the
index with them and how many there were. -/
def seedPermissions (backend : Backend m) (index : PermissionIndex) (created : Nat) :
    List PermissionKey → m (PermissionIndex × Nat)
  | [] => pure (index, created)
  | key :: keys => do
      if (index.lookup key).isSome then
        seedPermissions backend index created keys
      else
        let now ← backend.now
        let uuid ← backend.freshUuid
        let permission ← backend.call
          (.createPermission (Permission.fresh (permissionTitle key) key uuid now))
        seedPermissions backend ((key, permission.id) :: index) (created + 1) keys

/-- Creates the defined role if there is no live role with its key, and attaches its
permissions. Tells whether it did. -/
def seedRole (backend : Backend m) (index : PermissionIndex) (definition : RoleDefinition) :
    m Bool := do
  if (← backend.call (.roleByKey definition.key)).isSome then
    return false
  let now ← backend.now
  let uuid ← backend.freshUuid
  let role ← backend.call (.createRole
    { Role.fresh definition.title definition.key uuid now with
      description := definition.description, isDefault := definition.isDefault })
  backend.call (.replacePermissions role.id (definition.permissions.filterMap (index.lookup ·)))
  return true

def seedRoles (backend : Backend m) (index : PermissionIndex) (created : Nat) :
    List RoleDefinition → m Nat
  | [] => pure created
  | definition :: definitions => do
      let isNew ← seedRole backend index definition
      seedRoles backend index (if isNew then created + 1 else created) definitions

def seed (backend : Backend m) : m SeedReport := do
  backend.enter .permissions
  let permissions ← backend.call .livePermissions
  let (index, permissionsCreated) ←
    seedPermissions backend (PermissionIndex.of permissions) 0 seededKeys
  backend.enter .roles
  let rolesCreated ← seedRoles backend index 0 roleDefinitions
  return { permissionsCreated, rolesCreated }

end Entitlement.Service
