import Entitlement.Backend
import Entitlement.Uuid.Reading

/-! # Administration of roles

Creating, changing, deleting and listing roles, and replacing the permissions of a
role. A role keeps its key when it is renamed, as long as the key is cached. -/

namespace Entitlement.Service

universe u

variable {m : Type → Type u} [Monad m] [MonadExceptOf Fault m]

/-! ## Requests -/

def validTitle (title : String) : Except Fault String :=
  let trimmed := Text.trim title
  if trimmed.isEmpty then .error (.invalidBody "title" "must not be empty") else .ok trimmed

/-- The identifiers that texts spell, each once, in order of first mention; `found`
are those read already. The first text that spells none is reported. -/
def readUuids (field : String) (found : List Uuid) : List String → Except Fault (List Uuid)
  | [] => .ok found
  | text :: rest =>
      match Uuid.ofText? text with
      | none => .error (.invalidBody field ("'" ++ text ++ "' is not a valid uuid"))
      | some uuid => readUuids field (if uuid ∈ found then found else found ++ [uuid]) rest

def requestedRole (title : String) (key : RoleKey) (input : RoleInput) (uuid : Uuid)
    (now : Instant) : Role :=
  { Role.fresh title key uuid now with
    description := input.description, isDefault := input.isDefault }

/-! ## Roles -/

def createRole (backend : Backend m) (input : RoleInput) : m Role := do
  let title ← MonadExcept.ofExcept (validTitle input.title)
  let key ← MonadExcept.ofExcept (RoleKey.ofTitle title)
  backend.enter .roles
  if ← backend.call (.keyInUse key none) then
    throw (Fault.roleExists key.name)
  let now ← backend.now
  let uuid ← backend.freshUuid
  backend.call (.createRole (requestedRole title key input uuid now))

def getRole (backend : Backend m) (uuid : Uuid) : m Role := do
  backend.enter .roles
  backend.call (.roleByUuid uuid)

def defaultKeys (roles : List Role) : KeyBatch :=
  (roles.filter (·.isDefault)).foldl (fun batch role => batch.put (role.uuid.text, role.key)) []

def listRoles (backend : Backend m) : m (List Role) := do
  backend.enter .roles
  let roles ← backend.call .liveRoles
  let defaults := defaultKeys roles
  if !defaults.isEmpty then
    backend.offerKeys defaults
  return roles

/-- Changes a role. Its key is the cached one, or follows from the new title if none
is cached. -/
def updateRole (backend : Backend m) (uuid : Uuid) (input : RoleInput) : m Role := do
  let title ← MonadExcept.ofExcept (validTitle input.title)
  let cached ← backend.cachedKey uuid.text
  let key ← match cached with
    | some key => pure key
    | none => MonadExcept.ofExcept (RoleKey.ofTitle title)
  backend.enter .roles
  if ← backend.call (.keyInUse key (some uuid)) then
    throw (Fault.roleExists key.name)
  let now ← backend.now
  backend.call (.updateRole (requestedRole title key input uuid now) uuid)

def deleteRole (backend : Backend m) (uuid : Uuid) (deletedBy : Int) : m Unit := do
  backend.enter .roles
  backend.call (.deleteRole uuid deletedBy)

/-! ## Permissions of roles -/

def getPermissions (backend : Backend m) (uuid : Uuid) : m RoleWithPermissions := do
  backend.enter .roles
  backend.call (.roleWithPermissions uuid)

/-- Attaches exactly the live permissions among those named to a role. Identifiers of
no live permission are dropped; a text that is no identifier rejects the request. -/
def syncPermissions (backend : Backend m) (uuid : Uuid) (permissionUuids : List String) :
    m RoleWithPermissions := do
  let uuids ← MonadExcept.ofExcept (readUuids "permission_uuids" [] permissionUuids)
  backend.enter .permissions
  let permissionIds ← backend.call (.permissionIds uuids)
  backend.enter .roles
  let role ← backend.call (.roleByUuid uuid)
  backend.call (.replacePermissions role.id permissionIds)
  backend.call (.roleWithPermissions uuid)

def listPermissions (backend : Backend m) : m (List Permission) := do
  backend.enter .permissions
  backend.call .livePermissions

end Entitlement.Service
