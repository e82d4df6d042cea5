import Entitlement.Action
import Entitlement.Call
import Entitlement.Store.Supply
import Entitlement.Store.Tables

/-! # The working copy

A unit of work has tables of its own to work on. Here is what each call does to
them. A call that fails changes nothing. -/

namespace Entitlement.Store

structure Workspace where
  tables : Tables
  supply : Supply

namespace Workspace

open Entitlement.Action

def takeId (workspace : Workspace) : Int × Workspace :=
  let (id, supply) := workspace.supply.takeId
  (id, { workspace with supply })

def readClock (workspace : Workspace) : Instant × Workspace :=
  let (now, supply) := workspace.supply.readClock
  (now, { workspace with supply })

/-! ## Roles -/

def createRole (role : Role) : Action Workspace Role :=
  ofOutcome fun workspace =>
    if workspace.tables.keyInUse role.key none then
      (.error (.roleExists role.key.name), workspace)
    else
      let (id, workspace) := workspace.takeId
      let created := { role with id }
      (.ok created, { workspace with
        tables := { workspace.tables with roles := workspace.tables.roles ++ [created] } })

/-- Gives a live role the title, key, description and default mark of another, unless
a different live role has that key. -/
def updateRole (role : Role) (uuid : Uuid) : Action Workspace Role :=
  ofOutcome fun workspace =>
    if workspace.tables.keyInUse role.key (some uuid) then
      (.error (.roleExists role.key.name), workspace)
    else
      let (now, later) := workspace.readClock
      let change (present : Role) : Role :=
        { present with
          title := role.title, key := role.key, description := role.description,
          isDefault := role.isDefault, updatedAt := now }
      match changeFirst? (fun present => present.uuid = uuid && present.isLive) change
          workspace.tables.roles with
      | none => (.error (.noRows Operation.updateRole.name), workspace)
      | some (changed, roles) =>
          (.ok changed, { later with tables := { later.tables with roles } })

def deleteRole (uuid : Uuid) (deletedBy : Int) : Action Workspace Unit :=
  ofOutcome fun workspace =>
    let (now, later) := workspace.readClock
    let change (present : Role) : Role :=
      { present with deletedAt := some now, deletedBy := some deletedBy }
    match changeFirst? (fun present => present.uuid = uuid && !present.isDefault && present.isLive)
        change workspace.tables.roles with
    | none => (.error (.notDeletable "role" uuid.text), workspace)
    | some (_, roles) => (.ok (), { later with tables := { later.tables with roles } })

def replacePermissions (roleId : Int) (permissionIds : List Int) : Action Workspace Unit :=
  ofOutcome fun workspace =>
    let others := workspace.tables.attachments.filter (·.roleId ≠ roleId)
    let attachments := others ++ permissionIds.eraseDups.map fun id => ⟨roleId, id⟩
    (.ok (), { workspace with tables := { workspace.tables with attachments } })

/-! ## Permissions -/

/-- Stores a permission under the next number, unless a live permission has its key. -/
def createPermission (permission : Permission) : Action Workspace Permission :=
  ofOutcome fun workspace =>
    if workspace.tables.permissions.any fun present =>
        present.key = permission.key && present.isLive then
      (.error Operation.createPermission.failure, workspace)
    else
      let (id, workspace) := workspace.takeId
      let created := { permission with id }
      (.ok created, { workspace with
        tables := { workspace.tables with
          permissions := workspace.tables.permissions ++ [created] } })

/-! ## Grants -/

def addGrant (workspace : Workspace) (grant : Instant → Grant) : Workspace :=
  let (now, workspace) := workspace.readClock
  let (id, workspace) := workspace.takeId
  let row := { grant now with id }
  { workspace with tables := { workspace.tables with grants := workspace.tables.grants ++ [row] } }

def revokeAll (workspace : Workspace) (userId : Int) : Workspace :=
  let (now, workspace) := workspace.readClock
  let grants := workspace.tables.grants.map fun grant =>
    if grant.userId = userId && grant.isLive then { grant with deletedAt := some now } else grant
  { workspace with tables := { workspace.tables with grants } }

def assignRoles (userId : Int) (roleIds : List Int) : Action Workspace Unit :=
  ofOutcome fun workspace =>
    (.ok (), roleIds.eraseDups.foldl (fun workspace roleId =>
      workspace.addGrant (Grant.ofRole userId roleId)) (workspace.revokeAll userId))

def holdsDirectly (workspace : Workspace) (userId permissionId : Int) : Bool :=
  (workspace.tables.liveGrants userId).any (·.permissionId = some permissionId)

def grantPermissions (userId : Int) (permissionIds : List Int) : Action Workspace Unit :=
  ofOutcome fun workspace =>
    (.ok (), permissionIds.foldl (fun workspace permissionId =>
      if workspace.holdsDirectly userId permissionId then workspace
      else workspace.addGrant (Grant.ofPermission userId permissionId)) workspace)

/-! ## All calls -/

def perform {α : Type} : Call α → Action Workspace α
  | .createRole role => createRole role
  | .roleByUuid uuid => reading fun workspace =>
      match workspace.tables.roleByUuid? uuid with
      | some role => .ok role
      | none => .error (.notFound "role" uuid.text)
  | .liveRoles => reading fun workspace => .ok workspace.tables.liveRoles
  | .updateRole role uuid => updateRole role uuid
  | .deleteRole uuid deletedBy => deleteRole uuid deletedBy
  | .keyInUse key exclude => reading fun workspace => .ok (workspace.tables.keyInUse key exclude)
  | .roleByKey key => reading fun workspace => .ok (workspace.tables.roleByKey? key)
  | .roleWithPermissions uuid => reading fun workspace =>
      match workspace.tables.roleWithPermissions? uuid with
      | some bundle => .ok bundle
      | none => .error (.notFound "role" uuid.text)
  | .replacePermissions roleId permissionIds => replacePermissions roleId permissionIds
  | .roleKeysOf userId => reading fun workspace => .ok (workspace.tables.roleKeysOf userId)
  | .permissionKeysOf userId => reading fun workspace =>
      .ok (workspace.tables.permissionKeysOf userId)
  | .livePermissions => reading fun workspace => .ok workspace.tables.livePermissions
  | .permissionIds uuids => reading fun workspace => .ok (workspace.tables.permissionIds uuids)
  | .createPermission permission => createPermission permission
  | .assignRoles userId roleIds => assignRoles userId roleIds
  | .grantPermissions userId permissionIds => grantPermissions userId permissionIds
  | .grantsOf userId => reading fun workspace => .ok (workspace.tables.liveGrants userId)

end Workspace
end Entitlement.Store
