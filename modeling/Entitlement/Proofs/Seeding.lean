import Entitlement.Proofs.Contracts
import Entitlement.Proofs.PermissionKeys
import Entitlement.Proofs.WorkingCopies

/-! # Seeding completes any working copy

Whatever mixture of permissions and roles a working copy holds, seeding adds exactly what is
missing. The links of a new role go through an index in which permissions that were found and
permissions that were just created stand side by side. Once nothing is missing, nothing but the
deletion of a role makes a difference to a second run. -/

namespace Entitlement

open Store

/-! ## Room for new rows -/

def Ambient.next (ambient : Ambient) (count : Nat) : List Uuid :=
  (List.range count).map fun index => ambient.source (ambient.made + index)

theorem Ambient.next_succ (ambient : Ambient) (count : Nat) :
    ambient.next (count + 1) = ambient.makeUuid.1 :: ambient.makeUuid.2.next count := by
  rw [next, List.range_succ_eq_map, List.map_cons, List.map_map, next]
  refine congrArg (ambient.makeUuid.1 :: ·) (List.map_congr_left fun index _ => ?_)
  exact congrArg ambient.source (by simp only [makeUuid]; omega)

theorem Ambient.next_sublist (ambient : Ambient) (count : Nat) :
    (ambient.next count).Sublist (ambient.next (count + 1)) :=
  (List.range_sublist.mpr (Nat.le_succ count)).map _

namespace Store

theorem nodup_use_next {α : Type} {name : α} {others used : List α}
    (distinct : ((name :: others) ++ used).Nodup) : (others ++ (used ++ [name])).Nodup := by
  have after : ((others ++ used) ++ [name]).Nodup :=
    List.nodup_append_comm.mp (List.singleton_append ▸ distinct)
  rwa [List.append_assoc] at after

def liveUuids (roles : List Role) : List Uuid :=
  (roles.filter (·.isLive)).map (·.uuid)

theorem liveUuids_append (left right : List Role) :
    liveUuids (left ++ right) = liveUuids left ++ liveUuids right := by
  simp [liveUuids]

theorem livePermissionKeys_of_live {permissions : List Permission}
    (live : ∀ permission ∈ permissions, permission.isLive = true) :
    livePermissionKeys permissions = permissions.map (·.key) := by
  rw [livePermissionKeys, List.filter_eq_self.mpr live]

theorem liveKeys_of_live {roles : List Role} (live : ∀ role ∈ roles, role.isLive = true) :
    liveKeys roles = roles.map (·.key) := by
  rw [liveKeys, List.filter_eq_self.mpr live]

theorem Tables.Intact.has_role {tables : Tables} (intact : tables.Intact)
    {attachment : Attachment} (member : attachment ∈ tables.attachments) :
    attachment.roleId ∈ tables.ids .role :=
  intact (.role, attachment.roleId)
    ((mem_references_iff _ _).mpr (Or.inl ⟨attachment, member, List.mem_cons_self⟩))

namespace Workspace

structure HasRoom (workspace : Workspace) (count : Nat) : Prop where
  roles : (numbersAfter workspace.supply.lastId count ++ workspace.tables.ids .role).Nodup
  permissions :
    (numbersAfter workspace.supply.lastId count ++ workspace.tables.ids .permission).Nodup
  intact : workspace.tables.Intact

def HasIdentifiers (workspace : Workspace) (count : Nat) : Prop :=
  (workspace.supply.ambient.next count ++ liveUuids workspace.tables.roles).Nodup

def addPermission (workspace : Workspace) (permission : Permission) : Workspace :=
  ⟨{ workspace.tables with
      permissions := workspace.tables.permissions ++
        [{ permission with id := workspace.supply.takeId.1 }] },
    workspace.supply.takeId.2⟩

variable {workspace : Workspace} {count : Nat}

theorem HasRoom.fewer (room : workspace.HasRoom (count + 1)) : workspace.HasRoom count where
  roles := room.roles.sublist ((numbersAfter_sublist _ count).append_right _)
  permissions := room.permissions.sublist ((numbersAfter_sublist _ count).append_right _)
  intact := room.intact

theorem HasIdentifiers.fewer (has : workspace.HasIdentifiers (count + 1)) :
    workspace.HasIdentifiers count :=
  has.sublist ((Ambient.next_sublist _ count).append_right _)

theorem HasIdentifiers.stamped (has : workspace.HasIdentifiers (count + 1)) :
    workspace.stamped.HasIdentifiers count := by
  rw [HasIdentifiers, Ambient.next_succ] at has
  exact (List.nodup_cons.mp has).2

theorem HasRoom.role_isNew (room : workspace.HasRoom (count + 1)) :
    workspace.stamped.supply.takeId.1 ∉ workspace.tables.ids .role :=
  fun member => (List.nodup_append.mp room.roles).2.2 _ List.mem_cons_self _ member rfl

theorem HasRoom.permission_isNew (room : workspace.HasRoom (count + 1)) :
    workspace.stamped.supply.takeId.1 ∉ workspace.tables.ids .permission :=
  fun member => (List.nodup_append.mp room.permissions).2.2 _ List.mem_cons_self _ member rfl

theorem HasRoom.addPermission (room : workspace.HasRoom (count + 1)) {permission : Permission}
    (isFree : permission.key ∉ livePermissionKeys workspace.tables.permissions) :
    (workspace.stamped.addPermission permission).HasRoom count := by
  have change : Change workspace.stamped (.createPermission permission)
      (workspace.stamped.addPermission permission) := by
    refine .createPermission permission fun present member equal => ?_
    by_contra live
    exact isFree ((mem_livePermissionKeys_iff _ _).mpr
      ⟨present, member, Bool.of_not_eq_false live, equal⟩)
  refine ⟨(List.nodup_cons.mp room.roles).2, ?_,
    change.intact room.intact (fun _ none => by cases none)⟩
  rw [Tables.ids, Workspace.addPermission, List.map_append]
  exact nodup_use_next room.permissions

theorem HasRoom.addRole (room : workspace.HasRoom (count + 1)) {role : Role}
    (isFree : workspace.tables.keyInUse role.key none = false) :
    (workspace.stamped.addRole role).HasRoom count := by
  have change : Change workspace.stamped (.createRole role) (workspace.stamped.addRole role) :=
    .createRole role isFree
  refine ⟨?_, (List.nodup_cons.mp room.permissions).2,
    change.intact room.intact (fun _ none => by cases none)⟩
  rw [Tables.ids, Workspace.addRole, List.map_append]
  exact nodup_use_next room.roles

theorem HasIdentifiers.addRole (has : workspace.HasIdentifiers (count + 1)) {role : Role}
    (identified : role.uuid = workspace.supply.ambient.makeUuid.1) :
    (workspace.stamped.addRole role).HasIdentifiers count := by
  rw [HasIdentifiers, Ambient.next_succ, ← identified] at has
  have after := nodup_use_next has
  change (_ ++ liveUuids (_ ++ [_])).Nodup
  rw [liveUuids_append]
  exact after.sublist (((List.filter_sublist.map _).append_left _).append_left _)

theorem HasRoom.replacePermissions (room : workspace.HasRoom count) {roleId : Int}
    {permissionIds : List Int} (hasRole : workspace.tables.Has (.role, roleId))
    (hasPermissions : ∀ id ∈ permissionIds, workspace.tables.Has (.permission, id)) :
    ((replacePermissions roleId permissionIds).outcome workspace).2.HasRoom count where
  roles := room.roles
  permissions := room.permissions
  intact := by
    apply (Change.replacePermissions roleId permissionIds).intact room.intact
    intro reference isNamed
    rcases List.mem_cons.mp isNamed with rfl | isNamed
    · exact hasRole
    · rcases List.mem_map.mp isNamed with ⟨id, isGiven, rfl⟩
      exact hasPermissions id isGiven

end Workspace
end Store

/-! ## The index of permissions -/

namespace Service

structure PermissionIndex.Finds (index : PermissionIndex) (permissions : List Permission) :
    Prop where
  sound : ∀ key id, index.lookup key = some id →
    ∃ permission ∈ permissions, permission.isLive = true ∧ permission.key = key ∧ permission.id = id
  complete : ∀ key ∈ livePermissionKeys permissions, (index.lookup key).isSome = true

namespace PermissionIndex.Finds

variable {index : PermissionIndex} {permissions : List Permission}

theorem isSome_iff (finds : index.Finds permissions) (key : PermissionKey) :
    (index.lookup key).isSome = true ↔ key ∈ livePermissionKeys permissions := by
  refine ⟨fun found => ?_, finds.complete key⟩
  rcases Option.isSome_iff_exists.mp found with ⟨id, isFound⟩
  rcases finds.sound key id isFound with ⟨permission, member, live, equal, -⟩
  exact (mem_livePermissionKeys_iff _ _).mpr ⟨permission, member, live, equal⟩

theorem of_livePermissions (permissions : List Permission) :
    (of (permissions.filter (·.isLive))).Finds permissions := by
  have whole : of (permissions.filter (·.isLive)) = ((permissions.filter (·.isLive)).map
      fun permission => (permission.key, permission.id)).reverse := by
    rw [of, List.foldl_flip_cons_eq_append, List.append_nil]
  rw [whole]
  constructor
  · intro key id found
    rcases List.lookup_eq_some_iff.mp found with ⟨before, after, split, -⟩
    have member : (key, id) ∈ ((permissions.filter (·.isLive)).map
        fun permission => (permission.key, permission.id)).reverse := by
      rw [split]
      exact List.mem_append_right _ List.mem_cons_self
    rcases List.mem_map.mp (List.mem_reverse.mp member) with ⟨permission, isListed, equal⟩
    rw [List.mem_filter] at isListed
    cases equal
    exact ⟨permission, isListed.1, isListed.2, rfl, rfl⟩
  · intro key isHeld
    rcases List.mem_map.mp isHeld with ⟨permission, isListed, rfl⟩
    rw [List.lookup_isSome_iff]
    exact ⟨(permission.key, permission.id), List.mem_reverse.mpr (List.mem_map_of_mem isListed),
      beq_self_eq_true _⟩

theorem add (finds : index.Finds permissions) (permission : Permission)
    (live : permission.isLive = true) :
    Finds ((permission.key, permission.id) :: index) (permissions ++ [permission]) := by
  constructor
  · intro key id found
    rw [List.lookup_cons] at found
    split at found
    · rename_i same
      cases found
      exact ⟨permission, by simp, live, (eq_of_beq same).symm, rfl⟩
    · rcases finds.sound key id found with ⟨other, member, facts⟩
      exact ⟨other, List.mem_append_left _ member, facts⟩
  · intro key isHeld
    rw [List.lookup_cons]
    split
    · rfl
    · rename_i different
      have single : livePermissionKeys [permission] = [permission.key] := by
        simp [livePermissionKeys, live]
      rw [livePermissionKeys_append, single] at isHeld
      rcases List.mem_append.mp isHeld with old | isNew
      · exact finds.complete key old
      · rw [List.mem_singleton.mp isNew, beq_self_eq_true] at different
        cases different

end PermissionIndex.Finds
end Service

/-! ## Seeding at a desk -/

namespace Desk

section

variable {surroundings : Surroundings} (healthy : surroundings.failing = []) (base : Tables)

include healthy

theorem outcome_createPermission_working {workspace : Workspace} {permission : Permission}
    (isFree : permission.key ∉ livePermissionKeys workspace.tables.permissions) :
    (backend.call (.createPermission permission)).outcome
        (working surroundings base workspace) =
      (.ok { permission with id := workspace.supply.takeId.1 },
        working surroundings base (workspace.addPermission permission)) := by
  have unused : (workspace.tables.permissions.any fun present =>
      present.key = permission.key && present.isLive) = false := by
    rw [List.any_eq_false]
    intro present member used
    rw [Bool.and_eq_true, decide_eq_true_eq] at used
    exact isFree ((mem_livePermissionKeys_iff _ _).mpr ⟨present, member, used.2, used.1⟩)
  rw [outcome_call_working healthy]
  change (((Workspace.createPermission permission).outcome workspace).1, working _ _
    ((Workspace.createPermission permission).outcome workspace).2) = _
  rw [Workspace.createPermission, Action.outcome_ofOutcome, unused]
  rfl

end

end Desk

/-! ### Permissions -/

def Store.Workspace.newPermission (workspace : Workspace) (key : PermissionKey) : Permission :=
  .fresh (Service.permissionTitle key) key workspace.supply.readClock.2.makeUuid.1
    workspace.supply.readClock.1

structure Service.PermissionsSeeded (keys : List PermissionKey) (before : Workspace)
    (index : PermissionIndex) (added : List Permission) (later : Workspace) : Prop where
  tables : later.tables =
    { before.tables with permissions := before.tables.permissions ++ added }
  missing : added.map (·.key) =
    keys.filter (· ∉ livePermissionKeys before.tables.permissions)
  live : ∀ permission ∈ added, permission.isLive = true
  isNew : ∀ permission ∈ added, permission.id ∉ before.tables.ids .permission
  finds : index.Finds later.tables.permissions

namespace Service.PermissionsSeeded

variable {key : PermissionKey} {keys : List PermissionKey} {before later : Workspace}
  {index : PermissionIndex} {added : List Permission}

theorem skip (isHeld : key ∈ livePermissionKeys before.tables.permissions)
    (seeded : PermissionsSeeded keys before index added later) :
    PermissionsSeeded (key :: keys) before index added later := by
  refine { seeded with missing := ?_ }
  rw [List.filter_cons_of_neg (by simpa using isHeld)]
  exact seeded.missing

theorem add (isFree : key ∉ livePermissionKeys before.tables.permissions)
    (notAgain : key ∉ keys) {count : Nat} (room : before.HasRoom (count + 1))
    (seeded : PermissionsSeeded keys
      (before.stamped.addPermission (before.newPermission key)) index added later) :
    PermissionsSeeded (key :: keys) before index
      ({ before.newPermission key with id := before.stamped.supply.takeId.1 } :: added) later := by
  refine ⟨?_, ?_, ?_, ?_, seeded.finds⟩
  · rw [seeded.tables]
    simp [Workspace.addPermission, Workspace.stamped]
  · rw [List.filter_cons_of_pos (by simpa using isFree), List.map_cons, seeded.missing]
    refine congrArg (key :: ·) (List.filter_congr fun other isLater => ?_)
    have different : other ≠ key := fun same => notAgain (same ▸ isLater)
    have heldThen : livePermissionKeys
        (before.stamped.addPermission (before.newPermission key)).tables.permissions =
        livePermissionKeys before.tables.permissions ++ [key] :=
      livePermissionKeys_append _ _
    simp [heldThen, different]
  · exact List.forall_mem_cons.mpr ⟨rfl, seeded.live⟩
  · refine List.forall_mem_cons.mpr ⟨room.permission_isNew, fun permission member isOld => ?_⟩
    apply seeded.isNew permission member
    rw [Tables.ids, Workspace.addPermission, List.map_append]
    exact List.mem_append_left _ isOld

end Service.PermissionsSeeded

namespace Desk

open Service

section

variable {surroundings : Surroundings} (healthy : surroundings.failing = []) (base : Tables)

include healthy

theorem outcome_seedPermissions_of_missing {key : PermissionKey} {workspace : Workspace}
    (isFree : key ∉ livePermissionKeys workspace.tables.permissions) {index : PermissionIndex}
    (unknown : ¬ (index.lookup key).isSome = true) (created : Nat) (keys : List PermissionKey) :
    (seedPermissions backend index created (key :: keys)).outcome
        (working surroundings base workspace) =
      (seedPermissions backend ((key, workspace.stamped.supply.takeId.1) :: index) (created + 1)
        keys).outcome (working surroundings base
          (workspace.stamped.addPermission (workspace.newPermission key))) := by
  rw [seedPermissions, if_neg unknown, Action.outcome_bind]
  -- The clock and the source of identifiers answer at once.
  change (backend.call (.createPermission (workspace.newPermission key)) >>= fun permission =>
    seedPermissions backend ((key, permission.id) :: index) (created + 1) keys).outcome
      (working surroundings base workspace.stamped) = _
  rw [Action.outcome_bind, outcome_createPermission_working healthy base isFree]

theorem outcome_seedPermissions {keys : List PermissionKey} (distinct : keys.Nodup)
    {index : PermissionIndex} {workspace : Workspace} (created : Nat) {more : Nat}
    (finds : index.Finds workspace.tables.permissions)
    (room : workspace.HasRoom (keys.length + more)) :
    ∃ index' added later,
      (seedPermissions backend index created keys).outcome
          (working surroundings base workspace) =
        (.ok (index', created + added.length), working surroundings base later) ∧
      PermissionsSeeded keys workspace index' added later ∧ later.HasRoom more ∧
      (workspace.HasIdentifiers (keys.length + more) → later.HasIdentifiers more) := by
  induction keys generalizing index workspace created with
  | nil =>
      have none : PermissionsSeeded [] workspace index [] workspace :=
        ⟨by simp, rfl, List.forall_mem_nil _, List.forall_mem_nil _, finds⟩
      rw [List.length_nil, Nat.zero_add] at room ⊢
      exact ⟨index, [], workspace, rfl, none, room, id⟩
  | cons key keys induction =>
      rcases List.nodup_cons.mp distinct with ⟨notAgain, distinct⟩
      rw [List.length_cons, Nat.add_right_comm] at room ⊢
      by_cases isHeld : key ∈ livePermissionKeys workspace.tables.permissions
      · rcases induction distinct created finds room.fewer with
          ⟨index', added, later, ends, seeded, roomLater, identified⟩
        rw [seedPermissions, if_pos ((finds.isSome_iff key).mpr isHeld)]
        exact ⟨index', added, later, ends, seeded.skip isHeld, roomLater,
          fun has => identified has.fewer⟩
      · have unknown := fun found => isHeld ((finds.isSome_iff key).mp found)
        have roomNext : (workspace.stamped.addPermission (workspace.newPermission key)).HasRoom
            (keys.length + more) := room.addPermission isHeld
        rw [outcome_seedPermissions_of_missing healthy base isHeld unknown]
        rcases induction distinct (created + 1) (finds.add _ rfl) roomNext with
          ⟨index', added, later, ends, seeded, roomLater, identified⟩
        rw [Nat.add_right_comm] at ends
        exact ⟨index', _ :: added, later, ends, seeded.add isHeld notAgain room, roomLater,
          fun has => identified has.stamped⟩

end

end Desk

/-! ### Roles -/

namespace Service

def RoleDefinition.newRole (definition : RoleDefinition) (workspace : Workspace) : Role :=
  { Role.fresh definition.title definition.key workspace.supply.readClock.2.makeUuid.1
      workspace.supply.readClock.1 with
    description := definition.description, isDefault := definition.isDefault }

def RoleDefinition.numbers (definition : RoleDefinition) (index : PermissionIndex) : List Int :=
  definition.permissions.filterMap (index.lookup ·)

def links (index : PermissionIndex) (made : RoleDefinition × Role) : List Attachment :=
  (made.1.numbers index).eraseDups.map fun id => ⟨made.2.id, id⟩

structure RoleDefinition.Describes (definition : RoleDefinition) (role : Role) : Prop where
  key : role.key = definition.key
  title : role.title = definition.title
  description : role.description = definition.description
  isDefault : role.isDefault = definition.isDefault
  live : role.isLive = true

/-- What seeding the defined roles has made of a working copy; each new role is listed with the
definition that it meets. -/
structure RolesSeeded (definitions : List RoleDefinition) (index : PermissionIndex)
    (before : Workspace) (made : List (RoleDefinition × Role)) (later : Workspace) : Prop where
  tables : later.tables = { before.tables with
    roles := before.tables.roles ++ made.map (·.2)
    attachments := before.tables.attachments ++ made.flatMap (links index) }
  missing : made.map (·.1) = definitions.filter (·.key ∉ liveKeys before.tables.roles)
  described : ∀ entry ∈ made, entry.1.Describes entry.2
  isNew : ∀ entry ∈ made, entry.2.id ∉ before.tables.ids .role

end Service

namespace Store.Workspace

open Service

def withDefined (workspace : Workspace) (definition : RoleDefinition) (index : PermissionIndex) :
    Workspace :=
  ((replacePermissions workspace.stamped.supply.takeId.1 (definition.numbers index)).outcome
    (workspace.stamped.addRole (definition.newRole workspace))).2

variable {workspace : Workspace} {definition : RoleDefinition} {index : PermissionIndex}
  {count : Nat}

theorem HasRoom.withDefined (room : workspace.HasRoom (count + 1))
    (isMissing : definition.key ∉ liveKeys workspace.tables.roles)
    (finds : index.Finds workspace.tables.permissions) :
    (workspace.withDefined definition index).HasRoom count := by
  have roomThen : (workspace.stamped.addRole (definition.newRole workspace)).HasRoom count :=
    room.addRole (keyInUse_eq_false_iff.mpr isMissing)
  apply roomThen.replacePermissions
  · exact List.mem_map_of_mem (List.mem_append_right _ List.mem_cons_self)
  · intro id isListed
    rcases List.mem_filterMap.mp isListed with ⟨key, -, found⟩
    rcases finds.sound key id found with ⟨permission, member, -, -, rfl⟩
    exact List.mem_map_of_mem member

theorem HasRoom.tables_withDefined (room : workspace.HasRoom (count + 1))
    (definition : RoleDefinition) (index : PermissionIndex) :
    (workspace.withDefined definition index).tables = { workspace.tables with
      roles := workspace.tables.roles ++
        [{ definition.newRole workspace with id := workspace.stamped.supply.takeId.1 }]
      attachments := workspace.tables.attachments ++ links index (definition,
        { definition.newRole workspace with id := workspace.stamped.supply.takeId.1 }) } := by
  have others : workspace.tables.attachments.filter
      (·.roleId ≠ workspace.stamped.supply.takeId.1) = workspace.tables.attachments := by
    rw [List.filter_eq_self]
    intro attachment member
    rw [decide_eq_true_eq]
    intro same
    exact room.role_isNew (same ▸ room.intact.has_role member)
  change (⟨_, _, workspace.tables.attachments.filter
    (·.roleId ≠ workspace.stamped.supply.takeId.1) ++ _, _⟩ : Tables) = _
  rw [others]
  rfl

end Store.Workspace

namespace Service.RolesSeeded

variable {definition : RoleDefinition} {definitions : List RoleDefinition}
  {index : PermissionIndex} {before later : Workspace} {made : List (RoleDefinition × Role)}

theorem skip (isHeld : definition.key ∈ liveKeys before.tables.roles)
    (seeded : RolesSeeded definitions index before made later) :
    RolesSeeded (definition :: definitions) index before made later := by
  refine { seeded with missing := ?_ }
  rw [List.filter_cons_of_neg (by simpa using isHeld)]
  exact seeded.missing

theorem add (isMissing : definition.key ∉ liveKeys before.tables.roles)
    (notAgain : definition.key ∉ definitions.map (·.key)) {count : Nat}
    (room : before.HasRoom (count + 1))
    (seeded : RolesSeeded definitions index (before.withDefined definition index) made later) :
    RolesSeeded (definition :: definitions) index before ((definition,
      { definition.newRole before with id := before.stamped.supply.takeId.1 }) :: made) later := by
  have tables := room.tables_withDefined definition index
  refine ⟨?_, ?_, ?_, ?_⟩
  · rw [seeded.tables, tables]
    simp
  · rw [List.filter_cons_of_pos (by simpa using isMissing), List.map_cons, seeded.missing, tables]
    refine congrArg (definition :: ·) (List.filter_congr fun other isLater => ?_)
    have different : other.key ≠ definition.key :=
      fun same => notAgain (same ▸ List.mem_map_of_mem isLater)
    have single : ∀ role : Role, role.isLive = true → liveKeys [role] = [role.key] :=
      fun role live => liveKeys_of_live (by simpa using live)
    rw [liveKeys_append, single _ rfl]
    simp [RoleDefinition.newRole, Role.fresh, different]
  · exact List.forall_mem_cons.mpr ⟨⟨rfl, rfl, rfl, rfl, rfl⟩, seeded.described⟩
  · refine List.forall_mem_cons.mpr ⟨room.role_isNew, fun entry member isOld => ?_⟩
    apply seeded.isNew entry member
    rw [tables, Tables.ids, List.map_append]
    exact List.mem_append_left _ isOld

end Service.RolesSeeded

namespace Desk

open Service

section

variable {surroundings : Surroundings} (healthy : surroundings.failing = []) (base : Tables)

include healthy

theorem outcome_seedRole_of_present {definition : RoleDefinition} {workspace : Workspace}
    (isHeld : definition.key ∈ liveKeys workspace.tables.roles) (index : PermissionIndex) :
    (seedRole backend index definition).outcome (working surroundings base workspace) =
      (.ok false, working surroundings base workspace) := by
  have found : (workspace.tables.roleByKey? definition.key).isSome = true := by
    rcases (mem_liveKeys_iff _ _).mp isHeld with ⟨role, member, live, equal⟩
    rw [Tables.roleByKey?, List.find?_isSome]
    exact ⟨role, member, by simp [live, equal]⟩
  rw [seedRole, Action.outcome_bind, outcome_call_working healthy]
  change (if (workspace.tables.roleByKey? definition.key).isSome then _ else _ :
    Action Desk Bool).outcome _ = _
  rw [if_pos found]
  rfl

theorem outcome_seedRole_of_missing {definition : RoleDefinition} {workspace : Workspace}
    (isMissing : definition.key ∉ liveKeys workspace.tables.roles) (index : PermissionIndex) :
    (seedRole backend index definition).outcome (working surroundings base workspace) =
      (.ok true, working surroundings base (workspace.withDefined definition index)) := by
  have notFound : ¬ (workspace.tables.roleByKey? definition.key).isSome = true := by
    rw [Tables.roleByKey?, List.find?_isSome]
    rintro ⟨role, member, isWanted⟩
    simp only [Bool.and_eq_true, decide_eq_true_eq] at isWanted
    exact isMissing ((mem_liveKeys_iff _ _).mpr ⟨role, member, isWanted.2, isWanted.1⟩)
  rw [seedRole, Action.outcome_bind, outcome_call_working healthy]
  change (if (workspace.tables.roleByKey? definition.key).isSome then _ else _ :
    Action Desk Bool).outcome _ = _
  rw [if_neg notFound]
  change (backend.call (.createRole (definition.newRole workspace)) >>= fun role => do
    backend.call (.replacePermissions role.id (definition.numbers index))
    return true).outcome (working surroundings base workspace.stamped) = _
  have unused : workspace.stamped.tables.keyInUse (definition.newRole workspace).key none = false :=
    keyInUse_eq_false_iff.mpr isMissing
  rw [Action.outcome_bind, outcome_createRole_working healthy base unused]
  dsimp only
  rw [Action.outcome_bind, outcome_call_working healthy]
  rfl

theorem outcome_seedRoles {definitions : List RoleDefinition}
    (distinct : (definitions.map (·.key)).Nodup) {index : PermissionIndex}
    {workspace : Workspace} (created : Nat) {more : Nat}
    (finds : index.Finds workspace.tables.permissions)
    (room : workspace.HasRoom (definitions.length + more)) :
    ∃ made later,
      (seedRoles backend index created definitions).outcome (working surroundings base workspace) =
        (.ok (created + made.length), working surroundings base later) ∧
      RolesSeeded definitions index workspace made later ∧ later.HasRoom more ∧
      (workspace.HasIdentifiers (definitions.length + more) → later.HasIdentifiers more) := by
  induction definitions generalizing workspace created with
  | nil =>
      have none : RolesSeeded [] index workspace [] workspace :=
        ⟨by simp, rfl, List.forall_mem_nil _, List.forall_mem_nil _⟩
      rw [List.length_nil, Nat.zero_add] at room ⊢
      exact ⟨[], workspace, rfl, none, room, id⟩
  | cons definition definitions induction =>
      rcases List.nodup_cons.mp distinct with ⟨notAgain, distinct⟩
      rw [List.length_cons, Nat.add_right_comm] at room ⊢
      by_cases isHeld : definition.key ∈ liveKeys workspace.tables.roles
      · rcases induction distinct created finds room.fewer with
          ⟨made, later, ends, seeded, roomLater, identified⟩
        refine ⟨made, later, ?_, seeded.skip isHeld, roomLater, fun has => identified has.fewer⟩
        rw [seedRoles, Action.outcome_bind, outcome_seedRole_of_present healthy base isHeld]
        exact ends
      · have tables := room.tables_withDefined definition index
        have findsNext :
            index.Finds (workspace.withDefined definition index).tables.permissions := by
          rw [tables]
          exact finds
        rcases induction distinct (created + 1) findsNext (room.withDefined isHeld finds) with
          ⟨made, later, ends, seeded, roomLater, identified⟩
        refine ⟨_ :: made, later, ?_, seeded.add isHeld notAgain room, roomLater,
          fun has => identified (has.addRole rfl)⟩
        rw [seedRoles, Action.outcome_bind, outcome_seedRole_of_missing healthy base isHeld]
        rw [Nat.add_right_comm] at ends
        exact ends

end

end Desk
/-! ## What seeding makes of tables -/

namespace Service

structure Completes (before after : Tables) (report : SeedReport) : Prop where
  permissions : ∃ added, after.permissions = before.permissions ++ added ∧
    added.map (·.key) = seededKeys.filter (· ∉ livePermissionKeys before.permissions) ∧
    report.permissionsCreated = added.length ∧ ∀ permission ∈ added, permission.isLive = true
  roles : ∃ added, after.roles = before.roles ++ added ∧
    added.map (·.key) = RoleKey.all.filter (· ∉ liveKeys before.roles) ∧
    report.rolesCreated = added.length ∧
    ∀ role ∈ added, ∃ definition ∈ roleDefinitions, definition.Describes role ∧
      (after.permissionsOfRole role.id).map (·.key) = definition.permissions
  attachments : before.attachments <+: after.attachments
  grants : after.grants = before.grants
  kept : ∀ role ∈ before.roles,
    after.permissionsOfRole role.id = before.permissionsOfRole role.id
  onePermission : ∀ key, key.isSentinel = false →
    (livePermissionKeys after.permissions).count key = 1
  oneRole : ∀ key, (liveKeys after.roles).count key = 1

theorem count_completed {κ : Type} [DecidableEq κ] {held all : List κ} (distinct : held.Nodup)
    (once : all.Nodup) {key : κ} (member : key ∈ all) :
    (held ++ all.filter (· ∉ held)).count key = 1 := by
  apply List.count_eq_one_of_mem
  · refine List.nodup_append.mpr ⟨distinct, once.filter _, ?_⟩
    intro old isHeld other isMissing same
    have notHeld := (List.mem_filter.mp isMissing).2
    rw [decide_eq_true_eq] at notHeld
    exact notHeld (same ▸ isHeld)
  · by_cases isHeld : key ∈ held
    · exact List.mem_append_left _ isHeld
    · exact List.mem_append_right _ (List.mem_filter.mpr ⟨member, by simpa using isHeld⟩)

theorem filter_attachments_of_absent {attachments : List Attachment} {roleId : Int}
    (absent : ∀ attachment ∈ attachments, attachment.roleId ≠ roleId) :
    attachments.filter (·.roleId = roleId) = [] := by
  rw [List.filter_eq_nil_iff]
  intro attachment member
  simpa using absent attachment member

theorem filter_links {index : PermissionIndex} {made : List (RoleDefinition × Role)}
    (distinct : (made.map fun entry => entry.2.id).Nodup) {entry : RoleDefinition × Role}
    (member : entry ∈ made) :
    (made.flatMap (links index)).filter (·.roleId = entry.2.id) = links index entry := by
  have foreign : ∀ others : List (RoleDefinition × Role),
      (∀ other ∈ others, other.2.id ≠ entry.2.id) →
        (others.flatMap (links index)).filter (·.roleId = entry.2.id) = [] := by
    intro others different
    apply filter_attachments_of_absent
    intro attachment isLink
    rcases List.mem_flatMap.mp isLink with ⟨other, isOther, inLinks⟩
    rcases List.mem_map.mp inLinks with ⟨id, -, rfl⟩
    exact different other isOther
  have own : (links index entry).filter (·.roleId = entry.2.id) = links index entry := by
    rw [List.filter_eq_self]
    intro attachment isLink
    rcases List.mem_map.mp isLink with ⟨id, -, rfl⟩
    exact decide_eq_true rfl
  rcases List.append_of_mem member with ⟨before, after, rfl⟩
  have others := key_ne_of_others distinct
  rw [List.flatMap_append, List.flatMap_cons, List.filter_append, List.filter_append, own,
    foreign before, foreign after, List.nil_append, List.append_nil]
  · exact fun other isAfter => others other (List.mem_append_right before isAfter)
  · exact fun other isBefore => others other (List.mem_append_left after isBefore)

theorem PermissionsSeeded.extends {keys : List PermissionKey} {before after : Workspace}
    {index : PermissionIndex} {added : List Permission}
    (seeded : PermissionsSeeded keys before index added after) (intact : before.tables.Intact) :
    before.tables.Extends after.tables := by
  rw [seeded.tables]
  refine ⟨⟨[], by simp, List.forall_mem_nil _⟩, ⟨added, rfl, fun permission isAdded named => ?_⟩,
    rfl, rfl⟩
  exact seeded.isNew permission isAdded (intact _ named)

section

variable {middle after : Workspace} {index : PermissionIndex}
  {made : List (RoleDefinition × Role)}
  (seeded : RolesSeeded roleDefinitions index middle made after)

include seeded

theorem RolesSeeded.permissionsOfRole {roleId : Int} (isOld : roleId ∈ middle.tables.ids .role) :
    after.tables.permissionsOfRole roleId = middle.tables.permissionsOfRole roleId := by
  have foreign : (made.flatMap (links index)).filter (·.roleId = roleId) = [] := by
    apply filter_attachments_of_absent
    intro attachment isLink same
    rcases List.mem_flatMap.mp isLink with ⟨entry, isMade, inLinks⟩
    rcases List.mem_map.mp inLinks with ⟨id, -, rfl⟩
    subst same
    exact seeded.isNew entry isMade isOld
  rw [seeded.tables, Tables.permissionsOfRole, List.filter_append, foreign, List.append_nil]
  rfl

theorem RolesSeeded.defined {entry : RoleDefinition × Role} (isMade : entry ∈ made) :
    entry.1 ∈ roleDefinitions := by
  have member := List.mem_map_of_mem (f := (·.1)) isMade
  rw [seeded.missing] at member
  exact (List.mem_filter.mp member).1

theorem RolesSeeded.permissions_of_made (intact : middle.tables.Intact)
    (roleIds : (after.tables.ids .role).Nodup)
    (permissionIds : (after.tables.ids .permission).Nodup)
    (finds : index.Finds middle.tables.permissions)
    (complete : ∀ key ∈ seededKeys, (index.lookup key).isSome = true)
    {entry : RoleDefinition × Role} (isMade : entry ∈ made) :
    (after.tables.permissionsOfRole entry.2.id).map (·.key) = entry.1.permissions := by
  have catalogue : ∀ definition ∈ roleDefinitions, definition.permissions.Nodup ∧
      ∀ key ∈ definition.permissions, key ∈ seededKeys := by decide
  rcases catalogue entry.1 (seeded.defined isMade) with ⟨once, among⟩
  -- The index leads from each key to a live permission with this key.
  have leads : ∀ key ∈ entry.1.permissions, ∃ permission, permission.key = key ∧
      index.lookup key = some permission.id ∧
      after.tables.permissionById? permission.id = some permission := by
    intro key isAsked
    rcases Option.isSome_iff_exists.mp (complete key (among key isAsked)) with ⟨id, found⟩
    rcases finds.sound key id found with ⟨permission, member, live, hasKey, rfl⟩
    refine ⟨permission, hasKey, found, ?_⟩
    rw [Tables.permissionById?_eq_some_iff permissionIds, seeded.tables]
    exact ⟨member, rfl, live⟩
  have numbersOnce : (entry.1.numbers index).Nodup := by
    refine once.filterMap fun first second id isFirst isSecond => ?_
    rcases finds.sound first id isFirst with ⟨permission, member, -, rfl, hasId⟩
    rcases finds.sound second id isSecond with ⟨other, otherMember, -, rfl, otherHasId⟩
    have sameTable : after.tables.permissions = middle.tables.permissions := by rw [seeded.tables]
    rw [Tables.ids, sameTable] at permissionIds
    exact congrArg _ (List.inj_on_of_nodup_map permissionIds member otherMember
      (hasId.trans otherHasId.symm))
  have ownLinks : after.tables.attachments.filter (·.roleId = entry.2.id) =
      (entry.1.numbers index).map fun id => ⟨entry.2.id, id⟩ := by
    have madeOnce : (made.map fun entry => entry.2.id).Nodup := by
      rw [Tables.ids, seeded.tables, List.map_append, List.map_map] at roleIds
      exact (List.nodup_append.mp roleIds).2.1
    have unlinked : middle.tables.attachments.filter (·.roleId = entry.2.id) = [] := by
      apply filter_attachments_of_absent
      intro attachment member same
      exact seeded.isNew entry isMade (same ▸ intact.has_role member)
    rw [seeded.tables, List.filter_append, unlinked, List.nil_append,
      filter_links madeOnce isMade, links, eraseDups_of_nodup numbersOnce]
  rw [Tables.permissionsOfRole, ownLinks, List.filterMap_map, RoleDefinition.numbers,
    List.filterMap_filterMap, List.map_filterMap]
  conv_rhs => rw [← List.filterMap_some (l := entry.1.permissions)]
  apply List.filterMap_congr
  intro key isAsked
  rcases leads key isAsked with ⟨permission, rfl, found, isThere⟩
  simp [found, isThere]

end

theorem completes {before middle after : Workspace} {index : PermissionIndex}
    {added : List Permission} {made : List (RoleDefinition × Role)} {many few rest : Nat}
    (permissionsSeeded : PermissionsSeeded seededKeys before index added middle)
    (rolesSeeded : RolesSeeded roleDefinitions index middle made after)
    (room : before.HasRoom many) (roomMiddle : middle.HasRoom few) (roomAfter : after.HasRoom rest)
    (roleKeys : before.tables.LiveKeysDistinct)
    (permissionKeys : before.tables.PermissionKeysDistinct) :
    Completes before.tables after.tables ⟨added.length, made.length⟩ := by
  have extended := permissionsSeeded.extends room.intact
  have sameRoles : middle.tables.roles = before.tables.roles := by rw [permissionsSeeded.tables]
  have permissions : after.tables.permissions = before.tables.permissions ++ added := by
    rw [rolesSeeded.tables, permissionsSeeded.tables]
  have roles : after.tables.roles = before.tables.roles ++ made.map (·.2) := by
    rw [rolesSeeded.tables, permissionsSeeded.tables]
  have liveMade : ∀ role ∈ made.map (·.2), role.isLive = true := by
    intro role member
    rcases List.mem_map.mp member with ⟨entry, isMade, rfl⟩
    exact (rolesSeeded.described entry isMade).live
  have madeKeys : (made.map (·.2)).map (·.key) =
      RoleKey.all.filter (· ∉ liveKeys before.tables.roles) := by
    have defined : roleDefinitions.map (·.key) = RoleKey.all := by decide
    rw [← defined, List.filter_map, ← sameRoles]
    change _ = (roleDefinitions.filter (·.key ∉ liveKeys middle.tables.roles)).map (·.key)
    rw [← rolesSeeded.missing, List.map_map, List.map_map]
    exact List.map_congr_left fun entry isMade => (rolesSeeded.described entry isMade).key
  have heldPermissions : livePermissionKeys after.tables.permissions =
      livePermissionKeys before.tables.permissions ++
        seededKeys.filter (· ∉ livePermissionKeys before.tables.permissions) := by
    rw [permissions, livePermissionKeys_append, livePermissionKeys_of_live permissionsSeeded.live,
      permissionsSeeded.missing]
  have heldRoles : liveKeys after.tables.roles = liveKeys before.tables.roles ++
      RoleKey.all.filter (· ∉ liveKeys before.tables.roles) := by
    rw [roles, liveKeys_append, liveKeys_of_live liveMade, madeKeys]
  have onePermission : ∀ key ∈ seededKeys,
      (livePermissionKeys after.tables.permissions).count key = 1 := by
    intro key isSeeded
    rw [heldPermissions]
    exact count_completed permissionKeys (by decide) isSeeded
  have found : ∀ key ∈ seededKeys, (index.lookup key).isSome = true := by
    intro key isSeeded
    have held := List.count_pos_iff.mp
      (Nat.lt_of_lt_of_eq Nat.one_pos (onePermission key isSeeded).symm)
    apply permissionsSeeded.finds.complete
    rw [rolesSeeded.tables] at held
    exact held
  refine ⟨⟨added, permissions, permissionsSeeded.missing, rfl, permissionsSeeded.live⟩,
    ⟨made.map (·.2), roles, madeKeys, by simp, fun role member => ?_⟩, ?_, ?_, ?_, ?_, ?_⟩
  · rcases List.mem_map.mp member with ⟨entry, isMade, rfl⟩
    exact ⟨entry.1, rolesSeeded.defined isMade, rolesSeeded.described entry isMade,
      rolesSeeded.permissions_of_made roomMiddle.intact roomAfter.roles.of_append_right
        roomAfter.permissions.of_append_right permissionsSeeded.finds found isMade⟩
  · rw [rolesSeeded.tables, permissionsSeeded.tables]
    exact List.prefix_append _ _
  · rw [rolesSeeded.tables, permissionsSeeded.tables]
  · intro role isOld
    have isKnown : role.id ∈ middle.tables.ids .role := by
      rw [Tables.ids, sameRoles]
      exact List.mem_map_of_mem isOld
    exact (rolesSeeded.permissionsOfRole isKnown).trans (extended.permissionsOfRole role.id)
  · intro key notSentinel
    exact onePermission key (List.mem_filter.mpr ⟨key.mem_all, by simp [notSentinel]⟩)
  · intro key
    rw [heldRoles]
    exact count_completed roleKeys (by decide) key.mem_all

end Service

namespace Desk

open Service

/-- Where there is room for all that can be missing, seeding succeeds and completes the working
copy. -/
theorem outcome_seed {surroundings : Surroundings} (healthy : surroundings.failing = [])
    (base : Tables) {workspace : Workspace}
    (room : workspace.HasRoom (seededKeys.length + roleDefinitions.length))
    (roleKeys : workspace.tables.LiveKeysDistinct)
    (permissionKeys : workspace.tables.PermissionKeysDistinct) :
    ∃ report later,
      (seed backend).outcome (working surroundings base workspace) =
        (.ok report, working surroundings base later) ∧
      Completes workspace.tables later.tables report ∧
      (workspace.HasIdentifiers (seededKeys.length + roleDefinitions.length) →
        (liveUuids later.tables.roles).Nodup) := by
  have finds := PermissionIndex.Finds.of_livePermissions workspace.tables.permissions
  rcases outcome_seedPermissions healthy base (by decide) 0 finds room with
    ⟨index, added, middle, permissionsEnd, permissionsSeeded, roomMiddle, identifiedMiddle⟩
  have roomForRoles : middle.HasRoom (roleDefinitions.length + 0) := roomMiddle
  have eachOnce : (roleDefinitions.map (·.key)).Nodup := by decide
  rcases outcome_seedRoles healthy base eachOnce 0 permissionsSeeded.finds roomForRoles with
    ⟨made, later, rolesEnd, rolesSeeded, roomLater, identifiedLater⟩
  rw [Nat.zero_add] at permissionsEnd rolesEnd
  refine ⟨⟨added.length, made.length⟩, later, ?_, ?_, ?_⟩
  · have listed : (Workspace.perform .livePermissions).outcome workspace =
      (.ok workspace.tables.livePermissions, workspace) := rfl
    rw [seed, outcome_enter_working, outcome_call_working_of_ok healthy base listed,
      Action.outcome_bind, Tables.livePermissions, permissionsEnd]
    dsimp only
    rw [outcome_enter_working, Action.outcome_bind, rolesEnd]
    rfl
  · exact completes permissionsSeeded rolesSeeded room roomMiddle roomLater roleKeys permissionKeys
  · exact fun has => (identifiedLater (identifiedMiddle has)).of_append_right

end Desk
end Entitlement
