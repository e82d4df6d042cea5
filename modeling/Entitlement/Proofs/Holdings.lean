import Entitlement.Proofs.Rows

/-! # Who holds what

A user holds a role by a live grant of it, and a permission by a live grant of its own or
through a role that it is attached to; a role or permission that is not live itself is held
by nobody. As long as numbers are distinct, the look-ups of the tables find exactly what is
held. -/

namespace Entitlement.Store.Tables

/-! ## Holding roles and permissions -/

def HoldsRole (tables : Tables) (userId : Int) (role : Role) : Prop :=
  role ∈ tables.roles ∧ role.isLive ∧
    ∃ grant ∈ tables.grants, grant.userId = userId ∧ grant.isLive ∧ grant.roleId = some role.id

def HoldsPermission (tables : Tables) (userId : Int) (permission : Permission) : Prop :=
  permission ∈ tables.permissions ∧ permission.isLive ∧
    ((∃ grant ∈ tables.grants, grant.userId = userId ∧ grant.isLive ∧
        grant.permissionId = some permission.id) ∨
      ∃ role, tables.HoldsRole userId role ∧ ⟨role.id, permission.id⟩ ∈ tables.attachments)

def IsSuperAdmin (tables : Tables) (userId : Int) : Prop :=
  ∃ role, tables.HoldsRole userId role ∧ role.key = .superAdmin

def Allows (tables : Tables) (userId : Int) (required : List PermissionKey) : Prop :=
  tables.IsSuperAdmin userId ∨ PermissionKey.none ∈ required ∨
    ∃ permission, tables.HoldsPermission userId permission ∧ permission.key ∈ required

/-! ## What the look-ups find -/

theorem mem_liveGrants_iff (tables : Tables) (userId : Int) (grant : Grant) :
    grant ∈ tables.liveGrants userId ↔
      grant ∈ tables.grants ∧ grant.userId = userId ∧ grant.isLive := by
  simp [liveGrants, List.mem_filter]

theorem permissionById?_eq_some_iff {tables : Tables}
    (distinct : (tables.permissions.map (·.id)).Nodup) (id : Int) (permission : Permission) :
    tables.permissionById? id = some permission ↔
      permission ∈ tables.permissions ∧ permission.id = id ∧ permission.isLive :=
  find?_key_eq_some_iff distinct id Permission.isLive permission

theorem bind_roleById?_eq_some_iff {tables : Tables} (distinct : tables.IdsDistinct)
    (id? : Option Int) (role : Role) :
    id?.bind tables.roleById? = some role ↔
      role ∈ tables.roles ∧ role.isLive ∧ id? = some role.id :=
  bind_find?_key_eq_some_iff distinct.roles id? Role.isLive role

theorem bind_permissionById?_eq_some_iff {tables : Tables} (distinct : tables.IdsDistinct)
    (id? : Option Int) (permission : Permission) :
    id?.bind tables.permissionById? = some permission ↔
      permission ∈ tables.permissions ∧ permission.isLive ∧ id? = some permission.id :=
  bind_find?_key_eq_some_iff distinct.permissions id? Permission.isLive permission

theorem mem_roleKeysOf_iff {tables : Tables} (distinct : tables.IdsDistinct) (userId : Int)
    (key : RoleKey) :
    key ∈ tables.roleKeysOf userId ↔ ∃ role, tables.HoldsRole userId role ∧ role.key = key := by
  simp only [roleKeysOf, List.mem_eraseDups, List.mem_filterMap, mem_liveGrants_iff,
    Option.map_eq_some_iff, bind_roleById?_eq_some_iff distinct]
  constructor
  · intro given
    rcases given with ⟨grant, ⟨granted, owner, live⟩, role, ⟨present, isLive, names⟩, equal⟩
    exact ⟨role, ⟨present, isLive, grant, granted, owner, live, names⟩, equal⟩
  · intro given
    rcases given with ⟨role, ⟨present, isLive, grant, granted, owner, live, names⟩, equal⟩
    exact ⟨grant, ⟨granted, owner, live⟩, role, ⟨present, isLive, names⟩, equal⟩

theorem mem_permissionsOfRole_iff {tables : Tables} (distinct : tables.IdsDistinct)
    (roleId : Int) (permission : Permission) :
    permission ∈ tables.permissionsOfRole roleId ↔
      permission ∈ tables.permissions ∧ permission.isLive ∧
        ⟨roleId, permission.id⟩ ∈ tables.attachments := by
  simp only [permissionsOfRole, List.mem_filterMap, List.mem_filter, decide_eq_true_eq,
    permissionById?_eq_some_iff distinct.permissions]
  constructor
  · intro given
    rcases given with ⟨attachment, ⟨attached, rfl⟩, present, equal, live⟩
    rw [equal]
    exact ⟨present, live, attached⟩
  · intro given
    rcases given with ⟨present, live, attached⟩
    exact ⟨⟨roleId, permission.id⟩, ⟨attached, rfl⟩, present, rfl, live⟩

theorem mem_permissionsOfGrant (tables : Tables) (grant : Grant) (permission : Permission) :
    permission ∈ tables.permissionsOfGrant grant ↔
      (∃ role, grant.roleId.bind tables.roleById? = some role ∧
        permission ∈ tables.permissionsOfRole role.id) ∨
      grant.permissionId.bind tables.permissionById? = some permission := by
  rw [permissionsOfGrant, List.mem_append, Option.mem_toList]
  cases found : grant.roleId.bind tables.roleById? with
  | none => simp
  | some role => simp

/-- A grant gives the permissions of the live role that it names, and the live permission
that it names itself. -/
theorem mem_permissionsOfGrant_iff {tables : Tables} (distinct : tables.IdsDistinct)
    (grant : Grant) (permission : Permission) :
    permission ∈ tables.permissionsOfGrant grant ↔
      permission ∈ tables.permissions ∧ permission.isLive ∧
        (grant.permissionId = some permission.id ∨
          ∃ role ∈ tables.roles, role.isLive ∧ grant.roleId = some role.id ∧
            ⟨role.id, permission.id⟩ ∈ tables.attachments) := by
  simp only [mem_permissionsOfGrant, bind_roleById?_eq_some_iff distinct,
    bind_permissionById?_eq_some_iff distinct, mem_permissionsOfRole_iff distinct]
  constructor
  · intro given
    rcases given with ⟨role, ⟨inRoles, roleLive, names⟩, present, live, attached⟩ |
      ⟨present, live, names⟩
    · exact ⟨present, live, Or.inr ⟨role, inRoles, roleLive, names, attached⟩⟩
    · exact ⟨present, live, Or.inl names⟩
  · intro given
    rcases given with ⟨present, live, names | ⟨role, inRoles, roleLive, names, attached⟩⟩
    · exact Or.inr ⟨present, live, names⟩
    · exact Or.inl ⟨role, ⟨inRoles, roleLive, names⟩, present, live, attached⟩

theorem mem_permissionKeysOf_iff {tables : Tables} (distinct : tables.IdsDistinct)
    (userId : Int) (key : PermissionKey) :
    key ∈ tables.permissionKeysOf userId ↔
      ∃ permission, tables.HoldsPermission userId permission ∧ permission.key = key := by
  simp only [permissionKeysOf, List.mem_eraseDups, List.mem_map, List.mem_flatMap,
    mem_liveGrants_iff, mem_permissionsOfGrant_iff distinct]
  constructor
  · intro given
    rcases given with ⟨permission, ⟨grant, ⟨granted, owner, live⟩, present, isLive, way⟩, equal⟩
    refine ⟨permission, ⟨present, isLive, ?_⟩, equal⟩
    rcases way with names | ⟨role, inRoles, roleLive, names, attached⟩
    · exact Or.inl ⟨grant, granted, owner, live, names⟩
    · exact Or.inr ⟨role, ⟨inRoles, roleLive, grant, granted, owner, live, names⟩, attached⟩
  · intro given
    rcases given with ⟨permission, ⟨present, isLive, way⟩, equal⟩
    rcases way with ⟨grant, granted, owner, live, names⟩ |
      ⟨role, ⟨inRoles, roleLive, grant, granted, owner, live, names⟩, attached⟩
    · exact ⟨permission, ⟨grant, ⟨granted, owner, live⟩, present, isLive, Or.inl names⟩, equal⟩
    · exact ⟨permission, ⟨grant, ⟨granted, owner, live⟩, present, isLive,
        Or.inr ⟨role, inRoles, roleLive, names, attached⟩⟩, equal⟩

end Entitlement.Store.Tables
