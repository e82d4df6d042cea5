import Entitlement.Proofs.Changes

/-! # Keys of live roles

No two live roles of a copy of the tables have the same key. A call keeps this because it
looks at the keys before it changes a role, as long as an identifier tells which role is
meant; a merge of copies is looked at as a whole before it is published. -/

namespace Entitlement

open Store

namespace Store

def liveKeys (roles : List Role) : List RoleKey :=
  (roles.filter (·.isLive)).map (·.key)

def Tables.LiveKeysDistinct (tables : Tables) : Prop :=
  (liveKeys tables.roles).Nodup

def Tables.Identified (tables : Tables) : Prop :=
  ∀ role ∈ tables.roles, ∀ other ∈ tables.roles, role.uuid = other.uuid → role.id = other.id

instance (tables : Tables) : Decidable tables.LiveKeysDistinct :=
  inferInstanceAs (Decidable (liveKeys tables.roles).Nodup)

instance (tables : Tables) : Decidable tables.Identified :=
  inferInstanceAs (Decidable (∀ role ∈ tables.roles, ∀ other ∈ tables.roles,
    role.uuid = other.uuid → role.id = other.id))

theorem mem_liveKeys_iff (roles : List Role) (key : RoleKey) :
    key ∈ liveKeys roles ↔ ∃ role ∈ roles, role.isLive ∧ role.key = key := by
  simp [liveKeys, and_assoc]

theorem liveKeys_append (left right : List Role) :
    liveKeys (left ++ right) = liveKeys left ++ liveKeys right := by
  simp [liveKeys]

theorem liveKeys_cons (role : Role) (roles : List Role) :
    liveKeys (role :: roles) =
      if role.isLive then role.key :: liveKeys roles else liveKeys roles := by
  cases live : role.isLive <;> simp [liveKeys, live]

theorem Tables.LiveKeysDistinct.eq_of_key {tables : Tables} (distinct : tables.LiveKeysDistinct)
    {role other : Role} (isRole : role ∈ tables.roles ∧ role.isLive = true)
    (isOther : other ∈ tables.roles ∧ other.isLive = true) (sameKey : role.key = other.key) :
    role = other :=
  List.inj_on_of_nodup_map distinct (List.mem_filter.mpr isRole) (List.mem_filter.mpr isOther)
    sameKey

/-! ## Looking for a key that occurs twice -/

theorem repeatedKey?_eq_none_iff (seen : List RoleKey) (roles : List Role) :
    Tables.repeatedKey? seen roles = none ↔
      (liveKeys roles).Nodup ∧ ∀ key ∈ liveKeys roles, key ∉ seen := by
  induction roles generalizing seen with
  | nil => simp [Tables.repeatedKey?, liveKeys]
  | cons role roles induction =>
      rw [Tables.repeatedKey?, liveKeys_cons]
      cases live : role.isLive with
      | false => exact induction seen
      | true =>
          simp only [if_true]
          by_cases known : role.key ∈ seen
          · simp [known]
          · rw [if_neg (by simpa using known), induction, List.nodup_cons]
            constructor
            · intro distinct
              refine ⟨⟨fun member => ?_, distinct.1⟩, fun key member => ?_⟩
              · exact distinct.2 role.key member List.mem_cons_self
              · rcases List.mem_cons.mp member with rfl | member
                · exact known
                · exact fun old => distinct.2 key member (List.mem_cons_of_mem _ old)
            · intro distinct
              refine ⟨distinct.1.2, fun key member old => ?_⟩
              rcases List.mem_cons.mp old with rfl | old
              · exact distinct.1.1 member
              · exact distinct.2 key (List.mem_cons_of_mem _ member) old

theorem repeatedKey?_nil_eq_none_iff (tables : Tables) :
    Tables.repeatedKey? [] tables.roles = none ↔ tables.LiveKeysDistinct := by
  simp [repeatedKey?_eq_none_iff, Tables.LiveKeysDistinct]

/-! ## Changing roles -/

theorem nodup_liveKeys_append {roles : List Role} {role : Role}
    (distinct : (liveKeys roles).Nodup) (isFree : role.key ∉ liveKeys roles) :
    (liveKeys (roles ++ [role])).Nodup := by
  rw [liveKeys_append, liveKeys_cons]
  split
  · exact List.nodup_append_comm.mp (List.nodup_cons.mpr ⟨isFree, distinct⟩)
  · simpa [liveKeys] using distinct

theorem nodup_liveKeys_change {before after : List Role} {present changed : Role}
    (distinct : (liveKeys (before ++ present :: after)).Nodup) (live : present.isLive)
    (isFree : changed.isLive → changed.key ∉ liveKeys (before ++ after)) :
    (liveKeys (before ++ changed :: after)).Nodup := by
  rw [liveKeys_append, liveKeys_cons, if_pos live] at distinct
  rw [liveKeys_append] at isFree
  have others := List.nodup_middle.mp distinct
  rw [liveKeys_append, liveKeys_cons]
  split
  · rename_i stillLive
    exact List.nodup_middle.mpr
      (List.nodup_cons.mpr ⟨isFree stillLive, (List.nodup_cons.mp others).2⟩)
  · exact (List.nodup_cons.mp others).2

theorem keyInUse_eq_true_iff {tables : Tables} {key : RoleKey} {exclude : Option Uuid} :
    tables.keyInUse key exclude = true ↔
      ∃ role ∈ tables.roles, role.isLive = true ∧ role.key = key ∧ some role.uuid ≠ exclude := by
  simp [Tables.keyInUse, and_assoc, and_left_comm]

theorem keyInUse_none_iff {tables : Tables} {key : RoleKey} :
    tables.keyInUse key none = true ↔ key ∈ liveKeys tables.roles := by
  rw [keyInUse_eq_true_iff, mem_liveKeys_iff]
  simp

theorem keyInUse_eq_false_iff {tables : Tables} {key : RoleKey} :
    tables.keyInUse key none = false ↔ key ∉ liveKeys tables.roles := by
  rw [← Bool.not_eq_true, keyInUse_none_iff]

theorem uuid_of_keyInUse_eq_false {tables : Tables} {key : RoleKey} {uuid : Uuid}
    (isFree : tables.keyInUse key (some uuid) = false) {role : Role} (inRoles : role ∈ tables.roles)
    (live : role.isLive = true) (hasKey : role.key = key) : role.uuid = uuid := by
  by_contra different
  have used : tables.keyInUse key (some uuid) = true :=
    keyInUse_eq_true_iff.mpr ⟨role, inRoles, live, hasKey, by simpa using different⟩
  rw [isFree] at used
  cases used

theorem not_mem_liveKeys_others {tables : Tables} {key : RoleKey} {before after : List Role}
    {present : Role} (whole : tables.roles = before ++ present :: after)
    (distinct : (tables.roles.map (·.id)).Nodup) (identified : tables.Identified)
    (isFree : tables.keyInUse key (some present.uuid) = false) :
    key ∉ liveKeys (before ++ after) := by
  intro member
  rcases (mem_liveKeys_iff _ key).mp member with ⟨role, isOther, live, equal⟩
  have inRoles : role ∈ tables.roles := whole ▸ mem_middle_iff.mpr (Or.inr isOther)
  have isPresent : present ∈ tables.roles := whole ▸ mem_middle_iff.mpr (Or.inl rfl)
  -- The role was left out of the search, so it has the identifier and with it the number of
  -- the one that is present; but that number occurs only once.
  have sameUuid : role.uuid = present.uuid := uuid_of_keyInUse_eq_false isFree inRoles live equal
  exact key_ne_of_others (whole ▸ distinct) role isOther
    (identified role inRoles present isPresent sameUuid)

end Store

def Call.newRole? {α : Type} : Call α → Option Role
  | createRole role => some role
  | _ => none

namespace Store.Workspace

theorem Change.liveKeysDistinct {α : Type} {workspace later : Workspace} {call : Call α}
    (change : Change workspace call later)
    (distinctIds : (workspace.tables.roles.map (·.id)).Nodup)
    (identified : workspace.tables.Identified)
    (distinct : workspace.tables.LiveKeysDistinct) : later.tables.LiveKeysDistinct := by
  cases change with
  | none => exact distinct
  | createRole role free =>
      exact nodup_liveKeys_append distinct (keyInUse_eq_false_iff.mp free)
  | updateRole role uuid before present after free whole named live =>
      rw [Tables.LiveKeysDistinct, whole] at distinct
      rw [← named] at free
      apply nodup_liveKeys_change distinct live
      intro stillLive
      exact not_mem_liveKeys_others whole distinctIds identified free
  | deleteRole uuid deletedBy before present after whole named optional live =>
      rw [Tables.LiveKeysDistinct, whole] at distinct
      apply nodup_liveKeys_change distinct live
      intro stillLive
      cases stillLive
  | replacePermissions roleId permissionIds => exact distinct
  | createPermission permission free => exact distinct
  | assignRoles userId roleIds => exact distinct
  | grantPermissions userId permissionIds chosen sub => exact distinct

theorem mem_roles_of_replaced {roles before after : List Role} {present changed role : Role}
    (whole : roles = before ++ present :: after) (member : role ∈ before ++ changed :: after)
    (sameUuid : present.uuid = changed.uuid) (sameId : present.id = changed.id) :
    ∃ present ∈ roles, present.uuid = role.uuid ∧ present.id = role.id := by
  rw [whole]
  rcases mem_middle_iff.mp member with rfl | isOther
  · exact ⟨present, mem_middle_iff.mpr (Or.inl rfl), sameUuid, sameId⟩
  · exact ⟨role, mem_middle_iff.mpr (Or.inr isOther), rfl, rfl⟩

/-- The roles after a call have numbers and identifiers from before, but for the role that
the call creates. -/
theorem Change.mem_roles {α : Type} {workspace later : Workspace} {call : Call α}
    (change : Change workspace call later) {role : Role} (member : role ∈ later.tables.roles) :
    (∃ present ∈ workspace.tables.roles, present.uuid = role.uuid ∧ present.id = role.id) ∨
      ∃ created ∈ call.newRole?, role = { created with id := workspace.supply.takeId.1 } := by
  have unchanged : role ∈ workspace.tables.roles →
      ∃ present ∈ workspace.tables.roles, present.uuid = role.uuid ∧ present.id = role.id :=
    fun old => ⟨role, old, rfl, rfl⟩
  cases change with
  | none => exact Or.inl (unchanged member)
  | createRole created free =>
      rcases List.mem_append.mp member with old | isNew
      · exact Or.inl (unchanged old)
      · exact Or.inr ⟨created, rfl, List.mem_singleton.mp isNew⟩
  | updateRole changes uuid before present after free whole named live =>
      exact Or.inl (mem_roles_of_replaced whole member rfl rfl)
  | deleteRole uuid deletedBy before present after whole named optional live =>
      exact Or.inl (mem_roles_of_replaced whole member rfl rfl)
  | replacePermissions roleId permissionIds => exact Or.inl (unchanged member)
  | createPermission permission free => exact Or.inl (unchanged member)
  | assignRoles userId roleIds => exact Or.inl (unchanged member)
  | grantPermissions userId permissionIds chosen sub => exact Or.inl (unchanged member)

end Store.Workspace

/-! ## Merging with the base -/

namespace Store

theorem mergeRows_perm_work {α κ : Type} [DecidableEq α] [DecidableEq κ] {key : α → κ}
    {base work : List α} (distinct : (base.map key).Nodup)
    (distinctWork : (work.map key).Nodup) : (mergeRows key base base work).Perm work := by
  refine (List.perm_ext_iff_of_nodup ?_ distinctWork.of_map).mpr fun row => ?_
  · exact (nodup_map_mergeRows key base work distinct).of_map
  rw [mem_mergeRows_iff distinct distinctWork]
  constructor
  · intro merged
    rcases merged with changed | ⟨inBase, undropped, unchanged⟩
    · exact changed.1
    · rcases List.mem_map.mp (undropped (List.mem_map_of_mem inBase)) with
        ⟨other, inWork, equal⟩
      have same : other = row :=
        List.inj_on_of_nodup_map distinct (unchanged other inWork equal) inBase equal
      exact same ▸ inWork
  · intro inWork
    by_cases inBase : row ∈ base
    · refine Or.inr ⟨inBase, fun _ => List.mem_map_of_mem inWork, fun other inWork' equal => ?_⟩
      have same : other = row := List.inj_on_of_nodup_map distinctWork inWork' inWork equal
      exact same ▸ inBase
    · exact Or.inl ⟨inWork, inBase⟩

theorem Tables.LiveKeysDistinct.perm {tables other : Tables} (distinct : tables.LiveKeysDistinct)
    (sameRoles : tables.roles.Perm other.roles) : other.LiveKeysDistinct := by
  have sameKeys : (liveKeys tables.roles).Perm (liveKeys other.roles) :=
    (sameRoles.filter _).map _
  exact sameKeys.nodup_iff.mp distinct

theorem Tables.LiveKeysDistinct.merge_base {base work : Tables}
    (distinct : base.IdsDistinct) (distinctWork : work.IdsDistinct)
    (keys : work.LiveKeysDistinct) : (base.merge base work).LiveKeysDistinct :=
  keys.perm (mergeRows_perm_work distinct.roles distinctWork.roles).symm

end Store
end Entitlement
