import Entitlement.Proofs.FailingChecks
import Entitlement.Proofs.RoleUpdates
import Entitlement.Proofs.Views

/-! # Deleting roles

A role that is deleted stays in its table, and so do the grants that name it and the permissions
attached to it. Whatever reads the tables looks for live roles only. So the role takes from each
user what it gave, and nothing that the user has in another way as well. -/

namespace Entitlement

open Store Service

/-! ## A role among others -/

theorem Store.filter_eraseDups {α : Type} [DecidableEq α] (keep : α → Bool) :
    ∀ names : List α, (names.filter keep).eraseDups = names.eraseDups.filter keep
  | [] => rfl
  | name :: names => by
      have others := filter_eraseDups keep (names.filter fun other => !other == name)
      rw [List.filter_filter] at others
      rw [List.eraseDups_cons, List.filter_cons, List.filter_cons]
      split
      · rw [List.eraseDups_cons, List.filter_filter, ← others]
        congr 3
        funext other
        exact Bool.and_comm _ _
      · rename_i dropped
        rw [← others]
        congr 1
        refine List.filter_congr fun other _ => ?_
        -- What is kept is not the name that is dropped.
        cases kept : keep other with
        | false => rfl
        | true =>
            have different : other ≠ name := fun same => dropped (same ▸ kept)
            simpa using different
termination_by names => names.length
decreasing_by
  exact Nat.lt_succ_of_le (List.length_filter_le _ _)

namespace Store.Tables

def HoldsWithout (tables : Tables) (role : Role) (userId : Int) (permission : Permission) : Prop :=
  (∃ other, other ≠ role ∧ tables.HoldsRole userId other ∧
    permission ∈ tables.permissionsOfRole other.id) ∨
  tables.HoldsDirectly userId permission

def withRoles (tables : Tables) (roles : List Role) : Tables :=
  { tables with roles }

section

variable {tables : Tables} {front back : List Role} {role gone : Role}
  (whole : tables.roles = front ++ role :: back)

include whole

theorem not_mem_others (distinct : tables.IdsDistinct) : role ∉ front ++ back :=
  fun again => key_ne_of_others (whole ▸ distinct.roles) role again rfl

theorem idsDistinct_withRoles (distinct : tables.IdsDistinct) (sameId : gone.id = role.id) :
    (tables.withRoles (front ++ gone :: back)).IdsDistinct := by
  refine ⟨?_, distinct.permissions, distinct.grants⟩
  have roles := distinct.roles
  rw [whole, List.map_append, List.map_cons, ← sameId] at roles
  rw [withRoles, List.map_append, List.map_cons]
  exact roles

variable (dead : gone.isLive = false)

include dead

theorem mem_withRoles_iff (distinct : tables.IdsDistinct) (other : Role) :
    other ∈ (tables.withRoles (front ++ gone :: back)).roles ∧ other.isLive = true ↔
      (other ∈ tables.roles ∧ other.isLive = true) ∧ other ≠ role := by
  have member : other ∈ (tables.withRoles (front ++ gone :: back)).roles ↔
      other = gone ∨ other ∈ front ++ back := mem_middle_iff
  rw [member, whole, mem_middle_iff]
  constructor
  · intro given
    rcases given with ⟨rfl | isOther, live⟩
    · rw [dead] at live
      cases live
    · exact ⟨⟨Or.inr isOther, live⟩, fun same => not_mem_others whole distinct (same ▸ isOther)⟩
  · intro given
    rcases given with ⟨⟨rfl | isOther, live⟩, different⟩
    · exact absurd rfl different
    · exact ⟨Or.inr isOther, live⟩

theorem liveRoles_withRoles (distinct : tables.IdsDistinct) (live : role.isLive = true) :
    (tables.withRoles (front ++ gone :: back)).liveRoles = tables.liveRoles.erase role := by
  have notBefore : role ∉ front.filter (·.isLive) := fun isBefore =>
    not_mem_others whole distinct (List.mem_append_left back (List.mem_filter.mp isBefore).1)
  rw [liveRoles, liveRoles, whole, withRoles, List.filter_append, List.filter_append,
    List.filter_cons_of_pos live, List.filter_cons_of_neg (by simp [dead]),
    List.erase_append_right _ notBefore, List.erase_cons_head]

theorem free_withRoles (distinct : tables.IdsDistinct) (keysDistinct : tables.LiveKeysDistinct)
    (live : role.isLive = true) :
    role.key ∉ liveKeys (tables.withRoles (front ++ gone :: back)).roles := by
  intro used
  rcases (mem_liveKeys_iff _ _).mp used with ⟨other, member, otherLive, sameKey⟩
  rcases (mem_withRoles_iff whole dead distinct other).mp ⟨member, otherLive⟩ with
    ⟨isOther, different⟩
  have present : role ∈ tables.roles := whole ▸ mem_middle_iff.mpr (Or.inl rfl)
  exact different (keysDistinct.eq_of_key isOther ⟨present, live⟩ sameKey)

theorem holdsRole_withRoles_iff (distinct : tables.IdsDistinct) (userId : Int) (other : Role) :
    (tables.withRoles (front ++ gone :: back)).HoldsRole userId other ↔
      other ≠ role ∧ tables.HoldsRole userId other := by
  have isLive := mem_withRoles_iff whole dead distinct other
  constructor
  · intro holds
    rcases holds with ⟨member, live, granted⟩
    rcases isLive.mp ⟨member, live⟩ with ⟨⟨member, live⟩, different⟩
    exact ⟨different, member, live, granted⟩
  · intro given
    rcases given with ⟨different, member, live, granted⟩
    rcases isLive.mpr ⟨⟨member, live⟩, different⟩ with ⟨member, live⟩
    exact ⟨member, live, granted⟩

theorem mem_permissionKeysOf_withRoles_iff (distinct : tables.IdsDistinct)
    (sameId : gone.id = role.id) (userId : Int) (key : PermissionKey) :
    key ∈ (tables.withRoles (front ++ gone :: back)).permissionKeysOf userId ↔
      ∃ permission, tables.HoldsWithout role userId permission ∧ permission.key = key := by
  have later := idsDistinct_withRoles whole distinct sameId
  rw [mem_permissionKeysOf_iff later]
  simp only [holdsPermission_iff later, holdsRole_withRoles_iff whole dead distinct, and_assoc]
  rfl

theorem bind_roleById?_withRoles (distinct : tables.IdsDistinct) (sameId : gone.id = role.id)
    (id? : Option Int) :
    id?.bind (tables.withRoles (front ++ gone :: back)).roleById? =
      (id?.bind tables.roleById?).filter fun other => other ≠ role := by
  have later := idsDistinct_withRoles whole distinct sameId
  ext other
  rw [bind_roleById?_eq_some_iff later, ← and_assoc, mem_withRoles_iff whole dead distinct,
    Option.filter_eq_some_iff, bind_roleById?_eq_some_iff distinct, decide_eq_true_eq]
  tauto

theorem roleKeysOf_withRoles (distinct : tables.IdsDistinct)
    (keysDistinct : tables.LiveKeysDistinct) (live : role.isLive = true)
    (sameId : gone.id = role.id) (userId : Int) :
    (tables.withRoles (front ++ gone :: back)).roleKeysOf userId =
      (tables.roleKeysOf userId).erase role.key := by
  have present : role ∈ tables.roles := whole ▸ mem_middle_iff.mpr (Or.inl rfl)
  -- Among live roles, only the one that is gone has its key.
  have sameKeys (grant : Grant) :
      (grant.roleId.bind (tables.withRoles (front ++ gone :: back)).roleById?).map (·.key) =
        ((grant.roleId.bind tables.roleById?).map (·.key)).filter (· != role.key) := by
    rw [bind_roleById?_withRoles whole dead distinct sameId]
    cases found : grant.roleId.bind tables.roleById? with
    | none => rfl
    | some other =>
        rcases (bind_roleById?_eq_some_iff distinct _ _).mp found with ⟨isOther, otherLive, -⟩
        have sameRole : other.key = role.key ↔ other = role :=
          ⟨keysDistinct.eq_of_key ⟨isOther, otherLive⟩ ⟨present, live⟩, congrArg Role.key⟩
        by_cases same : other = role
        · simp [Option.filter, same]
        · simp [Option.filter, same, sameRole]
  have sameGrants : (tables.withRoles (front ++ gone :: back)).liveGrants userId =
      tables.liveGrants userId := rfl
  rw [roleKeysOf, roleKeysOf, (nodup_eraseDups _).erase_eq_filter, ← filter_eraseDups,
    List.filter_filterMap, sameGrants]
  simp only [sameKeys]

end

end Store.Tables

/-! ## What is deleted -/

namespace Store.Workspace

def deletedRole (workspace : Workspace) (role : Role) (deletedBy : Int) : Role :=
  { role with deletedAt := some workspace.supply.readClock.1, deletedBy := some deletedBy }

structure RoleDeleted (role : Role) (deletedBy : Int) (before after : Workspace) : Prop where
  row : ∃ front back, before.tables.roles = front ++ role :: back ∧
    after = { before.later with
      tables := before.tables.withRoles (front ++ before.deletedRole role deletedBy :: back) }

theorem outcome_deleteRole_of_present {workspace : Workspace}
    (distinct : (workspace.tables.roles.map (·.uuid)).Nodup) {role : Role}
    (member : role ∈ workspace.tables.roles) (live : role.isLive = true)
    (optional : role.isDefault = false) (deletedBy : Int) :
    ∃ after, (perform (.deleteRole role.uuid deletedBy)).outcome workspace = (.ok (), after) ∧
      RoleDeleted role deletedBy workspace after := by
  have found : ∃ present, workspace.tables.roles.find? (fun present =>
      present.uuid = role.uuid && !present.isDefault && present.isLive) = some present :=
    Option.isSome_iff_exists.mp
      (List.find?_isSome.mpr ⟨role, member, by simp [live, optional]⟩)
  rcases found with ⟨present, found⟩
  have facts := List.find?_some found
  simp only [Bool.and_eq_true, decide_eq_true_eq] at facts
  obtain rfl : present = role := List.inj_on_of_nodup_map distinct
    (List.mem_of_find?_eq_some found) member facts.1.1
  rcases changeFirst?_of_find? (fun present : Role => { present with
      deletedAt := some workspace.supply.readClock.1, deletedBy := some deletedBy }) found with
    ⟨front, back, whole, changes⟩
  refine ⟨_, ?_, front, back, whole, rfl⟩
  rw [perform, deleteRole, Action.outcome_ofOutcome]
  dsimp only [readClock]
  rw [changes]
  rfl

theorem outcome_deleteRole_of_absent (workspace : Workspace) {uuid : Uuid}
    (absent : ∀ role ∈ workspace.tables.roles, role.isLive = true → role.uuid = uuid →
      role.isDefault = true) (deletedBy : Int) :
    (perform (.deleteRole uuid deletedBy)).outcome workspace =
      (.error (.notDeletable "role" uuid.text), workspace) := by
  rcases outcome_deleteRole uuid deletedBy workspace with
    fails | ⟨front, present, back, whole, named, optional, live, -⟩
  · exact fails
  · have isPresent : present ∈ workspace.tables.roles := whole ▸ mem_middle_iff.mpr (Or.inl rfl)
    have isDefault := absent present isPresent live named
    rw [optional] at isDefault
    cases isDefault

end Store.Workspace

/-! ## What users are told -/

namespace Desk

theorem exists_granted_of_subset {desk other : Desk} {draft otherDraft : Draft}
    (active : desk.phase = .active draft) (otherActive : other.phase = .active otherDraft)
    (able : desk.surroundings.failing = [])
    (sameUsers : other.surroundings.users = desk.surroundings.users) {userId : Int}
    (roleKeys : otherDraft.work.roleKeysOf userId ⊆ draft.work.roleKeysOf userId)
    (permissionKeys : otherDraft.work.permissionKeysOf userId ⊆ draft.work.permissionKeysOf userId)
    {text : String} {required : List PermissionKey} {reason : GrantReason}
    (granted : ((checkAccess backend text required).outcome other).1 =
      .ok (.granted userId reason)) :
    ∃ earlier, ((checkAccess backend text required).outcome desk).1 =
      .ok (.granted userId earlier) := by
  have sameLookup : other.surroundings.userByUuid text = desk.surroundings.userByUuid text := by
    rw [Surroundings.userByUuid, Surroundings.userByUuid, sameUsers]
  -- It is enough to find the user, and one of the three reasons for granting access.
  have grants {user : User} (known : other.surroundings.userByUuid text = .ok user)
      (isActive : user.status = .active)
      (isReason : .superAdmin ∈ draft.work.roleKeysOf user.id ∨ .none ∈ required ∨
        ∃ key ∈ required, key ∈ draft.work.permissionKeysOf user.id) :
      ∃ earlier, ((checkAccess backend text required).outcome desk).1 =
        .ok (.granted user.id earlier) := by
    rw [outcome_checkAccess active able (sameLookup ▸ known) isActive]
    by_cases superAdmin : .superAdmin ∈ draft.work.roleKeysOf user.id
    · exact ⟨.superAdmin, by simp [superAdmin]⟩
    · rcases decide_cases user.id required (draft.work.permissionKeysOf user.id) with
        ⟨equal, -⟩ | ⟨equal, -⟩ | ⟨-, restricted, unshared⟩
      · exact ⟨.noneSentinel, by simp [superAdmin, equal]⟩
      · exact ⟨.permission, by simp [superAdmin, equal]⟩
      · rcases isReason with isReason | isReason | isReason
        · exact absurd isReason superAdmin
        · exact absurd isReason restricted
        · exact absurd isReason unshared
  cases concludes_iff.mpr granted with
  | unlimited passed superAdmin =>
      cases passed.active.symm.trans otherActive
      exact grants passed.known passed.isActive (Or.inl (roleKeys superAdmin))
  | unrestricted passed unrestricted =>
      exact grants passed.known passed.isActive (Or.inr (Or.inl unrestricted))
  | permitted passed _ shared =>
      cases passed.active.symm.trans otherActive
      rcases shared with ⟨key, needed, held⟩
      exact grants passed.known passed.isActive
        (Or.inr (Or.inr ⟨key, needed, permissionKeys held⟩))

structure Withdraws (tables : Tables) (role : Role) (userId : Int) (desk after : Desk) : Prop where
  roleKeys : ∃ keys, (backend.call (.roleKeysOf userId)).outcome desk = (.ok keys, desk) ∧
    (tables.HoldsRole userId role →
      (backend.call (.roleKeysOf userId)).outcome after = (.ok (keys.erase role.key), after)) ∧
    (¬ tables.HoldsRole userId role →
      (backend.call (.roleKeysOf userId)).outcome after = (.ok keys, after))
  permissionKeys : ∃ keys,
    (backend.call (.permissionKeysOf userId)).outcome after = (.ok keys, after) ∧ keys.Nodup ∧
    (∀ key, key ∈ keys ↔
      ∃ permission, tables.HoldsWithout role userId permission ∧ permission.key = key) ∧
    ∀ text user, after.surroundings.userByUuid text = .ok user → user.status = .active →
      user.id = userId → (effectivePermissions backend text).outcome after = (.ok keys, after)

structure Forgets (desk : Desk) (role : Role) : Prop where
  byUuid : (getRole backend role.uuid).outcome desk =
    (.error (.notFound "role" role.uuid.text), desk)
  byKey : (backend.call (.roleByKey role.key)).outcome desk = (.ok none, desk)
  freeKey : ∀ exclude, (backend.call (.keyInUse role.key exclude)).outcome desk = (.ok false, desk)
  undeletable : ∀ deletedBy, (deleteRole backend role.uuid deletedBy).outcome desk =
    (.error (.notDeletable "role" role.uuid.text), desk)

section

variable {surroundings : Surroundings} (healthy : surroundings.failing = []) (base : Tables)

include healthy

theorem outcome_deleteRole_working (workspace : Workspace) (uuid : Uuid) (deletedBy : Int) :
    (deleteRole backend uuid deletedBy).outcome (working surroundings base workspace) =
      (((Workspace.perform (.deleteRole uuid deletedBy)).outcome workspace).1,
        working surroundings base
          ((Workspace.perform (.deleteRole uuid deletedBy)).outcome workspace).2) := by
  rw [deleteRole, outcome_enter_working, outcome_call_working healthy]

theorem outcome_roleKeysOf_working (workspace : Workspace) (userId : Int) :
    (backend.call (.roleKeysOf userId)).outcome (working surroundings base workspace) =
      (.ok (workspace.tables.roleKeysOf userId), working surroundings base workspace) :=
  outcome_call_working healthy base _ workspace

theorem outcome_permissionKeysOf_working (workspace : Workspace) (userId : Int) :
    (backend.call (.permissionKeysOf userId)).outcome (working surroundings base workspace) =
      (.ok (workspace.tables.permissionKeysOf userId), working surroundings base workspace) :=
  outcome_call_working healthy base _ workspace

theorem outcome_effectivePermissions_working (workspace : Workspace) {text : String} {user : User}
    (known : (working surroundings base workspace).surroundings.userByUuid text = .ok user)
    (isActive : user.status = .active) :
    (effectivePermissions backend text).outcome (working surroundings base workspace) =
      (.ok (workspace.tables.permissionKeysOf user.id), working surroundings base workspace) := by
  have active : (working surroundings base workspace).phase = .active ⟨base, workspace.tables⟩ :=
    rfl
  exact outcome_effectivePermissions active healthy known isActive

theorem outcome_listRoles_working (workspace : Workspace) :
    ((listRoles backend).outcome (working surroundings base workspace)).1 =
      .ok workspace.tables.liveRoles := by
  have listed : (Workspace.perform .liveRoles).outcome workspace =
      (.ok workspace.tables.liveRoles, workspace) := rfl
  rw [listRoles, outcome_enter_working, outcome_call_working_of_ok healthy base listed]
  dsimp only
  split <;> rfl

theorem forgets_of_absent {workspace : Workspace} {role : Role}
    (absent : ¬ workspace.tables.HasLiveRole role.uuid)
    (isFree : role.key ∉ liveKeys workspace.tables.roles) :
    (working surroundings base workspace).Forgets role := by
  have unfound := Tables.not_hasLiveRole_iff.mp absent
  have unkeyed : workspace.tables.roleByKey? role.key = none := by
    refine List.find?_eq_none.mpr fun other member hasKey => isFree ?_
    simp only [Bool.and_eq_true, decide_eq_true_eq] at hasKey
    exact (mem_liveKeys_iff _ _).mpr ⟨other, member, hasKey.2, hasKey.1⟩
  have unused (exclude : Option Uuid) : workspace.tables.keyInUse role.key exclude = false := by
    rw [← Bool.not_eq_true, keyInUse_eq_true_iff]
    intro used
    rcases used with ⟨other, member, live, hasKey, -⟩
    exact isFree ((mem_liveKeys_iff _ _).mpr ⟨other, member, live, hasKey⟩)
  refine ⟨?_, ?_, fun exclude => ?_, fun deletedBy => ?_⟩
  · rw [getRole, outcome_enter_working, outcome_call_working healthy, Workspace.perform,
      Action.outcome_reading, unfound]
  · rw [outcome_call_working healthy, Workspace.perform, Action.outcome_reading, unkeyed]
  · rw [outcome_call_working healthy, Workspace.perform, Action.outcome_reading, unused]
  · rw [outcome_deleteRole_working healthy, Workspace.outcome_deleteRole_of_absent]
    exact fun other member live named => absurd ⟨other, member, live, named⟩ absent

section

variable {workspace : Workspace} (distinct : workspace.tables.IdsDistinct)
  (keysDistinct : workspace.tables.LiveKeysDistinct) {role : Role} (live : role.isLive = true)
  {deletedBy : Int} {later : Workspace}
  (deleted : Workspace.RoleDeleted role deletedBy workspace later)

include distinct keysDistinct live deleted

theorem withdraws_of_deleted (userId : Int) :
    Withdraws workspace.tables role userId (working surroundings base workspace)
      (working surroundings base later) := by
  have told := outcome_roleKeysOf_working healthy base workspace userId
  have toldLater := outcome_roleKeysOf_working healthy base later userId
  have answered := outcome_permissionKeysOf_working healthy base later userId
  rcases deleted.row with ⟨front, back, whole, rfl⟩
  have present : role ∈ workspace.tables.roles := whole ▸ mem_middle_iff.mpr (Or.inl rfl)
  have dead : (workspace.deletedRole role deletedBy).isLive = false := rfl
  rw [Tables.roleKeysOf_withRoles whole dead distinct keysDistinct live rfl userId] at toldLater
  refine ⟨⟨_, told, fun _ => toldLater, fun free => ?_⟩, ⟨_, answered, nodup_eraseDups _,
    Tables.mem_permissionKeysOf_withRoles_iff whole dead distinct rfl userId, ?_⟩⟩
  · -- Another role with this key would be the same role.
    have notHeld : role.key ∉ workspace.tables.roleKeysOf userId := by
      intro held
      rcases (Tables.mem_roleKeysOf_iff distinct userId role.key).mp held with
        ⟨other, holds, sameKey⟩
      obtain rfl := keysDistinct.eq_of_key ⟨holds.1, holds.2.1⟩ ⟨present, live⟩ sameKey
      exact free holds
    rwa [List.erase_of_not_mem notHeld] at toldLater
  · intro text user known isActive named
    subst named
    exact outcome_effectivePermissions_working healthy base _ known isActive

theorem exists_granted_of_deleted {text : String} {required : List PermissionKey} {userId : Int}
    {reason : GrantReason}
    (granted : ((checkAccess backend text required).outcome
      (working surroundings base later)).1 = .ok (.granted userId reason)) :
    ∃ earlier, ((checkAccess backend text required).outcome
      (working surroundings base workspace)).1 = .ok (.granted userId earlier) := by
  rcases deleted.row with ⟨front, back, whole, rfl⟩
  have dead : (workspace.deletedRole role deletedBy).isLive = false := rfl
  refine exists_granted_of_subset rfl rfl healthy ?_ ?_ ?_ granted
  · rfl
  · change Tables.roleKeysOf (workspace.tables.withRoles _) userId ⊆ _
    rw [Tables.roleKeysOf_withRoles whole dead distinct keysDistinct live rfl userId]
    exact List.erase_subset
  · intro key held
    rcases (Tables.mem_permissionKeysOf_withRoles_iff whole dead distinct rfl userId key).mp held
      with ⟨permission, ⟨other, -, holds, attached⟩ | direct, isKey⟩
    · exact (Tables.mem_permissionKeysOf_iff distinct userId key).mpr ⟨permission,
        (Tables.holdsPermission_iff distinct userId permission).mpr
          (Or.inl ⟨other, holds, attached⟩), isKey⟩
    · exact (Tables.mem_permissionKeysOf_iff distinct userId key).mpr ⟨permission,
        (Tables.holdsPermission_iff distinct userId permission).mpr (Or.inr direct), isKey⟩

theorem forgets_of_deleted (uuidsDistinct : (workspace.tables.roles.map (·.uuid)).Nodup) :
    (working surroundings base later).Forgets role := by
  rcases deleted.row with ⟨front, back, whole, rfl⟩
  have dead : (workspace.deletedRole role deletedBy).isLive = false := rfl
  have present : role ∈ workspace.tables.roles := whole ▸ mem_middle_iff.mpr (Or.inl rfl)
  refine forgets_of_absent healthy base ?_
    (Tables.free_withRoles whole dead distinct keysDistinct live)
  intro hasLiveRole
  rcases hasLiveRole with ⟨other, member, otherLive, sameUuid⟩
  rcases (Tables.mem_withRoles_iff whole dead distinct other).mp ⟨member, otherLive⟩ with
    ⟨isOther, different⟩
  exact different (List.inj_on_of_nodup_map uuidsDistinct isOther.1 present sameUuid)

end

end

end Desk

/-! ## Deletion -/

/-- In an active unit in which nothing is made to fail, and whose rows, identifiers and live keys
are distinct, a role is deleted exactly if it is live and not a default role; otherwise nothing is
changed. The role that is deleted is not found any more. It takes its key from the users that held
it, and the permissions that they do not hold directly or through another role as well; so nobody
is granted what was not granted before. -/
theorem deletion_withdraws_role {surroundings : Surroundings} (healthy : surroundings.failing = [])
    (base : Tables) {workspace : Workspace} (distinct : workspace.tables.IdsDistinct)
    (uuidsDistinct : (workspace.tables.roles.map (·.uuid)).Nodup)
    (keysDistinct : workspace.tables.LiveKeysDistinct) (uuid : Uuid) (deletedBy : Int) :
    let desk := Desk.working surroundings base workspace
    let deleted := (deleteRole Desk.backend uuid deletedBy).outcome desk
    (deleted.1 = .ok () ↔ ∃ role ∈ workspace.tables.roles,
      role.isLive ∧ role.isDefault = false ∧ role.uuid = uuid) ∧
    (deleted.1 ≠ .ok () → deleted = (.error (.notDeletable "role" uuid.text), desk)) ∧
    ∀ role ∈ workspace.tables.roles, role.isLive → role.isDefault = false → role.uuid = uuid →
      ∃ later,
        let after := Desk.working surroundings base later
        deleted = (.ok (), after) ∧
        Workspace.RoleDeleted role deletedBy workspace later ∧
        (∀ userId, Desk.Withdraws workspace.tables role userId desk after) ∧
        (∀ text required userId reason,
          ((checkAccess Desk.backend text required).outcome after).1 =
              .ok (.granted userId reason) →
            ∃ earlier, ((checkAccess Desk.backend text required).outcome desk).1 =
              .ok (.granted userId earlier)) ∧
        ((listRoles Desk.backend).outcome after).1 = .ok (workspace.tables.liveRoles.erase role) ∧
        after.Forgets role := by
  intro desk deleted
  have deletes {role : Role} (member : role ∈ workspace.tables.roles) (live : role.isLive = true)
      (optional : role.isDefault = false) (named : role.uuid = uuid) :
      ∃ later, deleted = (.ok (), Desk.working surroundings base later) ∧
        Workspace.RoleDeleted role deletedBy workspace later := by
    rcases Workspace.outcome_deleteRole_of_present uuidsDistinct member live optional deletedBy
      with ⟨later, performed, isDeleted⟩
    refine ⟨later, ?_, isDeleted⟩
    rw [named] at performed
    exact (Desk.outcome_deleteRole_working healthy base workspace uuid deletedBy).trans
      (by rw [performed])
  have refuses (absent : ¬ ∃ role ∈ workspace.tables.roles,
      role.isLive ∧ role.isDefault = false ∧ role.uuid = uuid) :
      deleted = (.error (.notDeletable "role" uuid.text), desk) := by
    have allDefault : ∀ role ∈ workspace.tables.roles, role.isLive = true → role.uuid = uuid →
        role.isDefault = true := by
      intro role member live named
      by_contra optional
      exact absent ⟨role, member, live, Bool.of_not_eq_true optional, named⟩
    have performed := Workspace.outcome_deleteRole_of_absent workspace allDefault deletedBy
    exact (Desk.outcome_deleteRole_working healthy base workspace uuid deletedBy).trans
      (by rw [performed])
  refine ⟨⟨fun succeeds => ?_, fun deletable => ?_⟩, fun fails => refuses fun deletable => ?_,
    fun role member live optional named => ?_⟩
  · by_contra absent
    rw [refuses absent] at succeeds
    cases succeeds
  · rcases deletable with ⟨role, member, live, optional, named⟩
    rcases deletes member live optional named with ⟨later, succeeds, -⟩
    exact congrArg Prod.fst succeeds
  · rcases deletable with ⟨role, member, live, optional, named⟩
    rcases deletes member live optional named with ⟨later, succeeds, -⟩
    exact fails (congrArg Prod.fst succeeds)
  · rcases deletes member live optional named with ⟨later, succeeds, isDeleted⟩
    have listed : later.tables.liveRoles = workspace.tables.liveRoles.erase role := by
      rcases isDeleted.row with ⟨front, back, whole, rfl⟩
      exact Tables.liveRoles_withRoles whole rfl distinct live
    refine ⟨later, succeeds, isDeleted,
      Desk.withdraws_of_deleted healthy base distinct keysDistinct live isDeleted,
      fun text required userId reason =>
        Desk.exists_granted_of_deleted healthy base distinct keysDistinct live isDeleted, ?_,
      Desk.forgets_of_deleted healthy base distinct keysDistinct live isDeleted uuidsDistinct⟩
    rw [Desk.outcome_listRoles_working healthy, listed]

/-- User 7 holds two roles and a permission of its own, so deleting the second role leaves both
permissions that the role gives. User 8 holds nothing but this role, and is left without any. -/
theorem deletion_withdraws_role_staffed :
    let grants := Workspace.staffed.tables.grants ++ [⟨13, 7, some 2, none, ⟨0, 0⟩, none⟩]
    let workspace : Workspace :=
      ⟨{ Workspace.staffed.tables with grants }, Workspace.staffed.supply⟩
    let role : Role := { Role.fresh "SALES" .sales (.ofNat 2) ⟨0, 0⟩ with id := 2 }
    ∃ later,
      let after := Desk.working World.fresh.surroundings .empty later
      (deleteRole Desk.backend (.ofNat 2) 7).outcome
        (.working World.fresh.surroundings .empty workspace) = (.ok (), after) ∧
      Workspace.RoleDeleted role 7 workspace later ∧
      (Desk.backend.call (.roleKeysOf 7)).outcome after = (.ok [.staff], after) ∧
      (∀ key, key ∈ [PermissionKey.readRole, .readUser] ↔ ∃ permission,
        workspace.tables.HoldsWithout role 7 permission ∧ permission.key = key) ∧
      ((Desk.backend.call (.permissionKeysOf 8)).outcome after).1 = .ok [] ∧
      after.Forgets role := by
  intro grants workspace role
  let desk := Desk.working World.fresh.surroundings .empty workspace
  have healthy : World.fresh.surroundings.failing = [] := rfl
  have distinct : workspace.tables.IdsDistinct := ⟨by decide, by decide, by decide⟩
  have uuidsDistinct : (workspace.tables.roles.map (·.uuid)).Nodup := by decide +kernel
  have keysDistinct : workspace.tables.LiveKeysDistinct := by decide +kernel
  have member : role ∈ workspace.tables.roles := by decide +kernel
  have withdrawn := deletion_withdraws_role healthy .empty distinct uuidsDistinct keysDistinct
    (.ofNat 2) 7
  rcases withdrawn.2.2 role member rfl rfl rfl with
    ⟨later, deletes, isDeleted, withdraws, -, -, forgets⟩
  rcases withdraws 7 with ⟨⟨roleKeys, told, toldLater, -⟩, ⟨keys, answers, -, exactly, -⟩⟩
  have holds : workspace.tables.HoldsRole 7 role :=
    ⟨member, rfl, ⟨13, 7, some 2, none, ⟨0, 0⟩, none⟩, by decide, rfl, rfl, rfl⟩
  have toldBefore : ((Desk.backend.call (.roleKeysOf 7)).outcome desk).1 =
      .ok [.staff, .sales] := by decide +kernel
  have left : ((Desk.backend.call (.permissionKeysOf 7)).outcome
      ((deleteRole Desk.backend (.ofNat 2) 7).outcome desk).2).1 = .ok [.readRole, .readUser] := by
    decide +kernel
  have leftToOther : ((Desk.backend.call (.permissionKeysOf 8)).outcome
      ((deleteRole Desk.backend (.ofNat 2) 7).outcome desk).2).1 = .ok [] := by
    decide +kernel
  rw [deletes] at left leftToOther
  obtain rfl := Except.ok.inj ((congrArg Prod.fst told).symm.trans toldBefore)
  obtain rfl := Except.ok.inj ((congrArg Prod.fst answers).symm.trans left)
  exact ⟨later, deletes, isDeleted, toldLater holds, exactly, leftToOther, forgets⟩

end Entitlement
