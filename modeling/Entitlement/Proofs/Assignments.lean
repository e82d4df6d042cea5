import Entitlement.Proofs.Identifiers
import Entitlement.Proofs.RoleKeys
import Entitlement.Proofs.Replacing
import Entitlement.Proofs.WorkingCopies

/-! # Assigning roles replaces all that a user has

Roles are looked up one by one before anything is written, so an assignment that names something
else fails and leaves everything as it was. Otherwise the live grants of the user, of roles and of
permissions alike, are kept as revoked ones, and the roles that were named are all that the user
has. Other users notice nothing. -/

namespace Entitlement

open Store Service

namespace Store

/-! ## Numbers that are new -/

def Tables.AreNew (tables : Tables) (ids : List Int) : Prop :=
  ids.Nodup ∧ ∀ id ∈ ids, id ∉ tables.numbers

theorem Tables.Numbered.covers {tables : Tables} {supply : Supply}
    (numbered : tables.Numbered supply) : ∀ id ∈ tables.numbers, supply.Covers id := by
  intro id known
  rcases Tables.mem_numbers_iff.mp known with ⟨kind, inTable⟩
  cases kind with
  | role =>
      rcases List.mem_map.mp inTable with ⟨role, isRow, rfl⟩
      exact numbered.roles role isRow
  | permission =>
      rcases List.mem_map.mp inTable with ⟨permission, isRow, rfl⟩
      exact numbered.permissions permission isRow
  | grant =>
      rcases List.mem_map.mp inTable with ⟨grant, isRow, rfl⟩
      exact numbered.grants grant isRow

theorem Workspace.Orderly.areNew {workspace : Workspace} (orderly : workspace.Orderly)
    {issued : List (Instant → Grant)} (lasts : workspace.supply.Lasts issued.length) :
    workspace.tables.AreNew ((workspace.supply.issue issued).1.map (·.id)) := by
  rcases workspace.supply.issue_numbers lasts with ⟨distinct, numbers⟩
  refine ⟨distinct, fun id isNew known => ?_⟩
  rcases List.mem_map.mp isNew with ⟨grant, isIssued, rfl⟩
  exact (numbers grant isIssued).1 (orderly.numbered.covers grant.id known)

/-! ## Users that are not concerned -/

namespace Tables

structure SameFor (userId : Int) (before after : Tables) : Prop where
  grants : after.grantsOf userId = before.grantsOf userId
  roleKeys : after.roleKeysOf userId = before.roleKeysOf userId
  permissionKeys : after.permissionKeysOf userId = before.permissionKeysOf userId

theorem liveGrants_eq (tables : Tables) (userId : Int) :
    tables.liveGrants userId = (tables.grantsOf userId).filter (·.isLive) := by
  rw [liveGrants, grantsOf, List.filter_filter]
  exact List.filter_congr fun grant _ => Bool.and_comm _ _

theorem sameFor_withGrants {tables : Tables} {userId : Int} {grants : List Grant}
    (same : grants.filter (·.userId = userId) = tables.grantsOf userId) :
    tables.SameFor userId { tables with grants } := by
  have sameLive : ({ tables with grants } : Tables).liveGrants userId =
      tables.liveGrants userId := by
    rw [liveGrants_eq, liveGrants_eq, ← same]
    rfl
  refine ⟨same, ?_, ?_⟩
  · rw [roleKeysOf, sameLive]
    rfl
  · rw [permissionKeysOf, sameLive]
    rfl

/-! ## What gifts give -/

def permissionsOfGift (tables : Tables) (gift : Option Int × Option Int) : List Permission :=
  let throughRole := match gift.1.bind tables.roleById? with
    | some role => tables.permissionsOfRole role.id
    | none => []
  throughRole ++ (gift.2.bind tables.permissionById?).toList

theorem roleKeysOf_eq (tables : Tables) (userId : Int) :
    tables.roleKeysOf userId = ((tables.gifts userId).filterMap fun gift =>
      (gift.1.bind tables.roleById?).map (·.key)).eraseDups := by
  rw [gifts, List.filterMap_map]
  rfl

theorem permissionKeysOf_eq (tables : Tables) (userId : Int) :
    tables.permissionKeysOf userId =
      (((tables.gifts userId).flatMap tables.permissionsOfGift).map (·.key)).eraseDups := by
  rw [gifts, List.flatMap_map]
  rfl

section

variable {tables : Tables} (distinct : (tables.roles.map (·.id)).Nodup)

include distinct

theorem roleById?_of_live {role : Role} (live : role ∈ tables.roles ∧ role.isLive = true) :
    tables.roleById? role.id = some role :=
  (find?_key_eq_some_iff distinct role.id Role.isLive role).mpr ⟨live.1, rfl, live.2⟩

theorem permissionsOfGift_role {role : Role} (live : role ∈ tables.roles ∧ role.isLive = true) :
    tables.permissionsOfGift (some role.id, none) = tables.permissionsOfRole role.id := by
  simp [permissionsOfGift, roleById?_of_live distinct live]

variable {userId : Int} {roles : List Role}
  (live : ∀ role ∈ roles, role ∈ tables.roles ∧ role.isLive = true)
  (gifts : tables.gifts userId = roles.map fun role => (some role.id, none))

include live gifts

theorem roleKeysOf_of_gifts (once : (roles.map (·.key)).Nodup) :
    tables.roleKeysOf userId = roles.map (·.key) := by
  have keys : (roles.filterMap fun role => (tables.roleById? role.id).map (·.key)) =
      roles.map (·.key) := by
    rw [← List.filterMap_eq_map]
    refine List.filterMap_congr fun role member => ?_
    rw [roleById?_of_live distinct (live role member)]
    rfl
  rw [roleKeysOf_eq, gifts, List.filterMap_map]
  exact (congrArg _ keys).trans (eraseDups_of_nodup once)

theorem permissionKeysOf_of_gifts :
    tables.permissionKeysOf userId =
      ((roles.flatMap fun role => tables.permissionsOfRole role.id).map (·.key)).eraseDups := by
  have permissions : (roles.flatMap fun role => tables.permissionsOfGift (some role.id, none)) =
      roles.flatMap fun role => tables.permissionsOfRole role.id :=
    List.flatMap_congr fun role member => permissionsOfGift_role distinct (live role member)
  rw [permissionKeysOf_eq, gifts, List.flatMap_map, ← permissions]

end

end Tables

namespace Workspace

structure Reassigned (userId : Int) (roles : List Role) (before : Workspace)
    (added : List Grant) (after : Workspace) : Prop where
  tables : after.tables = { before.tables with
    grants := before.tables.grants.map (revoke userId before.supply.readClock.1) ++ added }
  live : after.tables.liveGrants userId = added
  gifts : added.map (·.gift) = roles.map fun role => (some role.id, none)
  numbers : added.map (·.id) = numbersAfter before.supply.lastId roles.length
  isNew : before.Orderly → before.supply.Lasts roles.length →
    before.tables.AreNew (added.map (·.id))
  roleKeys : after.tables.roleKeysOf userId = roles.map (·.key)
  permissionKeys : after.tables.permissionKeysOf userId =
    ((roles.flatMap fun role => before.tables.permissionsOfRole role.id).map (·.key)).eraseDups
  others : ∀ other, other ≠ userId → before.tables.SameFor other after.tables

theorem filter_reassigned_other {userId other : Int} (different : other ≠ userId)
    (now : Instant) (grants : List Grant) (supply : Supply) (roleIds : List Int) :
    (grants.map (revoke userId now) ++ (supply.issue (roleIds.map (Grant.ofRole userId))).1).filter
        (·.userId = other) = grants.filter (·.userId = other) := by
  rw [List.filter_append, Supply.filter_issue_eq_nil (by simp [Grant.ofRole, different.symm]),
    List.append_nil]
  induction grants with
  | nil => rfl
  | cons grant grants induction =>
      rw [List.map_cons, List.filter_cons, List.filter_cons, induction]
      by_cases named : grant.userId = userId
      · have sameUser := (becomes_revoke userId now grant).userId
        simp [sameUser, named, different.symm]
      · rw [revoke_of_other named]

variable {workspace : Workspace} (distinct : workspace.tables.IdsDistinct)
  (keysDistinct : workspace.tables.LiveKeysDistinct) {roles : List Role}
  (live : ∀ role ∈ roles, role ∈ workspace.tables.roles ∧ role.isLive = true)
  (once : roles.Nodup)

include distinct keysDistinct live once

theorem exists_reassigned (userId : Int) :
    ∃ added later,
      (perform (.assignRoles userId (roles.map (·.id)))).outcome workspace = (.ok (), later) ∧
      Reassigned userId roles workspace added later := by
  have idsOnce : (roles.map (·.id)).Nodup := once.map_on fun first isFirst second isSecond =>
    List.inj_on_of_nodup_map distinct.roles (live first isFirst).1 (live second isSecond).1
  have keysOnce : (roles.map (·.key)).Nodup := once.map_on fun first isFirst second isSecond =>
    keysDistinct.eq_of_key (live first isFirst) (live second isSecond)
  let issued := (roles.map (·.id)).map (Grant.ofRole userId)
  let supply := workspace.supply.readClock.2
  let after : Tables := { workspace.tables with
    grants := workspace.tables.grants.map (revoke userId workspace.supply.readClock.1) ++
      (supply.issue issued).1 }
  have isLive : after.liveGrants userId = (supply.issue issued).1 :=
    filter_reassigned userId _ _ _ _
  have gifts : (supply.issue issued).1.map (·.gift) =
      roles.map fun role => (some role.id, none) := by
    have given : (supply.issue issued).1.map (·.gift) =
        (roles.map (·.id)).map fun roleId => (some roleId, none) :=
      Supply.map_issue (fun _ _ _ => rfl) _ _
    rw [given, List.map_map]
    rfl
  have giftsAfter : after.gifts userId = roles.map fun role => (some role.id, none) :=
    (congrArg _ isLive).trans gifts
  have distinctAfter : (after.roles.map (·.id)).Nodup := distinct.roles
  have size : issued.length = roles.length := by rw [List.length_map, List.length_map]
  refine ⟨(supply.issue issued).1, ⟨after, (supply.issue issued).2⟩, ?_, rfl, isLive, gifts, ?_, ?_,
    ?_, ?_, ?_⟩
  · have performed := outcome_assignRoles userId (roles.map (·.id)) workspace
    rw [eraseDups_of_nodup idsOnce] at performed
    exact Prod.ext rfl performed
  · exact (Supply.map_id_issue supply issued).trans (congrArg _ size)
  · intro orderly lasts
    have ahead : workspace.supply.LeadsTo supply := Supply.LeadsTo.refl workspace.supply
    rw [← size] at lasts
    exact (orderly.mono ahead).areNew lasts
  · exact Tables.roleKeysOf_of_gifts distinctAfter live giftsAfter keysOnce
  · exact Tables.permissionKeysOf_of_gifts distinctAfter live giftsAfter
  · intro other different
    exact Tables.sameFor_withGrants (filter_reassigned_other different _ _ _ _)

end Workspace

/-! ## Looking roles up -/

namespace Tables

theorem roleByKey?_of_live {tables : Tables} (keysDistinct : tables.LiveKeysDistinct) {role : Role}
    (member : role ∈ tables.roles) (live : role.isLive = true) :
    tables.roleByKey? role.key = some role := by
  rcases found : tables.roleByKey? role.key with _ | other
  · have missing := List.find?_eq_none.mp found role member
    simp [live] at missing
  · have wanted := List.find?_some found
    simp only [Bool.and_eq_true, decide_eq_true_eq] at wanted
    have same : other = role := keysDistinct.eq_of_key
      ⟨List.mem_of_find?_eq_some found, wanted.2⟩ ⟨member, live⟩ wanted.1
    rw [same]

def missing? (tables : Tables) (uuids : List Uuid) : Option Uuid :=
  uuids.find? fun uuid => (tables.roleByUuid? uuid).isNone

theorem missing?_eq_none_iff {tables : Tables} {uuids : List Uuid} :
    tables.missing? uuids = none ↔ ∀ uuid ∈ uuids, ∃ role, tables.roleByUuid? uuid = some role := by
  simp [missing?, List.find?_eq_none, ← Option.ne_none_iff_exists']

theorem map_uuid_of_found {tables : Tables} {uuids : List Uuid}
    (found : tables.missing? uuids = none) :
    (uuids.filterMap tables.roleByUuid?).map (·.uuid) = uuids := by
  rw [missing?_eq_none_iff] at found
  induction uuids with
  | nil => rfl
  | cons uuid uuids induction =>
      rcases found uuid List.mem_cons_self with ⟨role, isFound⟩
      rw [List.filterMap_cons_some isFound, List.map_cons, (of_roleByUuid? isFound).2.2,
        induction fun other isOther => found other (.tail uuid isOther)]

end Tables
end Store

/-! ## The services -/

namespace Desk

section

variable {surroundings : Surroundings} (healthy : surroundings.failing = []) (base : Tables)
  (workspace : Workspace)

include healthy

theorem outcome_rolesByUuid_working (uuids : List Uuid) :
    (uuids.mapM fun uuid => backend.call (.roleByUuid uuid)).outcome
        (working surroundings base workspace) =
      (match workspace.tables.missing? uuids with
        | some uuid => .error (.notFound "role" uuid.text)
        | none => .ok (uuids.filterMap workspace.tables.roleByUuid?),
        working surroundings base workspace) := by
  induction uuids with
  | nil => rfl
  | cons uuid uuids induction =>
      have looked : (Workspace.perform (.roleByUuid uuid)).outcome workspace =
          (match workspace.tables.roleByUuid? uuid with
            | some role => .ok role
            | none => .error (.notFound "role" uuid.text), workspace) := rfl
      rw [List.mapM_cons, Tables.missing?, List.find?_cons, List.filterMap_cons]
      cases found : workspace.tables.roleByUuid? uuid with
      | none =>
          rw [found] at looked
          exact outcome_call_working_of_error healthy base looked _
      | some role =>
          rw [found] at looked
          rw [outcome_call_working_of_ok healthy base looked, Action.outcome_bind, induction]
          change _ = (match workspace.tables.missing? uuids with
            | some uuid => _
            | none => _, _)
          cases workspace.tables.missing? uuids <;> rfl

variable {userId : Int} {texts : List String}

theorem outcome_assignRoles_of_named (distinct : workspace.tables.IdsDistinct)
    (keysDistinct : workspace.tables.LiveKeysDistinct)
    (names : workspace.tables.NamesRoles texts) :
    ∃ roles added later,
      (assignRoles backend userId texts).outcome (working surroundings base workspace) =
        (.ok roles, working surroundings base later) ∧
      roles.map (·.uuid) = spelled texts ∧
      (∀ role ∈ roles, role ∈ workspace.tables.roles ∧ role.isLive = true) ∧
      Workspace.Reassigned userId roles workspace added later := by
  rcases Tables.namesRoles_iff.mp names with ⟨spells, found⟩
  rw [← Tables.missing?_eq_none_iff] at found
  let roles := (spelled texts).filterMap workspace.tables.roleByUuid?
  have uuids : roles.map (·.uuid) = spelled texts := Tables.map_uuid_of_found found
  have live : ∀ role ∈ roles, role ∈ workspace.tables.roles ∧ role.isLive = true := by
    intro role member
    rcases List.mem_filterMap.mp member with ⟨uuid, -, isFound⟩
    have facts := Tables.of_roleByUuid? isFound
    exact ⟨facts.1, facts.2.1⟩
  have once : roles.Nodup := List.Nodup.of_map (·.uuid) (uuids ▸ nodup_spelled texts)
  rcases Workspace.exists_reassigned distinct keysDistinct live once userId with
    ⟨added, later, assigned, reassigned⟩
  refine ⟨roles, added, later, ?_, uuids, live, reassigned⟩
  rw [assignRoles, Action.outcome_bind, Action.outcome_ofExcept, readUuids_eq, spells]
  dsimp only
  rw [outcome_enter_working, Action.outcome_bind, outcome_rolesByUuid_working healthy, found]
  dsimp only
  rw [outcome_enter_working, outcome_call_working_of_ok healthy base assigned]
  rfl

theorem outcome_assignRoles_of_unnamed (unnamed : ¬ workspace.tables.NamesRoles texts) :
    ∃ fault,
      (assignRoles backend userId texts).outcome (working surroundings base workspace) =
        (.error fault, working surroundings base workspace) ∧
      ((∃ text, misspelled? texts = some text ∧
          fault = .invalidBody "role_uuids" ("'" ++ text ++ "' is not a valid uuid")) ∨
        misspelled? texts = none ∧ ∃ uuid, workspace.tables.missing? (spelled texts) = some uuid ∧
          fault = .notFound "role" uuid.text) := by
  rw [assignRoles, Action.outcome_bind, Action.outcome_ofExcept, readUuids_eq]
  cases spells : misspelled? texts with
  | some text => exact ⟨_, rfl, Or.inl ⟨text, rfl, rfl⟩⟩
  | none =>
      have isMissing : workspace.tables.missing? (spelled texts) ≠ none := by
        rw [Ne, Tables.missing?_eq_none_iff]
        exact fun found => unnamed (Tables.namesRoles_iff.mpr ⟨spells, found⟩)
      rcases Option.ne_none_iff_exists'.mp isMissing with ⟨uuid, first⟩
      refine ⟨.notFound "role" uuid.text, ?_, Or.inr ⟨rfl, uuid, first, rfl⟩⟩
      dsimp only
      rw [outcome_enter_working, Action.outcome_bind, outcome_rolesByUuid_working healthy, first]

theorem outcome_userRole_working :
    (userRole backend).outcome (working surroundings base workspace) =
      (match workspace.tables.roleByKey? .user with
        | some role => .ok role
        | none => .error (.notFound "role" RoleKey.user.name),
        working surroundings base workspace) := by
  have looked : (Workspace.perform (.roleByKey .user)).outcome workspace =
      (.ok (workspace.tables.roleByKey? .user), workspace) := rfl
  rw [userRole, outcome_call_working_of_ok healthy base looked]
  cases workspace.tables.roleByKey? .user <;> rfl

end

end Desk

/-- Whatever a user has, assigning roles leaves exactly the roles that are named, where all texts
name live roles, and nothing else changes; where not, nothing changes at all. The role of new
users is assigned in the same way. -/
theorem assignment_replaces_grants {surroundings : Surroundings}
    (healthy : surroundings.failing = []) {workspace : Workspace}
    (distinct : workspace.tables.IdsDistinct) (keysDistinct : workspace.tables.LiveKeysDistinct)
    (base : Tables) (userId : Int) (texts : List String) :
    let desk := Desk.working surroundings base workspace
    (workspace.tables.NamesRoles texts → ∃ roles added later,
      (assignRoles Desk.backend userId texts).outcome desk =
        (.ok roles, Desk.working surroundings base later) ∧
      roles.map (·.uuid) = spelled texts ∧
      (∀ role ∈ roles, role ∈ workspace.tables.roles ∧ role.isLive = true) ∧
      Workspace.Reassigned userId roles workspace added later) ∧
    (¬ workspace.tables.NamesRoles texts → ∃ fault,
      (assignRoles Desk.backend userId texts).outcome desk = (.error fault, desk) ∧
      ((∃ text, misspelled? texts = some text ∧
          fault = .invalidBody "role_uuids" ("'" ++ text ++ "' is not a valid uuid")) ∨
        misspelled? texts = none ∧ ∃ uuid, workspace.tables.missing? (spelled texts) = some uuid ∧
          fault = .notFound "role" uuid.text)) ∧
    (∀ role ∈ workspace.tables.roles, role.isLive = true → role.key = .user → ∃ added later,
      (assignUserRole Desk.backend userId).outcome desk =
        (.ok role, Desk.working surroundings base later) ∧
      Workspace.Reassigned userId [role] workspace added later) ∧
    ((∀ role ∈ workspace.tables.roles, role.isLive = true → role.key ≠ .user) →
      (assignUserRole Desk.backend userId).outcome desk =
        (.error (.notFound "role" RoleKey.user.name), desk)) := by
  refine ⟨Desk.outcome_assignRoles_of_named healthy base workspace distinct keysDistinct,
    Desk.outcome_assignRoles_of_unnamed healthy base workspace, ?_, ?_⟩
  · intro role member live isUserRole
    have found : workspace.tables.roleByKey? .user = some role :=
      isUserRole ▸ Tables.roleByKey?_of_live keysDistinct member live
    rcases Workspace.exists_reassigned distinct keysDistinct
        (List.forall_mem_singleton.mpr ⟨member, live⟩) (List.nodup_singleton role) userId with
      ⟨added, later, assigned, reassigned⟩
    refine ⟨added, later, ?_, reassigned⟩
    rw [assignUserRole, Desk.outcome_enter_working, Action.outcome_bind,
      Desk.outcome_userRole_working healthy, found]
    dsimp only
    rw [Desk.outcome_enter_working]
    exact Desk.outcome_call_working_of_ok healthy base assigned _
  · intro noUserRole
    have missing : workspace.tables.roleByKey? .user = none := by
      refine List.find?_eq_none.mpr fun role member => ?_
      rw [Bool.and_eq_true, decide_eq_true_eq]
      exact fun wanted => noUserRole role member wanted.2 wanted.1
    rw [assignUserRole, Desk.outcome_enter_working, Action.outcome_bind,
      Desk.outcome_userRole_working healthy, missing]

/-- Two roles in three spellings: the role and the permission that the user had are revoked, under
numbers of their own come the two roles, and the other user notices nothing. -/
theorem assignment_replaces_grants_respelled :
    let texts := ["00000000-0000-0000-0000-000000000002", "{00000000-0000-0000-0000-000000000001}",
      "00000000000000000000000000000002"]
    let desk := Desk.working World.fresh.surroundings Tables.empty .staffed
    ∃ added later,
      (assignRoles Desk.backend 7 texts).outcome desk =
        (.ok (Workspace.staffed.tables.liveRoles.take 2).reverse,
          Desk.working World.fresh.surroundings .empty later) ∧
      later.tables.liveGrants 7 = added ∧ added.map (·.gift) = [(some 2, none), (some 1, none)] ∧
      added.map (·.id) = [13, 14] ∧ Workspace.staffed.tables.AreNew [13, 14] ∧
      later.tables.roleKeysOf 7 = [.sales, .staff] ∧
      later.tables.permissionKeysOf 7 = [.readUser, .readRole] ∧
      Workspace.staffed.tables.SameFor 8 later.tables := by
  intro texts desk
  have healthy : World.fresh.surroundings.failing = [] := rfl
  have distinct : Workspace.staffed.tables.KeysDistinct :=
    ⟨⟨by decide, by decide, by decide⟩, by decide⟩
  have orderly : Workspace.staffed.Orderly := ⟨distinct, ⟨by decide, by decide, by decide⟩⟩
  have names : Workspace.staffed.tables.NamesRoles texts := by
    rw [Tables.namesRoles_iff, ← Tables.missing?_eq_none_iff]
    decide +kernel
  rcases (assignment_replaces_grants healthy distinct.toIdsDistinct (by decide) .empty 7 texts).1
    names with ⟨roles, added, later, ends, -, -, reassigned⟩
  have answered : ((assignRoles Desk.backend 7 texts).outcome desk).1 =
      .ok (Workspace.staffed.tables.liveRoles.take 2).reverse := by decide +kernel
  rw [ends] at answered
  obtain rfl := Except.ok.inj answered
  have isNew := reassigned.isNew orderly (by decide)
  rw [reassigned.numbers] at isNew
  refine ⟨added, later, ends, reassigned.live, ?_, ?_, ?_, ?_, ?_, reassigned.others 8 (by decide)⟩
  · rw [reassigned.gifts]
    decide
  · rw [reassigned.numbers]
    decide
  · exact isNew
  · rw [reassigned.roleKeys]
    decide
  · rw [reassigned.permissionKeys]
    decide +kernel

end Entitlement
