import Entitlement.Proofs.Assignments

/-! # Direct grants add up

Granting permissions adds grants of those that the user does not hold by a live grant of its own,
whether or not a role gives them, and whether or not they were revoked before. The call looks at
the grants that it has just added, so no permission is granted twice; what is granted depends on
nothing but the set of live permissions that are named, and granting it again adds nothing. -/

namespace Entitlement

open Store Service

namespace Store

/-! ## Which permissions are granted -/

namespace Workspace

theorem holdsDirectly_iff {workspace : Workspace} {userId permissionId : Int} :
    workspace.holdsDirectly userId permissionId = true ↔
      ∃ grant ∈ workspace.tables.liveGrants userId, grant.permissionId = some permissionId := by
  simp [holdsDirectly]

theorem holdsDirectly_addGrant {userId permissionId other : Int}
    (different : other ≠ permissionId) (workspace : Workspace) :
    (workspace.addGrant (Grant.ofPermission userId permissionId)).holdsDirectly userId other =
      workspace.holdsDirectly userId other := by
  have added := foldl_addGrant [Grant.ofPermission userId permissionId] workspace
  rw [List.foldl_cons, List.foldl_nil] at added
  rw [added]
  simp [holdsDirectly, Tables.liveGrants, List.filter_append, Supply.issue, Grant.ofPermission,
    Grant.isLive, different.symm]

theorem outcome_grantPermissions (userId : Int) {permissionIds : List Int}
    (distinct : permissionIds.Nodup) (workspace : Workspace) :
    (grantPermissions userId permissionIds).outcome workspace =
      (.ok (), ((permissionIds.filter fun id => !workspace.holdsDirectly userId id).map
        (Grant.ofPermission userId)).foldl addGrant workspace) := by
  change (Except.ok (), permissionIds.foldl (fun workspace permissionId =>
    if workspace.holdsDirectly userId permissionId then workspace
    else workspace.addGrant (Grant.ofPermission userId permissionId)) workspace) = _
  induction permissionIds generalizing workspace with
  | nil => rfl
  | cons permissionId permissionIds induction =>
      rcases List.nodup_cons.mp distinct with ⟨notAgain, distinct⟩
      rw [List.foldl_cons, List.filter_cons]
      cases held : workspace.holdsDirectly userId permissionId with
      | true => exact induction distinct workspace
      | false =>
          -- What is granted first does not count as held when the others are looked at.
          have unchanged : (permissionIds.filter fun id =>
              !(workspace.addGrant (Grant.ofPermission userId permissionId)).holdsDirectly
                userId id) =
              permissionIds.filter fun id => !workspace.holdsDirectly userId id := by
            refine List.filter_congr fun id member => ?_
            have different : id ≠ permissionId := fun same => notAgain (same ▸ member)
            rw [holdsDirectly_addGrant different]
          have rest := induction distinct
            (workspace.addGrant (Grant.ofPermission userId permissionId))
          rw [unchanged] at rest
          exact rest

def lacking (workspace : Workspace) (userId : Int) (named : List Permission) : List Permission :=
  named.filter fun permission => !workspace.holdsDirectly userId permission.id

theorem outcome_grantPermissions_named {named : List Permission}
    (distinct : (named.map (·.id)).Nodup) (userId : Int) (workspace : Workspace) :
    (perform (.grantPermissions userId (named.map (·.id)))).outcome workspace =
      (.ok (), (((workspace.lacking userId named).map (·.id)).map
        (Grant.ofPermission userId)).foldl addGrant workspace) := by
  have performed := outcome_grantPermissions userId distinct workspace
  rw [List.filter_map] at performed
  exact performed

end Workspace

/-! ## What the grants give -/

namespace Tables

def HoldsOnce (tables : Tables) (userId : Int) : Prop :=
  ((tables.liveGrants userId).filterMap (·.permissionId)).Nodup

instance (tables : Tables) (userId : Int) : Decidable (tables.HoldsOnce userId) :=
  inferInstanceAs (Decidable (List.Nodup _))

theorem permissionsOfGift_permission {tables : Tables} (distinct : tables.IdsDistinct)
    {permission : Permission}
    (live : permission ∈ tables.permissions ∧ permission.isLive = true) :
    tables.permissionsOfGift (none, some permission.id) = [permission] := by
  have found : tables.permissionById? permission.id = some permission :=
    (permissionById?_eq_some_iff distinct.permissions _ _).mpr ⟨live.1, rfl, live.2⟩
  simp [permissionsOfGift, found]

end Tables

namespace Workspace

structure GrantsLacking (userId : Int) (named : List Permission) (before : Workspace)
    (added : List Grant) (after : Workspace) : Prop where
  tables : after.tables = { before.tables with grants := before.tables.grants ++ added }
  live : after.tables.liveGrants userId = before.tables.liveGrants userId ++ added
  gifts : added.map (·.gift) =
    (before.lacking userId named).map fun permission => (none, some permission.id)
  numbers : added.map (·.id) = numbersAfter before.supply.lastId added.length
  isNew : before.Orderly → before.supply.Lasts added.length →
    before.tables.AreNew (added.map (·.id))
  roleKeys : after.tables.roleKeysOf userId = before.tables.roleKeysOf userId
  permissionKeys : ∀ key, key ∈ after.tables.permissionKeysOf userId ↔
    key ∈ before.tables.permissionKeysOf userId ∨ ∃ permission ∈ named, permission.key = key
  others : ∀ other, other ≠ userId → before.tables.SameFor other after.tables
  once : before.tables.HoldsOnce userId → after.tables.HoldsOnce userId

theorem nodup_held_append {workspace : Workspace} {userId : Int} {named : List Permission}
    (heldOnce : workspace.tables.HoldsOnce userId) (once : (named.map (·.id)).Nodup) :
    ((workspace.tables.liveGrants userId).filterMap (·.permissionId) ++
      (workspace.lacking userId named).map (·.id)).Nodup := by
  refine List.nodup_append.mpr ⟨heldOnce, once.sublist (List.filter_sublist.map _), ?_⟩
  intro id isHeld other isLacking same
  rcases List.mem_filterMap.mp isHeld with ⟨grant, isLive, names⟩
  rcases List.mem_map.mp isLacking with ⟨permission, member, rfl⟩
  have notHeld := (List.mem_filter.mp member).2
  rw [holdsDirectly_iff.mpr ⟨grant, isLive, same ▸ names⟩] at notHeld
  cases notHeld

theorem roleKeys_of_gifts {workspace : Workspace} {named : List Permission} {after : Tables}
    {userId : Int} (same : after.roleById? = workspace.tables.roleById?)
    (gifts : after.gifts userId = workspace.tables.gifts userId ++
      (workspace.lacking userId named).map fun permission => (none, some permission.id)) :
    after.roleKeysOf userId = workspace.tables.roleKeysOf userId := by
  have noRoles : (workspace.lacking userId named).filterMap
      ((fun gift => (gift.1.bind workspace.tables.roleById?).map (·.key)) ∘
        fun permission => ((none : Option Int), some permission.id)) = [] :=
    List.filterMap_eq_nil_iff.mpr fun _ _ => rfl
  rw [Tables.roleKeysOf_eq, Tables.roleKeysOf_eq, gifts, same, List.filterMap_append,
    List.filterMap_map, noRoles, List.append_nil]

section

variable {workspace : Workspace} (distinct : workspace.tables.IdsDistinct)
  {named : List Permission}
  (live : ∀ permission ∈ named, permission ∈ workspace.tables.permissions ∧
    permission.isLive = true)

include distinct live

theorem flatMap_permissionsOfGift_lacking (userId : Int) :
    ((workspace.lacking userId named).flatMap fun permission =>
        workspace.tables.permissionsOfGift (none, some permission.id)) =
      workspace.lacking userId named := by
  have single : ∀ permission ∈ workspace.lacking userId named,
      workspace.tables.permissionsOfGift (none, some permission.id) = [permission] :=
    fun permission member => Tables.permissionsOfGift_permission distinct
      (live permission (List.mem_of_mem_filter member))
  rw [List.flatMap_congr single, List.flatMap_singleton']

theorem mem_lacking_or_held (userId : Int) {permission : Permission}
    (isNamed : permission ∈ named) :
    permission ∈ workspace.lacking userId named ∨
      permission.key ∈ workspace.tables.permissionKeysOf userId := by
  cases held : workspace.holdsDirectly userId permission.id with
  | false => exact Or.inl (List.mem_filter.mpr ⟨isNamed, by rw [held]; rfl⟩)
  | true =>
      right
      rcases holdsDirectly_iff.mp held with ⟨grant, isLive, names⟩
      rw [Tables.mem_liveGrants_iff] at isLive
      refine (Tables.mem_permissionKeysOf_iff distinct userId permission.key).mpr
        ⟨permission, ⟨(live permission isNamed).1, (live permission isNamed).2, Or.inl ?_⟩, rfl⟩
      exact ⟨grant, isLive.1, isLive.2.1, isLive.2.2, names⟩

theorem mem_permissionKeys_of_gifts {after : Tables} {userId : Int}
    (same : after.permissionsOfGift = workspace.tables.permissionsOfGift)
    (gifts : after.gifts userId = workspace.tables.gifts userId ++
      (workspace.lacking userId named).map fun permission => (none, some permission.id))
    (key : PermissionKey) :
    key ∈ after.permissionKeysOf userId ↔
      key ∈ workspace.tables.permissionKeysOf userId ∨
        ∃ permission ∈ named, permission.key = key := by
  have keys : key ∈ after.permissionKeysOf userId ↔
      key ∈ workspace.tables.permissionKeysOf userId ∨
        ∃ permission ∈ workspace.lacking userId named, permission.key = key := by
    rw [Tables.permissionKeysOf_eq, Tables.permissionKeysOf_eq, gifts, same, List.flatMap_append,
      List.flatMap_map, flatMap_permissionsOfGift_lacking distinct live, List.map_append,
      List.mem_eraseDups, List.mem_eraseDups, List.mem_append,
      List.mem_map (l := workspace.lacking userId named)]
  rw [keys]
  constructor
  · intro given
    rcases given with old | ⟨permission, isLacking, equal⟩
    · exact Or.inl old
    · exact Or.inr ⟨permission, List.mem_of_mem_filter isLacking, equal⟩
  · intro given
    rcases given with old | ⟨permission, isNamed, rfl⟩
    · exact Or.inl old
    · rcases mem_lacking_or_held distinct live userId isNamed with isLacking | held
      · exact Or.inr ⟨permission, isLacking, rfl⟩
      · exact Or.inl held

theorem exists_grantsLacking (once : (named.map (·.id)).Nodup) (userId : Int) :
    ∃ added later,
      (perform (.grantPermissions userId (named.map (·.id)))).outcome workspace = (.ok (), later) ∧
      GrantsLacking userId named workspace added later := by
  let ids := (workspace.lacking userId named).map (·.id)
  let issued := ids.map (Grant.ofPermission userId)
  let added := (workspace.supply.issue issued).1
  let after : Tables := { workspace.tables with grants := workspace.tables.grants ++ added }
  have isLive : after.liveGrants userId = workspace.tables.liveGrants userId ++ added := by
    rw [Tables.liveGrants, List.filter_append,
      Supply.filter_issue_eq_self (by simp [Grant.ofPermission, Grant.isLive])]
    rfl
  have gifts : added.map (·.gift) =
      (workspace.lacking userId named).map fun permission => (none, some permission.id) := by
    have given : added.map (·.gift) = ids.map fun id => (none, some id) :=
      Supply.map_issue (fun _ _ _ => rfl) _ _
    rw [given, List.map_map]
    rfl
  have giftsAfter : after.gifts userId = workspace.tables.gifts userId ++
      (workspace.lacking userId named).map fun permission => (none, some permission.id) := by
    rw [Tables.gifts, isLive, List.map_append, gifts]
    rfl
  have size : added.length = issued.length := length_issue _ _
  refine ⟨added, ⟨after, (workspace.supply.issue issued).2⟩, ?_, rfl, isLive, gifts, ?_, ?_, ?_, ?_,
    ?_, ?_⟩
  · rw [outcome_grantPermissions_named once, foldl_addGrant]
  · exact (Supply.map_id_issue workspace.supply issued).trans (congrArg _ size.symm)
  · exact fun orderly lasts => orderly.areNew (size ▸ lasts)
  · exact roleKeys_of_gifts rfl giftsAfter
  · exact mem_permissionKeys_of_gifts distinct live rfl giftsAfter
  · intro other different
    apply Tables.sameFor_withGrants
    rw [List.filter_append,
      Supply.filter_issue_eq_nil (by simp [Grant.ofPermission, different.symm]), List.append_nil]
    rfl
  · intro heldOnce
    have granted : added.filterMap (·.permissionId) = ids := by
      have byGift : added.filterMap (·.permissionId) = (added.map (·.gift)).filterMap (·.2) := by
        rw [List.filterMap_map]
        rfl
      rw [byGift, gifts, List.filterMap_map]
      exact congrFun (List.filterMap_eq_map (f := Permission.id)) _
    rw [Tables.HoldsOnce, isLive, List.filterMap_append, granted]
    exact nodup_held_append heldOnce once

end

theorem GrantsLacking.lacking_eq_nil {userId : Int} {named : List Permission}
    {before after : Workspace} {added : List Grant}
    (grants : GrantsLacking userId named before added after) : after.lacking userId named = [] := by
  refine List.filter_eq_nil_iff.mpr fun permission isNamed => ?_
  have held : after.holdsDirectly userId permission.id = true := by
    rw [holdsDirectly_iff, grants.live]
    cases heldBefore : before.holdsDirectly userId permission.id with
    | true =>
        rcases holdsDirectly_iff.mp heldBefore with ⟨grant, isLive, names⟩
        exact ⟨grant, List.mem_append_left _ isLive, names⟩
    | false =>
        have isLacking : permission ∈ before.lacking userId named :=
          List.mem_filter.mpr ⟨isNamed, by rw [heldBefore]; rfl⟩
        have isGiven : (none, some permission.id) ∈ added.map (·.gift) :=
          grants.gifts ▸ List.mem_map_of_mem isLacking
        rcases List.mem_map.mp isGiven with ⟨grant, isAdded, gift⟩
        exact ⟨grant, List.mem_append_right _ isAdded, (Prod.mk.inj gift).2⟩
  simp [held]

end Workspace
end Store

/-! ## The service -/

theorem Desk.outcome_grantPermissions_working {surroundings : Surroundings}
    (healthy : surroundings.failing = []) (base : Tables) {workspace later : Workspace}
    (distinct : (workspace.tables.permissions.map (·.id)).Nodup) {texts : List String}
    (spells : misspelled? texts = none) {named : List Permission}
    (areNamed : workspace.tables.AreNamed texts named) {userId : Int}
    (granted : (Workspace.perform (.grantPermissions userId (named.map (·.id)))).outcome workspace =
      (.ok (), later)) :
    (grantPermissions backend userId texts).outcome (working surroundings base workspace) =
      (.ok named.length, working surroundings base later) := by
  have looked : (Workspace.perform (.permissionIds (spelled texts))).outcome workspace =
      (.ok (named.map (·.id)), workspace) := by
    rw [areNamed.map_id distinct]
    rfl
  rw [grantPermissions, Action.outcome_bind, Action.outcome_ofExcept, readUuids_eq, spells]
  dsimp only
  rw [outcome_enter_working, outcome_call_working_of_ok healthy base looked,
    outcome_enter_working, outcome_call_working_of_ok healthy base granted, List.length_map]
  rfl

/-- Granting permissions counts those that are named, and grants those of them that the user lacks.
Granting the same ones again, however they are named, has the same answer and grants nothing. -/
theorem direct_grants_add_up {surroundings : Surroundings} (healthy : surroundings.failing = [])
    {workspace : Workspace} (distinct : workspace.tables.IdsDistinct) (base : Tables) (userId : Int)
    (texts : List String) :
    let desk := Desk.working surroundings base workspace
    (misspelled? texts = none → ∃ named added later,
      workspace.tables.AreNamed texts named ∧
      (grantPermissions Desk.backend userId texts).outcome desk =
        (.ok named.length, Desk.working surroundings base later) ∧
      Workspace.GrantsLacking userId named workspace added later ∧
      ∀ again, misspelled? again = none → workspace.tables.AreNamed again named →
        (grantPermissions Desk.backend userId again).outcome desk =
          (.ok named.length, Desk.working surroundings base later) ∧
        (grantPermissions Desk.backend userId again).outcome
            (Desk.working surroundings base later) =
          (.ok named.length, Desk.working surroundings base later)) ∧
    ∀ text, misspelled? texts = some text →
      (grantPermissions Desk.backend userId texts).outcome desk =
        (.error (.invalidBody "permission_uuids" ("'" ++ text ++ "' is not a valid uuid")),
          desk) := by
  constructor
  · intro spells
    rcases Tables.exists_areNamed distinct.permissions texts with ⟨named, areNamed, -⟩
    rcases Workspace.exists_grantsLacking distinct areNamed.live areNamed.once userId with
      ⟨added, later, granted, grants⟩
    have samePermissions : later.tables.permissions = workspace.tables.permissions := by
      rw [grants.tables]
    have grantedAlready : (Workspace.perform (.grantPermissions userId (named.map (·.id)))).outcome
        later = (.ok (), later) := by
      rw [Workspace.outcome_grantPermissions_named areNamed.once, grants.lacking_eq_nil]
      rfl
    refine ⟨named, added, later, areNamed, ?_, grants, fun again spellsAgain namedAgain => ⟨?_, ?_⟩⟩
    · exact Desk.outcome_grantPermissions_working healthy base distinct.permissions spells areNamed
        granted
    · exact Desk.outcome_grantPermissions_working healthy base distinct.permissions spellsAgain
        namedAgain granted
    · exact Desk.outcome_grantPermissions_working healthy base
        (samePermissions ▸ distinct.permissions) spellsAgain (namedAgain.of_same samePermissions)
        grantedAlready
  · intro text misspells
    rw [grantPermissions, Action.outcome_bind, Action.outcome_ofExcept, readUuids_eq, misspells]

/-- Of five texts three name live permissions: one that the user holds directly, one that only a
role gives, and one that was revoked. The last two are granted, once, however often they are named
and in whatever order. -/
theorem direct_grants_add_up_renamed :
    let texts := ["00000000-0000-0000-0000-000000000008", "00000000-0000-0000-0000-000000000005",
      "00000000-0000-0000-0000-000000000007", "00000000-0000-0000-0000-000000000006",
      "00000000-0000-0000-0000-000000000063"]
    let again := ["00000000000000000000000000000006", "00000000-0000-0000-0000-000000000006",
      "{00000000-0000-0000-0000-000000000005}", "00000000-0000-0000-0000-000000000008"]
    let named := [5, 6, 8].filterMap Workspace.staffed.tables.permissionById?
    let surroundings := World.fresh.surroundings
    ∃ added later,
      (grantPermissions Desk.backend 7 texts).outcome (Desk.working surroundings .empty .staffed) =
        (.ok 3, Desk.working surroundings .empty later) ∧
      added.map (·.gift) = [(none, some 6), (none, some 8)] ∧
      later.tables.liveGrants 7 = Workspace.staffed.tables.liveGrants 7 ++ added ∧
      (∀ key, key ∈ later.tables.permissionKeysOf 7 ↔
        key ∈ Workspace.staffed.tables.permissionKeysOf 7 ∨
          ∃ permission ∈ named, permission.key = key) ∧
      later.tables.HoldsOnce 7 ∧
      (grantPermissions Desk.backend 7 again).outcome (Desk.working surroundings .empty later) =
        (.ok 3, Desk.working surroundings .empty later) := by
  intro texts again named surroundings
  have distinct : Workspace.staffed.tables.IdsDistinct := ⟨by decide, by decide, by decide⟩
  have healthy : surroundings.failing = [] := rfl
  rcases (direct_grants_add_up healthy distinct .empty 7 texts).1 (by decide +kernel) with
    ⟨found, added, later, areNamed, ends, grants, repeats⟩
  have isNamed : found = named := by
    rw [← areNamed.filterMap_permissionById? distinct.permissions,
      areNamed.map_id distinct.permissions, Tables.permissionIds_of_ascending (by decide)]
    decide +kernel
  subst isNamed
  have namedAgain : Workspace.staffed.tables.AreNamed again named :=
    areNamed.of_sameNames (by decide +kernel)
  refine ⟨added, later, ends, ?_, grants.live, grants.permissionKeys, grants.once (by decide),
    (repeats again (by decide +kernel) namedAgain).2⟩
  rw [grants.gifts]
  decide +kernel

end Entitlement
