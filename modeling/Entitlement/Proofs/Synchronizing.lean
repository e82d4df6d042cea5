import Entitlement.Proofs.Identifiers
import Entitlement.Proofs.Replacing
import Entitlement.Proofs.WorkingCopies

/-! # Synchronizing the permissions of a role

Synchronizing attaches exactly the live permissions that are named to a role and detaches all
others from it. Links of other roles are kept as they are. The answer is read back from the tables
and lists the permissions in the order of their numbers, so both the answer and the tables depend
on nothing but the set of live permissions that are named. -/

namespace Entitlement

open Store Service

/-! ## The links of a role -/

namespace Store.Workspace

def withLinks (workspace : Workspace) (roleId : Int) (named : List Permission) : Workspace :=
  ⟨{ workspace.tables with
      attachments := workspace.tables.attachments.filter (·.roleId ≠ roleId) ++
        named.map fun permission => ⟨roleId, permission.id⟩ }, workspace.supply⟩

variable (workspace : Workspace) (roleId : Int) (named : List Permission)

theorem roleId_of_mem_links : ∀ link ∈ named.map fun permission =>
    (⟨roleId, permission.id⟩ : Attachment), link.roleId = roleId := by
  simp

theorem withLinks_withLinks :
    (workspace.withLinks roleId named).withLinks roleId named =
      workspace.withLinks roleId named := by
  simp only [withLinks, filter_replaced_ne _ (roleId_of_mem_links roleId named)]

theorem permissionsOfRole_withLinks_other {other : Int} (different : other ≠ roleId) :
    (workspace.withLinks roleId named).tables.permissionsOfRole other =
      workspace.tables.permissionsOfRole other := by
  rw [Tables.permissionsOfRole, withLinks,
    filter_replaced_other _ (roleId_of_mem_links roleId named) different]
  rfl

variable {named}

theorem outcome_replacePermissions (once : (named.map (·.id)).Nodup) :
    (perform (.replacePermissions roleId (named.map (·.id)))).outcome workspace =
      (.ok (), workspace.withLinks roleId named) := by
  change (Except.ok (), Workspace.mk { workspace.tables with
    attachments := workspace.tables.attachments.filter (·.roleId ≠ roleId) ++
      (named.map (·.id)).eraseDups.map fun id => ⟨roleId, id⟩ } workspace.supply) = _
  rw [eraseDups_of_nodup once, List.map_map]
  rfl

variable {workspace} {texts : List String}
  (distinct : (workspace.tables.permissions.map (·.id)).Nodup)
  (areNamed : workspace.tables.AreNamed texts named)

include distinct areNamed

theorem permissionsOfRole_withLinks :
    (workspace.withLinks roleId named).tables.permissionsOfRole roleId = named := by
  have links := filter_replaced workspace.tables.attachments (roleId_of_mem_links roleId named)
  have found := areNamed.filterMap_permissionById? distinct
  rw [List.filterMap_map] at found
  rw [Tables.permissionsOfRole, withLinks, links, List.filterMap_map]
  exact found

/-- Read back in the order of their numbers, the permissions are in the order in which they were
attached. -/
theorem roleWithPermissions?_withLinks {uuid : Uuid} {role : Role}
    (isRole : workspace.tables.roleByUuid? uuid = some role) :
    (workspace.withLinks role.id named).tables.roleWithPermissions? uuid = some ⟨role, named⟩ := by
  have inOrder : named.mergeSort (fun left right => left.id ≤ right.id) = named :=
    List.mergeSort_of_pairwise (areNamed.ascending.imp fun before =>
      decide_eq_true (Int.le_of_lt before))
  have sameRole : (workspace.withLinks role.id named).tables.roleByUuid? uuid = some role := isRole
  rw [Tables.roleWithPermissions?, sameRole, Option.map_some,
    permissionsOfRole_withLinks role.id distinct areNamed, inOrder]

end Store.Workspace

/-! ## The service -/

namespace Desk

section

variable {surroundings : Surroundings} (healthy : surroundings.failing = []) (base : Tables)
  {workspace : Workspace} (distinct : (workspace.tables.permissions.map (·.id)).Nodup)
  {uuid : Uuid} {texts : List String} (spells : misspelled? texts = none)
  {named : List Permission} (areNamed : workspace.tables.AreNamed texts named)

include healthy distinct spells areNamed

theorem outcome_syncPermissions_working {role : Role}
    (isRole : workspace.tables.roleByUuid? uuid = some role) :
    (syncPermissions backend uuid texts).outcome (working surroundings base workspace) =
      (.ok ⟨role, named⟩, working surroundings base (workspace.withLinks role.id named)) := by
  have listed : (Workspace.perform (.permissionIds (spelled texts))).outcome workspace =
      (.ok (named.map (·.id)), workspace) := by
    rw [areNamed.map_id distinct]
    rfl
  have looked : (Workspace.perform (.roleByUuid uuid)).outcome workspace =
      (.ok role, workspace) := by
    rw [Workspace.perform, Action.outcome_reading, isRole]
  have replaced := Workspace.outcome_replacePermissions workspace role.id areNamed.once
  have read : (Workspace.perform (.roleWithPermissions uuid)).outcome
      (workspace.withLinks role.id named) =
        (.ok ⟨role, named⟩, workspace.withLinks role.id named) := by
    rw [Workspace.perform, Action.outcome_reading,
      Workspace.roleWithPermissions?_withLinks distinct areNamed isRole]
  rw [syncPermissions, Action.outcome_bind, Action.outcome_ofExcept, readUuids_eq, spells]
  dsimp only
  rw [outcome_enter_working, outcome_call_working_of_ok healthy base listed,
    outcome_enter_working, outcome_call_working_of_ok healthy base looked,
    outcome_call_working_of_ok healthy base replaced, outcome_call_working healthy, read]

omit distinct areNamed in
theorem outcome_syncPermissions_of_unknown
    (unknown : workspace.tables.roleByUuid? uuid = none) :
    (syncPermissions backend uuid texts).outcome (working surroundings base workspace) =
      (.error (.notFound "role" uuid.text), working surroundings base workspace) := by
  have listed : (Workspace.perform (.permissionIds (spelled texts))).outcome workspace =
      (.ok (workspace.tables.permissionIds (spelled texts)), workspace) := rfl
  have looked : (Workspace.perform (.roleByUuid uuid)).outcome workspace =
      (.error (.notFound "role" uuid.text), workspace) := by
    rw [Workspace.perform, Action.outcome_reading, unknown]
  rw [syncPermissions, Action.outcome_bind, Action.outcome_ofExcept, readUuids_eq, spells]
  dsimp only
  rw [outcome_enter_working, outcome_call_working_of_ok healthy base listed,
    outcome_enter_working, outcome_call_working_of_error healthy base looked]

end

end Desk

/-- Synchronizing gives a role exactly the live permissions that are named, and answers with them
in the order of their numbers. Naming the same ones again, in whatever way, has the same answer and
leaves the same tables. Texts that spell nothing are reported before a role that is not there. -/
theorem sync_replaces_permissions {surroundings : Surroundings}
    (healthy : surroundings.failing = []) {workspace : Workspace}
    (distinct : workspace.tables.IdsDistinct) (base : Tables) (uuid : Uuid) (texts : List String) :
    let desk := Desk.working surroundings base workspace
    (misspelled? texts = none → ∀ role, workspace.tables.roleByUuid? uuid = some role →
      ∃ named, workspace.tables.AreNamed texts named ∧
        let later := workspace.withLinks role.id named
        (syncPermissions Desk.backend uuid texts).outcome desk =
          (.ok ⟨role, named⟩, Desk.working surroundings base later) ∧
        later.tables.permissionsOfRole role.id = named ∧
        (∀ roleId, roleId ≠ role.id →
          later.tables.permissionsOfRole roleId = workspace.tables.permissionsOfRole roleId) ∧
        ∀ again, misspelled? again = none → workspace.tables.AreNamed again named →
          (syncPermissions Desk.backend uuid again).outcome desk =
            (.ok ⟨role, named⟩, Desk.working surroundings base later) ∧
          (syncPermissions Desk.backend uuid again).outcome
              (Desk.working surroundings base later) =
            (.ok ⟨role, named⟩, Desk.working surroundings base later)) ∧
    (∀ text, misspelled? texts = some text →
      (syncPermissions Desk.backend uuid texts).outcome desk =
        (.error (.invalidBody "permission_uuids" ("'" ++ text ++ "' is not a valid uuid")),
          desk)) ∧
    (misspelled? texts = none → workspace.tables.roleByUuid? uuid = none →
      (syncPermissions Desk.backend uuid texts).outcome desk =
        (.error (.notFound "role" uuid.text), desk)) := by
  refine ⟨?_, ?_, Desk.outcome_syncPermissions_of_unknown healthy base⟩
  · intro spells role isRole
    rcases Tables.exists_areNamed distinct.permissions texts with ⟨named, areNamed, -⟩
    refine ⟨named, areNamed, ?_, ?_, ?_, fun again spellsAgain namedAgain => ⟨?_, ?_⟩⟩
    · exact Desk.outcome_syncPermissions_working healthy base distinct.permissions spells areNamed
        isRole
    · exact Workspace.permissionsOfRole_withLinks role.id distinct.permissions areNamed
    · exact fun roleId => Workspace.permissionsOfRole_withLinks_other workspace role.id named
    · exact Desk.outcome_syncPermissions_working healthy base distinct.permissions spellsAgain
        namedAgain isRole
    · have distinctLater :
          ((workspace.withLinks role.id named).tables.permissions.map (·.id)).Nodup :=
        distinct.permissions
      have onceMore := Desk.outcome_syncPermissions_working healthy base distinctLater spellsAgain
        (namedAgain.of_same rfl) isRole
      rw [Workspace.withLinks_withLinks] at onceMore
      exact onceMore
  · intro text misspells
    rw [syncPermissions, Action.outcome_bind, Action.outcome_ofExcept, readUuids_eq, misspells]

/-- The role had one live permission and a deleted one, and gets two others. -/
theorem sync_replaces_permissions_renamed :
    let texts := ["00000000-0000-0000-0000-000000000008", "00000000-0000-0000-0000-000000000005",
      "00000000-0000-0000-0000-000000000007", "00000000-0000-0000-0000-000000000063"]
    let again := ["00000000000000000000000000000005", "00000000-0000-0000-0000-000000000008",
      "{00000000-0000-0000-0000-000000000005}"]
    let named := [5, 8].filterMap Workspace.staffed.tables.permissionById?
    let surroundings := World.fresh.surroundings
    ∃ role later,
      (syncPermissions Desk.backend (.ofNat 1) texts).outcome
          (Desk.working surroundings .empty .staffed) =
        (.ok ⟨role, named⟩, Desk.working surroundings .empty later) ∧
      role.id = 1 ∧ later.tables.permissionsOfRole 1 = named ∧
      later.tables.permissionsOfRole 2 = Workspace.staffed.tables.permissionsOfRole 2 ∧
      (syncPermissions Desk.backend (.ofNat 1) again).outcome
          (Desk.working surroundings .empty later) =
        (.ok ⟨role, named⟩, Desk.working surroundings .empty later) := by
  intro texts again named surroundings
  have distinct : Workspace.staffed.tables.IdsDistinct := ⟨by decide, by decide, by decide⟩
  have healthy : surroundings.failing = [] := rfl
  rcases (sync_replaces_permissions healthy distinct .empty (.ofNat 1) texts).1 (by decide +kernel)
    _ rfl with ⟨found, areNamed, ends, own, others, repeats⟩
  have isNamed : found = named := by
    rw [← areNamed.filterMap_permissionById? distinct.permissions,
      areNamed.map_id distinct.permissions, Tables.permissionIds_of_ascending (by decide)]
    decide +kernel
  subst isNamed
  have namedAgain : Workspace.staffed.tables.AreNamed again named :=
    areNamed.of_sameNames (by decide +kernel)
  have repeated := (repeats again (by decide +kernel) namedAgain).2
  exact ⟨_, _, ends, rfl, own, others 2 (by decide), repeated⟩

end Entitlement
