import Entitlement.Proofs.Numbers
import Entitlement.Proofs.Rows
import Entitlement.Store.Workspace

/-! # What calls change

Every call leaves the working copy alone or changes one of its tables in one of seven ways:
roles are created, updated and deleted, the permissions of a role are replaced, permissions
are created, and grants are revoked and added. All that is known about runs of calls
follows from this list. -/

namespace Entitlement.Store

/-! ## Adding grants -/

/-- Grants stored one after the other. Each is dated by the clock and takes the next
number. -/
def Supply.issue (supply : Supply) : List (Instant → Grant) → List Grant × Supply
  | [] => ([], supply)
  | grant :: grants =>
      let (now, supply) := supply.readClock
      let (id, supply) := supply.takeId
      let (rows, supply) := supply.issue grants
      ({ grant now with id } :: rows, supply)

theorem Supply.leadsTo_issue {supply : Supply} {grants : List (Instant → Grant)}
    (lasts : supply.Lasts grants.length) : supply.LeadsTo (supply.issue grants).2 := by
  induction grants generalizing supply with
  | nil => exact LeadsTo.refl supply
  | cons grant grants induction =>
      have here : supply.readClock.2.Lasts (grants.length + 1) := lasts
      exact (leadsTo_takeId here).trans (induction (lasts_takeId here))

/-- As long as the counter lasts, issued grants have numbers that were not in use before,
each its own. -/
theorem Supply.issue_numbers {supply : Supply} {grants : List (Instant → Grant)}
    (lasts : supply.Lasts grants.length) :
    ((supply.issue grants).1.map (·.id)).Nodup ∧
      ∀ row ∈ (supply.issue grants).1,
        ¬ supply.Covers row.id ∧ (supply.issue grants).2.Covers row.id := by
  induction grants generalizing supply with
  | nil => simp [issue]
  | cons grant grants induction =>
      have here : supply.readClock.2.Lasts (grants.length + 1) := lasts
      have rest : supply.readClock.2.takeId.2.Lasts grants.length := lasts_takeId here
      have ahead : supply.LeadsTo supply.readClock.2.takeId.2 := leadsTo_takeId here
      have covered : supply.readClock.2.takeId.2.Covers supply.readClock.2.takeId.1 :=
        covers_takeId _
      rcases induction rest with ⟨distinct, numbers⟩
      constructor
      · refine List.nodup_cons.mpr ⟨fun member => ?_, distinct⟩
        rcases List.mem_map.mp member with ⟨row, inRows, equal⟩
        apply (numbers row inRows).1
        rw [equal]
        exact covered
      · intro row member
        rcases List.mem_cons.mp member with rfl | member
        · exact ⟨not_covers_takeId here, covered.mono (leadsTo_issue rest)⟩
        · exact ⟨fun known => (numbers row member).1 (known.mono ahead),
            (numbers row member).2⟩

theorem Supply.map_id_issue (supply : Supply) (grants : List (Instant → Grant)) :
    (supply.issue grants).1.map (·.id) = numbersAfter supply.lastId grants.length := by
  induction grants generalizing supply with
  | nil => rfl
  | cons grant grants induction =>
      exact congrArg (supply.takeId.1 :: ·) (induction supply.readClock.2.takeId.2)

theorem Supply.exists_of_mem_issue {ι : Type} {make : ι → Instant → Grant} {supply : Supply}
    {given : List ι} {grant : Grant} (member : grant ∈ (supply.issue (given.map make)).1) :
    ∃ wanted ∈ given, ∃ now id, grant = { make wanted now with id } := by
  induction given generalizing supply with
  | nil => cases member
  | cons head given induction =>
      rcases List.mem_cons.mp member with rfl | member
      · exact ⟨head, List.mem_cons_self, _, _, rfl⟩
      · rcases induction member with ⟨wanted, isGiven, made⟩
        exact ⟨wanted, List.mem_cons_of_mem _ isGiven, made⟩

theorem Supply.forall_issue {ι : Type} {make : ι → Instant → Grant} {property : Grant → Prop}
    (holds : ∀ given now id, property { make given now with id }) (supply : Supply)
    (given : List ι) : ∀ grant ∈ (supply.issue (given.map make)).1, property grant := by
  intro grant member
  rcases exists_of_mem_issue member with ⟨wanted, -, now, id, rfl⟩
  exact holds wanted now id

namespace Workspace

theorem foldl_addGrant (grants : List (Instant → Grant)) (workspace : Workspace) :
    grants.foldl addGrant workspace =
      ⟨{ workspace.tables with
          grants := workspace.tables.grants ++ (workspace.supply.issue grants).1 },
        (workspace.supply.issue grants).2⟩ := by
  induction grants generalizing workspace with
  | nil => simp [Supply.issue]
  | cons grant grants induction =>
      rw [List.foldl_cons, induction]
      simp [addGrant, Supply.issue, readClock, takeId]

def revoke (userId : Int) (now : Instant) (grant : Grant) : Grant :=
  if grant.userId = userId && grant.isLive then { grant with deletedAt := some now } else grant

theorem grantPermissions_adds (userId : Int) (permissionIds : List Int) (workspace : Workspace) :
    ∃ chosen : List Int, chosen.Sublist permissionIds ∧
      ((grantPermissions userId permissionIds).outcome workspace).2 =
        (chosen.map (Grant.ofPermission userId)).foldl addGrant workspace := by
  change ∃ chosen : List Int, chosen.Sublist permissionIds ∧
    permissionIds.foldl (fun workspace permissionId =>
      if workspace.holdsDirectly userId permissionId then workspace
      else workspace.addGrant (Grant.ofPermission userId permissionId)) workspace = _
  induction permissionIds generalizing workspace with
  | nil => exact ⟨[], List.Sublist.refl [], rfl⟩
  | cons permissionId permissionIds induction =>
      rw [List.foldl_cons]
      split
      · rcases induction workspace with ⟨chosen, sub, equal⟩
        exact ⟨chosen, sub.cons permissionId, equal⟩
      · rcases induction (workspace.addGrant (Grant.ofPermission userId permissionId)) with
          ⟨chosen, sub, equal⟩
        exact ⟨permissionId :: chosen, sub.cons_cons permissionId, equal⟩

/-! ## All changes -/

inductive Change (workspace : Workspace) : {α : Type} → Call α → Workspace → Prop where
  | none {α : Type} (call : Call α) : Change workspace call workspace
  | createRole (role : Role) (free : workspace.tables.keyInUse role.key none = false) :
      Change workspace (.createRole role)
        ⟨{ workspace.tables with
            roles := workspace.tables.roles ++ [{ role with id := workspace.supply.takeId.1 }] },
          workspace.supply.takeId.2⟩
  | updateRole (role : Role) (uuid : Uuid) (before : List Role) (present : Role)
      (after : List Role) (free : workspace.tables.keyInUse role.key (some uuid) = false)
      (whole : workspace.tables.roles = before ++ present :: after)
      (named : present.uuid = uuid) (live : present.isLive = true) :
      Change workspace (.updateRole role uuid)
        ⟨{ workspace.tables with
            roles := before ++ { present with
              title := role.title, key := role.key, description := role.description,
              isDefault := role.isDefault, updatedAt := workspace.supply.readClock.1 } :: after },
          workspace.supply.readClock.2⟩
  | deleteRole (uuid : Uuid) (deletedBy : Int) (before : List Role) (present : Role)
      (after : List Role) (whole : workspace.tables.roles = before ++ present :: after)
      (named : present.uuid = uuid) (optional : present.isDefault = false)
      (live : present.isLive = true) :
      Change workspace (.deleteRole uuid deletedBy)
        ⟨{ workspace.tables with
            roles := before ++ { present with
              deletedAt := some workspace.supply.readClock.1,
              deletedBy := some deletedBy } :: after },
          workspace.supply.readClock.2⟩
  | replacePermissions (roleId : Int) (permissionIds : List Int) :
      Change workspace (.replacePermissions roleId permissionIds)
        ⟨{ workspace.tables with
            attachments := workspace.tables.attachments.filter (·.roleId ≠ roleId) ++
              permissionIds.eraseDups.map fun id => ⟨roleId, id⟩ },
          workspace.supply⟩
  | createPermission (permission : Permission)
      (free : ∀ present ∈ workspace.tables.permissions,
        present.key = permission.key → present.isLive = false) :
      Change workspace (.createPermission permission)
        ⟨{ workspace.tables with
            permissions := workspace.tables.permissions ++
              [{ permission with id := workspace.supply.takeId.1 }] },
          workspace.supply.takeId.2⟩
  | assignRoles (userId : Int) (roleIds : List Int) :
      Change workspace (.assignRoles userId roleIds)
        ⟨{ workspace.tables with
            grants := workspace.tables.grants.map (revoke userId workspace.supply.readClock.1) ++
              (workspace.supply.readClock.2.issue
                (roleIds.eraseDups.map (Grant.ofRole userId))).1 },
          (workspace.supply.readClock.2.issue
            (roleIds.eraseDups.map (Grant.ofRole userId))).2⟩
  | grantPermissions (userId : Int) (permissionIds chosen : List Int)
      (sub : chosen.Sublist permissionIds) :
      Change workspace (.grantPermissions userId permissionIds)
        ⟨{ workspace.tables with
            grants := workspace.tables.grants ++
              (workspace.supply.issue (chosen.map (Grant.ofPermission userId))).1 },
          (workspace.supply.issue (chosen.map (Grant.ofPermission userId))).2⟩

theorem change_createRole (role : Role) (workspace : Workspace) :
    Change workspace (.createRole role) ((perform (.createRole role)).outcome workspace).2 := by
  change Change _ _ ((createRole role).outcome workspace).2
  rw [createRole, Action.outcome_ofOutcome]
  split
  · exact .none _
  · rename_i free
    exact .createRole role (by simpa using free)

theorem change_updateRole (role : Role) (uuid : Uuid) (workspace : Workspace) :
    Change workspace (.updateRole role uuid)
      ((perform (.updateRole role uuid)).outcome workspace).2 := by
  change Change _ _ ((updateRole role uuid).outcome workspace).2
  rw [updateRole, Action.outcome_ofOutcome]
  split
  · exact .none _
  · rename_i free
    dsimp only
    split
    · exact .none _
    · rename_i changed roles found
      rcases (changeFirst?_eq_some_iff _ _ _ _ _).mp found with
        ⟨before, present, after, whole, -, wanted, -, rfl⟩
      simp only [Bool.and_eq_true, decide_eq_true_eq] at wanted
      exact .updateRole role uuid before present after (by simpa using free) whole
        wanted.1 wanted.2

theorem outcome_deleteRole (uuid : Uuid) (deletedBy : Int) (workspace : Workspace) :
    (perform (.deleteRole uuid deletedBy)).outcome workspace =
        (.error (.notDeletable "role" uuid.text), workspace) ∨
      ∃ before present after, workspace.tables.roles = before ++ present :: after ∧
        present.uuid = uuid ∧ present.isDefault = false ∧ present.isLive = true ∧
        (perform (.deleteRole uuid deletedBy)).outcome workspace =
          (.ok (), ⟨{ workspace.tables with
              roles := before ++ { present with
                deletedAt := some workspace.supply.readClock.1,
                deletedBy := some deletedBy } :: after },
            workspace.supply.readClock.2⟩) := by
  rw [perform, deleteRole, Action.outcome_ofOutcome]
  dsimp only
  split
  · exact Or.inl rfl
  · rename_i changed roles found
    rcases (changeFirst?_eq_some_iff _ _ _ _ _).mp found with
      ⟨before, present, after, whole, -, wanted, -, rfl⟩
    simp only [Bool.and_eq_true, decide_eq_true_eq, Bool.not_eq_true'] at wanted
    exact Or.inr ⟨before, present, after, whole, wanted.1.1, wanted.1.2, wanted.2, rfl⟩

theorem change_deleteRole (uuid : Uuid) (deletedBy : Int) (workspace : Workspace) :
    Change workspace (.deleteRole uuid deletedBy)
      ((perform (.deleteRole uuid deletedBy)).outcome workspace).2 := by
  rcases outcome_deleteRole uuid deletedBy workspace with
    fails | ⟨before, present, after, whole, named, optional, live, deletes⟩
  · rw [fails]
    exact .none _
  · rw [deletes]
    exact .deleteRole uuid deletedBy before present after whole named optional live

theorem change_createPermission (permission : Permission) (workspace : Workspace) :
    Change workspace (.createPermission permission)
      ((perform (.createPermission permission)).outcome workspace).2 := by
  change Change _ _ ((createPermission permission).outcome workspace).2
  rw [createPermission, Action.outcome_ofOutcome]
  split
  · exact .none _
  · rename_i taken
    refine .createPermission permission fun present member equal => ?_
    simpa [equal] using fun live => taken (List.any_eq_true.mpr ⟨present, member, live⟩)

theorem outcome_assignRoles (userId : Int) (roleIds : List Int) (workspace : Workspace) :
    ((assignRoles userId roleIds).outcome workspace).2 =
      ⟨{ workspace.tables with
          grants := workspace.tables.grants.map (revoke userId workspace.supply.readClock.1) ++
            (workspace.supply.readClock.2.issue
              (roleIds.eraseDups.map (Grant.ofRole userId))).1 },
        (workspace.supply.readClock.2.issue
          (roleIds.eraseDups.map (Grant.ofRole userId))).2⟩ := by
  have equal : ((assignRoles userId roleIds).outcome workspace).2 =
      (roleIds.eraseDups.map (Grant.ofRole userId)).foldl addGrant
        (workspace.revokeAll userId) := by
    rw [List.foldl_map]
    rfl
  rw [equal, foldl_addGrant]
  rfl

theorem change_assignRoles (userId : Int) (roleIds : List Int) (workspace : Workspace) :
    Change workspace (.assignRoles userId roleIds)
      ((perform (.assignRoles userId roleIds)).outcome workspace).2 := by
  change Change _ _ ((assignRoles userId roleIds).outcome workspace).2
  rw [outcome_assignRoles]
  exact .assignRoles userId roleIds

theorem change_grantPermissions (userId : Int) (permissionIds : List Int)
    (workspace : Workspace) :
    Change workspace (.grantPermissions userId permissionIds)
      ((perform (.grantPermissions userId permissionIds)).outcome workspace).2 := by
  rcases grantPermissions_adds userId permissionIds workspace with ⟨chosen, sub, equal⟩
  change Change _ _ ((grantPermissions userId permissionIds).outcome workspace).2
  rw [equal, foldl_addGrant]
  exact .grantPermissions userId permissionIds chosen sub

theorem perform_change {α : Type} (call : Call α) (workspace : Workspace) :
    Change workspace call ((perform call).outcome workspace).2 := by
  cases call with
  | createRole role => exact change_createRole role workspace
  | updateRole role uuid => exact change_updateRole role uuid workspace
  | deleteRole uuid deletedBy => exact change_deleteRole uuid deletedBy workspace
  | replacePermissions roleId permissionIds =>
      exact .replacePermissions roleId permissionIds
  | createPermission permission => exact change_createPermission permission workspace
  | assignRoles userId roleIds => exact change_assignRoles userId roleIds workspace
  | grantPermissions userId permissionIds =>
      exact change_grantPermissions userId permissionIds workspace
  | roleByUuid | liveRoles | keyInUse | roleByKey | roleWithPermissions | roleKeysOf
  | permissionKeysOf | livePermissions | permissionIds | grantsOf => exact .none _

end Workspace
end Entitlement.Store
