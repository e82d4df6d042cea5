import Entitlement.Proofs.Changes
import Entitlement.Proofs.Runs

/-! # Integrity of the tables

In every copy of the tables, rows have keys of their own, and the counter has passed the
number of every row. Each call keeps this, and so does each event of a run, as long as the
counter has not come full circle and numbers chosen elsewhere are larger than all before. -/

namespace Entitlement

open Store

namespace Store

/-! ## Working copies -/

structure Tables.Numbered (tables : Tables) (supply : Supply) : Prop where
  roles : ∀ role ∈ tables.roles, supply.Covers role.id
  permissions : ∀ permission ∈ tables.permissions, supply.Covers permission.id
  grants : ∀ grant ∈ tables.grants, supply.Covers grant.id

theorem Tables.numbered_empty (supply : Supply) : Tables.empty.Numbered supply where
  roles := fun _ member => by cases member
  permissions := fun _ member => by cases member
  grants := fun _ member => by cases member

theorem Tables.Numbered.mono {tables : Tables} {supply later : Supply}
    (numbered : tables.Numbered supply) (leads : supply.LeadsTo later) :
    tables.Numbered later where
  roles := fun role member => (numbered.roles role member).mono leads
  permissions := fun permission member => (numbered.permissions permission member).mono leads
  grants := fun grant member => (numbered.grants grant member).mono leads

theorem Tables.Numbered.merge {committed work : Tables} {supply : Supply}
    (numbered : committed.Numbered supply) (numberedWork : work.Numbered supply)
    (base : Tables) : (committed.merge base work).Numbered supply where
  roles := fun role member => (mem_of_mem_mergeRows member).elim
    (numbered.roles role) fun changed => numberedWork.roles role changed.1
  permissions := fun permission member => (mem_of_mem_mergeRows member).elim
    (numbered.permissions permission) fun changed => numberedWork.permissions permission changed.1
  grants := fun grant member => (mem_of_mem_mergeRows member).elim
    (numbered.grants grant) fun changed => numberedWork.grants grant changed.1

structure Workspace.Orderly (workspace : Workspace) : Prop where
  distinct : workspace.tables.KeysDistinct
  numbered : workspace.tables.Numbered workspace.supply

theorem nodup_append_new {α : Type} {key : α → Int} {rows : List α} {row : α}
    {supply : Supply} (distinct : (rows.map key).Nodup)
    (covered : ∀ present ∈ rows, supply.Covers (key present))
    (isNew : ¬ supply.Covers (key row)) : ((rows ++ [row]).map key).Nodup := by
  rw [List.map_append, List.nodup_append_comm]
  refine List.nodup_cons.mpr ⟨fun member => ?_, distinct⟩
  rcases List.mem_map.mp member with ⟨present, inRows, equal⟩
  exact isNew (equal ▸ covered present inRows)

theorem covers_append_new {α : Type} {key : α → Int} {rows : List α} {row : α}
    {supply later : Supply} (covered : ∀ present ∈ rows, supply.Covers (key present))
    (leads : supply.LeadsTo later) (coversNew : later.Covers (key row)) :
    ∀ present ∈ rows ++ [row], later.Covers (key present) := by
  intro present member
  rcases List.mem_append.mp member with inRows | isRow
  · exact (covered present inRows).mono leads
  · rw [List.mem_singleton.mp isRow]
    exact coversNew

theorem nodup_replaceAttachments {attachments : List Attachment}
    (distinct : (attachments.map fun row => (row.roleId, row.permissionId)).Nodup)
    (roleId : Int) (permissionIds : List Int) :
    ((attachments.filter (·.roleId ≠ roleId) ++
      permissionIds.eraseDups.map fun id => (⟨roleId, id⟩ : Attachment)).map
        fun row => (row.roleId, row.permissionId)).Nodup := by
  rw [List.map_append]
  refine List.nodup_append.mpr ⟨?_, ?_, ?_⟩
  · exact distinct.sublist (List.filter_sublist.map _)
  · rw [List.map_map]
    refine (nodup_eraseDups permissionIds).map fun first second equal => ?_
    exact (Prod.mk.inj equal).2
  · intro other old new isNew equal
    rcases List.mem_map.mp old with ⟨kept, inKept, rfl⟩
    rcases List.mem_map.mp isNew with ⟨attachment, inNew, rfl⟩
    rcases List.mem_map.mp inNew with ⟨id, named, rfl⟩
    have different := (List.mem_filter.mp inKept).2
    simp [(Prod.mk.inj equal).1] at different

namespace Workspace

/-! ## Changing one table -/

section

variable {workspace : Workspace} {supply : Supply}

theorem Orderly.withRoles (orderly : workspace.Orderly)
    (leads : workspace.supply.LeadsTo supply) {roles : List Role}
    (distinct : (roles.map (·.id)).Nodup) (covered : ∀ role ∈ roles, supply.Covers role.id) :
    Orderly ⟨{ workspace.tables with roles }, supply⟩ where
  distinct := { orderly.distinct with roles := distinct }
  numbered := { orderly.numbered.mono leads with roles := covered }

theorem Orderly.withPermissions (orderly : workspace.Orderly)
    (leads : workspace.supply.LeadsTo supply) {permissions : List Permission}
    (distinct : (permissions.map (·.id)).Nodup)
    (covered : ∀ permission ∈ permissions, supply.Covers permission.id) :
    Orderly ⟨{ workspace.tables with permissions }, supply⟩ where
  distinct := { orderly.distinct with permissions := distinct }
  numbered := { orderly.numbered.mono leads with permissions := covered }

theorem Orderly.withGrants (orderly : workspace.Orderly)
    (leads : workspace.supply.LeadsTo supply) {grants : List Grant}
    (distinct : (grants.map (·.id)).Nodup)
    (covered : ∀ grant ∈ grants, supply.Covers grant.id) :
    Orderly ⟨{ workspace.tables with grants }, supply⟩ where
  distinct := { orderly.distinct with grants := distinct }
  numbered := { orderly.numbered.mono leads with grants := covered }

theorem Orderly.addRole (orderly : workspace.Orderly)
    (leads : workspace.supply.LeadsTo supply) {role : Role}
    (isNew : ¬ workspace.supply.Covers role.id) (covered : supply.Covers role.id) :
    Orderly ⟨{ workspace.tables with roles := workspace.tables.roles ++ [role] }, supply⟩ :=
  orderly.withRoles leads
    (nodup_append_new orderly.distinct.roles orderly.numbered.roles isNew)
    (covers_append_new orderly.numbered.roles leads covered)

theorem Orderly.addPermission (orderly : workspace.Orderly)
    (leads : workspace.supply.LeadsTo supply) {permission : Permission}
    (isNew : ¬ workspace.supply.Covers permission.id) (covered : supply.Covers permission.id) :
    Orderly ⟨{ workspace.tables with
      permissions := workspace.tables.permissions ++ [permission] }, supply⟩ :=
  orderly.withPermissions leads
    (nodup_append_new orderly.distinct.permissions orderly.numbered.permissions isNew)
    (covers_append_new orderly.numbered.permissions leads covered)

theorem Orderly.changeRole (orderly : workspace.Orderly)
    (leads : workspace.supply.LeadsTo supply) {before after : List Role} {present changed : Role}
    (whole : workspace.tables.roles = before ++ present :: after)
    (sameId : changed.id = present.id) :
    Orderly ⟨{ workspace.tables with roles := before ++ changed :: after }, supply⟩ := by
  have distinct := orderly.distinct.roles
  have covered := (orderly.numbered.mono leads).roles
  rw [whole] at distinct covered
  apply orderly.withRoles leads
  · simpa [sameId] using distinct
  · intro role member
    rcases mem_middle_iff.mp member with rfl | isOther
    · rw [sameId]
      exact covered present (by simp)
    · exact covered role (mem_middle_iff.mpr (Or.inr isOther))

theorem Orderly.changeGrants (orderly : workspace.Orderly)
    (leads : workspace.supply.LeadsTo supply) {change : Grant → Grant}
    (sameId : ∀ grant, (change grant).id = grant.id) :
    Orderly ⟨{ workspace.tables with grants := workspace.tables.grants.map change }, supply⟩ := by
  have sameIds : (workspace.tables.grants.map change).map (·.id) =
      workspace.tables.grants.map (·.id) := by
    simp [Function.comp_def, sameId]
  apply orderly.withGrants leads
  · rw [sameIds]
    exact orderly.distinct.grants
  · intro grant member
    rcases List.mem_map.mp member with ⟨present, inGrants, rfl⟩
    rw [sameId]
    exact (orderly.numbered.mono leads).grants present inGrants

theorem Orderly.issueGrants (orderly : workspace.Orderly) {issued : List (Instant → Grant)}
    (lasts : workspace.supply.Lasts issued.length) :
    Orderly ⟨{ workspace.tables with
        grants := workspace.tables.grants ++ (workspace.supply.issue issued).1 },
      (workspace.supply.issue issued).2⟩ := by
  have leads := workspace.supply.leadsTo_issue lasts
  rcases workspace.supply.issue_numbers lasts with ⟨distinctIssued, numbers⟩
  apply orderly.withGrants leads
  · rw [List.map_append]
    refine List.nodup_append.mpr ⟨orderly.distinct.grants, distinctIssued, ?_⟩
    intro _ old _ new same
    rcases List.mem_map.mp old with ⟨grant, inGrants, rfl⟩
    rcases List.mem_map.mp new with ⟨row, inIssued, rfl⟩
    exact (numbers row inIssued).1 (same ▸ orderly.numbered.grants grant inGrants)
  · intro grant member
    rcases List.mem_append.mp member with inGrants | inIssued
    · exact (orderly.numbered.grants grant inGrants).mono leads
    · exact (numbers grant inIssued).2

theorem Orderly.replaceAttachments (orderly : workspace.Orderly) (roleId : Int)
    (permissionIds : List Int) :
    Orderly ⟨{ workspace.tables with
        attachments := workspace.tables.attachments.filter (·.roleId ≠ roleId) ++
          permissionIds.eraseDups.map fun id => ⟨roleId, id⟩ }, workspace.supply⟩ where
  numbered := ⟨orderly.numbered.roles, orderly.numbered.permissions, orderly.numbered.grants⟩
  distinct := { orderly.distinct with
    attachments := nodup_replaceAttachments orderly.distinct.attachments roleId permissionIds }

end

theorem revoke_id (userId : Int) (now : Instant) (grant : Grant) :
    (revoke userId now grant).id = grant.id := by
  rw [revoke]
  split <;> rfl

/-! ## Calls -/

end Workspace
end Store

def Call.demand {α : Type} : Call α → Nat
  | createRole _ | createPermission _ => 1
  | assignRoles _ ids | grantPermissions _ ids => ids.length
  | _ => 0

namespace Store.Workspace

/-- A call keeps a working copy in order and leads the counter on, as long as the counter
lasts for it. -/
theorem Change.orderly {α : Type} {workspace later : Workspace} {call : Call α}
    (change : Change workspace call later) (lasts : workspace.supply.Lasts call.demand)
    (orderly : workspace.Orderly) :
    later.Orderly ∧ workspace.supply.LeadsTo later.supply := by
  cases change with
  | none => exact ⟨orderly, Supply.LeadsTo.refl _⟩
  | createRole role free =>
      have leads := Supply.leadsTo_takeId lasts
      refine ⟨orderly.addRole leads ?_ ?_, leads⟩
      · exact Supply.not_covers_takeId lasts
      · exact Supply.covers_takeId workspace.supply
  | updateRole role uuid before present after free whole named live =>
      have leads : workspace.supply.LeadsTo workspace.supply.readClock.2 := Supply.LeadsTo.refl _
      exact ⟨orderly.changeRole leads whole rfl, leads⟩
  | deleteRole uuid deletedBy before present after whole named optional live =>
      have leads : workspace.supply.LeadsTo workspace.supply.readClock.2 := Supply.LeadsTo.refl _
      exact ⟨orderly.changeRole leads whole rfl, leads⟩
  | replacePermissions roleId permissionIds =>
      exact ⟨orderly.replaceAttachments roleId permissionIds, Supply.LeadsTo.refl _⟩
  | createPermission permission free =>
      have leads := Supply.leadsTo_takeId lasts
      refine ⟨orderly.addPermission leads ?_ ?_, leads⟩
      · exact Supply.not_covers_takeId lasts
      · exact Supply.covers_takeId workspace.supply
  | assignRoles userId roleIds =>
      have leads : workspace.supply.LeadsTo workspace.supply.readClock.2 := Supply.LeadsTo.refl _
      -- Revoking takes no numbers, so all that the counter lasts for is left for the new grants.
      have revoked := orderly.changeGrants leads (revoke_id userId workspace.supply.readClock.1)
      have enough : workspace.supply.readClock.2.Lasts
          (roleIds.eraseDups.map (Grant.ofRole userId)).length := by
        apply Supply.Lasts.mono lasts
        rw [List.length_map]
        exact length_eraseDups_le roleIds
      exact ⟨revoked.issueGrants enough, leads.trans (Supply.leadsTo_issue enough)⟩
  | grantPermissions userId permissionIds chosen sub =>
      have enough : workspace.supply.Lasts
          (chosen.map (Grant.ofPermission userId)).length := by
        apply Supply.Lasts.mono lasts
        rw [List.length_map]
        exact sub.length_le
      exact ⟨orderly.issueGrants enough, Supply.leadsTo_issue enough⟩

end Store.Workspace

/-! ## Runs -/

namespace World

def Orderly (world : World) : Prop :=
  ∀ tables ∈ world.copies, Workspace.Orderly ⟨tables, world.surroundings.supply⟩

/-- The counter lasts for an event, and a number chosen elsewhere is larger than all that
were given out or kept before. -/
def Numbers (world : World) : Event → Prop
  | .call _ call => world.surroundings.supply.Lasts call.demand
  | .insertRole role => world.surroundings.supply.Admits role.id
  | .insertPermission permission => world.surroundings.supply.Admits permission.id
  | _ => True

instance (world : World) : (event : Event) → Decidable (world.Numbers event)
  | .call _ call => inferInstanceAs (Decidable (world.surroundings.supply.Lasts call.demand))
  | .insertRole role => inferInstanceAs (Decidable (world.surroundings.supply.Admits role.id))
  | .insertPermission permission =>
      inferInstanceAs (Decidable (world.surroundings.supply.Admits permission.id))
  | .begin _ | .commit _ | .rollback _ | .around _ => .isTrue True.intro

end World

theorem Store.Workspace.Orderly.mono {tables : Tables} {supply later : Supply}
    (orderly : Workspace.Orderly ⟨tables, supply⟩) (leads : supply.LeadsTo later) :
    Workspace.Orderly ⟨tables, later⟩ where
  distinct := orderly.distinct
  numbered := orderly.numbered.mono leads

namespace World

theorem Orderly.setPhase {world : World} (orderly : world.Orderly) {unitName : String}
    {phase : Phase} (kept : ∀ tables ∈ phase.copies, tables ∈ world.copies) :
    (world.setPhase unitName phase).Orderly := by
  intro tables member
  rcases mem_copies_setPhase member with inPhase | inWorld
  · exact orderly tables (kept tables inPhase)
  · exact orderly tables inWorld

theorem Orderly.withCommitted {world : World} (orderly : world.Orderly) {committed : Tables}
    {surroundings : Surroundings}
    (committedOrderly : Workspace.Orderly ⟨committed, surroundings.supply⟩)
    (leads : world.surroundings.supply.LeadsTo surroundings.supply) :
    Orderly ⟨committed, world.units, surroundings⟩ := by
  intro tables member
  rcases List.mem_cons.mp member with rfl | inUnits
  · exact committedOrderly
  · exact (orderly tables (List.mem_cons_of_mem _ inUnits)).mono leads

theorem Transition.orderly {world later : World} {event : Event}
    (transition : Transition world event later) (numbers : world.Numbers event)
    (orderly : world.Orderly) : later.Orderly := by
  cases transition with
  | none => exact orderly
  | refuse unitName call => exact orderly.setPhase fun _ kept => mem_copies_of_phaseOf kept
  | begin unitName idle =>
      apply orderly.setPhase
      intro tables kept
      have same : tables = world.committed := by simpa [Phase.copies] using kept
      rw [same]
      exact committed_mem_copies world
  | call unitName call draft active workspace performed passes =>
      have change := Workspace.perform_change call ⟨draft.work, world.surroundings.supply⟩
      rw [← performed] at change
      rcases change.orderly numbers (orderly draft.work (work_mem_copies active)) with
        ⟨inOrder, leads⟩
      intro tables member
      have member : tables ∈ (world.setPhase unitName
          (.active { draft with work := workspace.tables })).copies := member
      rcases mem_copies_setPhase member with inPhase | inWorld
      · rcases List.mem_cons.mp inPhase with rfl | inPhase
        · exact (orderly _ (base_mem_copies active)).mono leads
        · rw [List.mem_singleton.mp inPhase]
          exact inOrder
      · exact (orderly tables inWorld).mono leads
  | commit unitName draft active unrepeated =>
      have ended : (world.setPhase unitName .finalized).Orderly :=
        orderly.setPhase fun _ kept => by cases kept
      have committedOrderly := orderly _ (committed_mem_copies world)
      have workOrderly := orderly _ (work_mem_copies active)
      refine ended.withCommitted ⟨?_, ?_⟩ (Supply.LeadsTo.refl _)
      · exact committedOrderly.distinct.merge draft.base draft.work
      · exact committedOrderly.numbered.merge workOrderly.numbered draft.base
  | discard unitName event ending draft active =>
      exact orderly.setPhase fun _ kept => by cases kept
  | insertRole role =>
      rcases Supply.numberFor_spec numbers with ⟨leads, isNew, covered⟩
      exact orderly.withCommitted
        ((orderly _ (committed_mem_copies world)).addRole leads isNew covered) leads
  | insertPermission permission =>
      rcases Supply.numberFor_spec numbers with ⟨leads, isNew, covered⟩
      exact orderly.withCommitted
        ((orderly _ (committed_mem_copies world)).addPermission leads isNew covered) leads
  | around happening =>
      intro tables member
      apply (orderly tables member).mono
      have sameId := world.surroundings.lastId_after happening
      exact Int.le_of_eq (congrArg Supply.ordinal sameId.symm)

theorem Reachable.orderly {world : World} (reachable : Reachable Numbers world) :
    world.Orderly := by
  induction reachable with
  | start surroundings unused =>
      intro tables member
      rw [List.mem_singleton.mp member]
      exact ⟨Tables.keysDistinct_empty, Tables.numbered_empty _⟩
  | step event reachable numbers induction =>
      exact (step_transition _ event).orderly numbers induction

theorem reachable_overlapped : Reachable Numbers overlapped :=
  Reachable.run (Reachable.run (.start fresh.surroundings rfl) (by decide)) (by decide)

end World
end Entitlement
