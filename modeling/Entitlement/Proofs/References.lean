import Entitlement.Proofs.Histories

/-! # References

Attachments and grants refer to roles and permissions by their numbers. No call looks whether
there is a row with a number that it is given; but if every call is given only numbers of rows
in the working copy, then in no copy of the tables does a row ever refer to nothing. This is
because no row ever disappears, and a commit publishes what its unit refers to together with
the references. -/

namespace Entitlement

open Store

/-! ## What refers to what -/

abbrev Reference := Kind × Int

def Attachment.references (attachment : Attachment) : List Reference :=
  [(.role, attachment.roleId), (.permission, attachment.permissionId)]

def Grant.references (grant : Grant) : List Reference :=
  grant.roleId.toList.map (.role, ·) ++ grant.permissionId.toList.map (.permission, ·)

def Call.references {α : Type} : Call α → List Reference
  | replacePermissions roleId ids => (.role, roleId) :: ids.map (.permission, ·)
  | assignRoles _ ids => ids.map (.role, ·)
  | grantPermissions _ ids => ids.map (.permission, ·)
  | _ => []

namespace Store.Tables

def references (tables : Tables) : List Reference :=
  tables.attachments.flatMap (·.references) ++ tables.grants.flatMap (·.references)

def Has (tables : Tables) (reference : Reference) : Prop :=
  reference.2 ∈ tables.ids reference.1

def Intact (tables : Tables) : Prop :=
  ∀ reference ∈ tables.references, tables.Has reference

instance (tables : Tables) (reference : Reference) : Decidable (tables.Has reference) :=
  inferInstanceAs (Decidable (_ ∈ _))

instance (tables : Tables) : Decidable tables.Intact :=
  inferInstanceAs (Decidable (∀ reference ∈ tables.references, tables.Has reference))

theorem mem_references_iff (tables : Tables) (reference : Reference) :
    reference ∈ tables.references ↔
      (∃ attachment ∈ tables.attachments, reference ∈ attachment.references) ∨
        ∃ grant ∈ tables.grants, reference ∈ grant.references := by
  simp [references]

theorem intact_empty : empty.Intact := by
  decide

theorem Has.mono {earlier later : Tables} {reference : Reference} (has : earlier.Has reference)
    (grows : ∀ kind, ∀ id ∈ earlier.ids kind, id ∈ later.ids kind) : later.Has reference :=
  grows reference.1 reference.2 has

/-! ## Calls -/

end Store.Tables

theorem Grant.references_revoke (userId : Int) (now : Instant) (grant : Grant) :
    (Workspace.revoke userId now grant).references = grant.references := by
  rw [Workspace.revoke]
  split <;> rfl

namespace Store.Workspace

theorem Change.references {α : Type} {workspace later : Workspace} {call : Call α}
    (change : Change workspace call later) :
    ∀ reference ∈ later.tables.references,
      reference ∈ workspace.tables.references ∨ reference ∈ call.references := by
  intro reference member
  rw [Tables.mem_references_iff] at member ⊢
  cases change with
  | none | createRole | updateRole | deleteRole | createPermission => exact Or.inl member
  | replacePermissions roleId permissionIds =>
      rcases member with ⟨attachment, inTable, isNamed⟩ | fromGrant
      · rcases List.mem_append.mp inTable with kept | isNew
        · exact Or.inl (Or.inl ⟨attachment, (List.mem_filter.mp kept).1, isNamed⟩)
        · rcases List.mem_map.mp isNew with ⟨id, isGiven, rfl⟩
          have isAsked : id ∈ permissionIds := List.mem_eraseDups.mp isGiven
          simp only [Attachment.references, List.mem_pair] at isNamed
          right
          rcases isNamed with rfl | rfl
          · simp [Call.references]
          · simp [Call.references, isAsked]
      · exact Or.inl (Or.inr fromGrant)
  | assignRoles userId roleIds =>
      rcases member with fromAttachment | ⟨grant, inTable, isNamed⟩
      · exact Or.inl (Or.inl fromAttachment)
      · rcases List.mem_append.mp inTable with revoked | isNew
        · rcases List.mem_map.mp revoked with ⟨present, isPresent, rfl⟩
          rw [Grant.references_revoke] at isNamed
          exact Or.inl (Or.inr ⟨present, isPresent, isNamed⟩)
        · rcases Supply.exists_of_mem_issue isNew with ⟨roleId, isGiven, now, id, rfl⟩
          have isAsked : roleId ∈ roleIds := List.mem_eraseDups.mp isGiven
          right
          simp only [Grant.references, Grant.ofRole, Option.toList, List.map_cons, List.map_nil,
            List.append_nil, List.mem_singleton] at isNamed
          simp [Call.references, isNamed, isAsked]
  | grantPermissions userId permissionIds chosen sub =>
      rcases member with fromAttachment | ⟨grant, inTable, isNamed⟩
      · exact Or.inl (Or.inl fromAttachment)
      · rcases List.mem_append.mp inTable with old | isNew
        · exact Or.inl (Or.inr ⟨grant, old, isNamed⟩)
        · rcases Supply.exists_of_mem_issue isNew with ⟨permissionId, isChosen, now, id, rfl⟩
          right
          simp only [Grant.references, Grant.ofPermission, Option.toList, List.map_cons,
            List.map_nil, List.nil_append, List.mem_singleton] at isNamed
          simp [Call.references, isNamed, sub.subset isChosen]

theorem Change.intact {α : Type} {workspace later : Workspace} {call : Call α}
    (change : Change workspace call later) (intact : workspace.tables.Intact)
    (resolved : ∀ reference ∈ call.references, workspace.tables.Has reference) :
    later.tables.Intact := by
  rcases change.growth with ⟨added, growth, -⟩
  intro reference member
  have had : workspace.tables.Has reference :=
    (change.references reference member).elim (intact reference) (resolved reference)
  apply had.mono
  intro kind id isKnown
  rw [growth.ids]
  exact List.mem_append_left _ isKnown

end Store.Workspace

/-! ## Merging -/

namespace Store.Tables

variable {committed base work : Tables}

theorem mem_references_merge {reference : Reference}
    (member : reference ∈ (committed.merge base work).references) :
    reference ∈ committed.references ∨ reference ∈ work.references := by
  simp only [mem_references_iff] at member ⊢
  rcases member with ⟨attachment, inTable, isNamed⟩ | ⟨grant, inTable, isNamed⟩
  · rcases mem_of_mem_mergeRows inTable with isCommitted | changed
    · exact Or.inl (Or.inl ⟨attachment, isCommitted, isNamed⟩)
    · exact Or.inr (Or.inl ⟨attachment, changed.1, isNamed⟩)
  · rcases mem_of_mem_mergeRows inTable with isCommitted | changed
    · exact Or.inl (Or.inr ⟨grant, isCommitted, isNamed⟩)
    · exact Or.inr (Or.inr ⟨grant, changed.1, isNamed⟩)

theorem mem_map_mergeRows_of_new {α κ : Type} [DecidableEq α] [DecidableEq κ] {key : α → κ}
    {committed base work : List α} (distinct : (committed.map key).Nodup)
    (distinctWork : (work.map key).Nodup) {wanted : κ} (member : wanted ∈ work.map key)
    (isNew : wanted ∉ base.map key) : wanted ∈ (mergeRows key committed base work).map key := by
  rcases List.mem_map.mp member with ⟨row, inWork, rfl⟩
  apply List.mem_map_of_mem
  rw [mem_mergeRows_iff distinct distinctWork]
  exact Or.inl ⟨inWork, fun inBase => isNew (List.mem_map_of_mem inBase)⟩

theorem mem_ids_merge_of_new {kind : Kind} {id : Int} (distinct : committed.IdsDistinct)
    (distinctWork : work.IdsDistinct) (member : id ∈ work.ids kind) (isNew : id ∉ base.ids kind) :
    id ∈ (committed.merge base work).ids kind := by
  cases kind with
  | role => exact mem_map_mergeRows_of_new distinct.roles distinctWork.roles member isNew
  | permission =>
      exact mem_map_mergeRows_of_new distinct.permissions distinctWork.permissions member isNew
  | grant => exact mem_map_mergeRows_of_new distinct.grants distinctWork.grants member isNew

theorem Intact.merge (intact : committed.Intact) (intactWork : work.Intact)
    (distinct : committed.IdsDistinct) (distinctWork : work.IdsDistinct)
    (precedes : base.Precedes committed)
    (precedesMerged : committed.Precedes (committed.merge base work)) :
    (committed.merge base work).Intact := by
  intro reference member
  rcases mem_references_merge member with fromCommitted | fromWork
  · exact (intact reference fromCommitted).mono precedesMerged.ids
  · by_cases inBase : reference.2 ∈ base.ids reference.1
    · exact precedesMerged.ids _ _ (precedes.ids _ _ inBase)
    · exact mem_ids_merge_of_new distinct distinctWork (intactWork reference fromWork) inBase

end Store.Tables

/-! ## Runs -/

namespace World

def Resolves (world : World) : Event → Prop
  | .call unitName call => ∀ draft, world.phaseOf unitName = .active draft →
      ∀ reference ∈ call.references, draft.work.Has reference
  | _ => True

/-- Rows are given numbers with care, and only those are referred to that are there. -/
def Grounded (world : World) (event : Event) : Prop :=
  world.Numbers event ∧ world.Resolves event

theorem CopyAfter.intact {world : World} {event : Event} {tables : Tables}
    (copy : CopyAfter world event tables) (resolves : world.Resolves event)
    (reachable : Reachable Numbers world) (intact : ∀ copy ∈ world.copies, copy.Intact) :
    tables.Intact := by
  have committedIntact := intact _ (committed_mem_copies world)
  cases copy with
  | old _ member => exact intact tables member
  | worked unitName call draft active workspace performed =>
      have change := Workspace.perform_change call ⟨draft.work, world.surroundings.supply⟩
      rw [← performed] at change
      exact change.intact (intact _ (work_mem_copies active)) (resolves draft active)
  | merged unitName draft active unrepeated =>
      rcases reachable.dated unitName draft active with ⟨develops, precedes⟩
      have distinct := (reachable.orderly _ (committed_mem_copies world)).distinct.toIdsDistinct
      have distinctWork := (reachable.orderly _ (work_mem_copies active)).distinct.toIdsDistinct
      exact committedIntact.merge (intact _ (work_mem_copies active)) distinct distinctWork
        precedes (develops.merge precedes distinct distinctWork (reachable.separate.known active))
  | withRole role =>
      intro reference member
      apply (committedIntact reference member).mono
      intro kind id isKnown
      cases kind with
      | role => simpa [Tables.ids, insertRole] using Or.inl (by simpa [Tables.ids] using isKnown)
      | permission | grant => exact isKnown
  | withPermission permission =>
      intro reference member
      apply (committedIntact reference member).mono
      intro kind id isKnown
      cases kind with
      | permission =>
          simpa [Tables.ids, insertPermission] using Or.inl (by simpa [Tables.ids] using isKnown)
      | role | grant => exact isKnown

theorem Reachable.of_grounded {world : World} (reachable : Reachable Grounded world) :
    Reachable Numbers world := by
  induction reachable with
  | start surroundings unused => exact .start surroundings unused
  | step event _ grounded induction => exact induction.step event grounded.1

theorem Reachable.intact {world : World} (reachable : Reachable Grounded world) :
    ∀ tables ∈ world.copies, tables.Intact := by
  induction reachable with
  | start surroundings unused =>
      intro tables member
      rw [List.mem_singleton.mp member]
      exact Tables.intact_empty
  | step event reachable grounded induction =>
      intro tables member
      exact ((step_transition _ event).copyAfter member).intact grounded.2
        reachable.of_grounded induction

end World
end Entitlement
