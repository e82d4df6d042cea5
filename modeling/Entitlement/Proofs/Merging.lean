import Entitlement.Proofs.Integrity

/-! # What a commit makes of the tables

A unit that ends brings the changes from its beginning to its working copy into the
committed tables. Key by key, that is a merge of three copies: what the unit changed is as
in the working copy, and all else is as it was committed before. -/

namespace Entitlement

open Store

namespace Store

/-! ## One table -/

structure MergesRows {α κ : Type} (key : α → κ) (base work before after : List α) : Prop where
  changed : ∀ row ∈ work, row ∉ base → row ∈ after
  dropped : ∀ wanted ∈ base.map key, wanted ∉ work.map key → wanted ∉ after.map key
  kept : ∀ wanted, (∀ row ∈ work, key row = wanted → row ∈ base) →
    (wanted ∈ base.map key → wanted ∈ work.map key) →
    ∀ row, key row = wanted → (row ∈ after ↔ row ∈ before)
  distinct : (after.map key).Nodup

theorem mergesRows_mergeRows {α κ : Type} [DecidableEq α] [DecidableEq κ] {key : α → κ}
    {committed work : List α} (base : List α) (distinct : (committed.map key).Nodup)
    (distinctWork : (work.map key).Nodup) :
    MergesRows key base work committed (mergeRows key committed base work) where
  changed := by
    intro row inWork notInBase
    exact (mem_mergeRows_iff distinct distinctWork).mpr (Or.inl ⟨inWork, notInBase⟩)
  dropped := by
    intro wanted inBase notInWork member
    rcases List.mem_map.mp member with ⟨row, inMerged, rfl⟩
    rcases (mem_mergeRows_iff distinct distinctWork).mp inMerged with changed | kept
    · exact notInWork (List.mem_map_of_mem changed.1)
    · exact notInWork (kept.2.1 inBase)
  kept := by
    intro wanted unchanged undropped row equal
    subst equal
    rw [mem_mergeRows_iff distinct distinctWork]
    constructor
    · intro isMerged
      rcases isMerged with changed | kept
      · exact absurd (unchanged row changed.1 rfl) changed.2
      · exact kept.1
    · intro isCommitted
      exact Or.inr ⟨isCommitted, undropped, unchanged⟩
  distinct := nodup_map_mergeRows key base work distinct

/-! ## All tables -/

structure Tables.Merges (base work before after : Tables) : Prop where
  roles : MergesRows (·.id) base.roles work.roles before.roles after.roles
  permissions : MergesRows (·.id) base.permissions work.permissions before.permissions
    after.permissions
  attachments : MergesRows (fun row => (row.roleId, row.permissionId)) base.attachments
    work.attachments before.attachments after.attachments
  grants : MergesRows (·.id) base.grants work.grants before.grants after.grants

theorem Tables.merges_merge {committed work : Tables} (base : Tables)
    (distinct : committed.KeysDistinct) (distinctWork : work.KeysDistinct) :
    Merges base work committed (committed.merge base work) where
  roles := mergesRows_mergeRows base.roles distinct.roles distinctWork.roles
  permissions := mergesRows_mergeRows base.permissions distinct.permissions
    distinctWork.permissions
  attachments := mergesRows_mergeRows base.attachments distinct.attachments
    distinctWork.attachments
  grants := mergesRows_mergeRows base.grants distinct.grants distinctWork.grants

end Store

/-! ## Commits -/

namespace World

/-- Whatever other units did and committed meanwhile, a commit that succeeds brings exactly
the changes of its unit since it began, from `draft.base` to `draft.work`, into the committed
tables. -/
theorem commit_merges {world : World} {unitName : String} {draft : Draft}
    (reachable : Reachable Numbers world) (active : world.phaseOf unitName = .active draft)
    (commits : ((commit unitName).outcome world).1 = .ok ()) :
    Tables.Merges draft.base draft.work world.committed
      (world.step (.commit unitName)).committed := by
  have committedOrderly := reachable.orderly _ (committed_mem_copies world)
  have workOrderly := reachable.orderly _ (work_mem_copies active)
  rw [step]
  rcases outcome_commit world unitName with
    fails | ⟨other, isActive, ⟨key, -, refuses⟩ | ⟨-, publishes⟩⟩
  · rw [fails] at commits
    cases commits
  · rw [refuses] at commits
    cases commits
  · rw [publishes]
    cases active.symm.trans isActive
    exact Tables.merges_merge draft.base committedOrderly.distinct workOrderly.distinct

theorem commit_merges_overlapped :
    ∃ draft, overlapped.phaseOf "first" = .active draft ∧
      ((commit "first").outcome overlapped).1 = .ok () ∧
      Tables.Merges draft.base draft.work overlapped.committed
        (overlapped.step (.commit "first")).committed := by
  have active : ∃ draft, overlapped.phaseOf "first" = .active draft := ⟨_, rfl⟩
  have commits : ((commit "first").outcome overlapped).1 = .ok () := by decide
  rcases active with ⟨draft, active⟩
  exact ⟨draft, active, commits, commit_merges reachable_overlapped active commits⟩

end World
end Entitlement
