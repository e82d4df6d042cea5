import Entitlement.Store.Tables
import Mathlib.Data.List.Nodup

/-! # Rows by key

A table whose keys are distinct holds at most one row under each key. Writing a row under
its key and merging three copies of a table keep the keys distinct, and what they leave in
the table can be said row by row. -/

namespace Entitlement.Store

variable {α κ : Type}

/-! ## One row among others -/

theorem mem_middle_iff {before after : List α} {present row : α} :
    row ∈ before ++ present :: after ↔ row = present ∨ row ∈ before ++ after :=
  List.perm_middle.mem_iff.trans List.mem_cons

theorem sublist_middle (before : List α) (present : α) (after : List α) :
    (before ++ after).Sublist (before ++ present :: after) :=
  (List.sublist_cons_self present after).append_left before

theorem key_ne_of_others {key : α → κ} {before after : List α} {present : α}
    (distinct : ((before ++ present :: after).map key).Nodup) :
    ∀ other ∈ before ++ after, key other ≠ key present := by
  intro other isOther same
  rw [List.map_append, List.map_cons] at distinct
  apply (List.nodup_cons.mp (List.nodup_middle.mp distinct)).1
  rw [← same, ← List.map_append]
  exact List.mem_map_of_mem isOther

/-! ## Looking up -/

theorem find?_key_eq_some_iff [DecidableEq κ] {key : α → κ} {rows : List α}
    (distinct : (rows.map key).Nodup) (wanted : κ) (eligible : α → Bool) (row : α) :
    rows.find? (fun present => key present = wanted && eligible present) = some row ↔
      row ∈ rows ∧ key row = wanted ∧ eligible row := by
  constructor
  · intro found
    have holds := List.find?_some found
    simp only [Bool.and_eq_true, decide_eq_true_eq] at holds
    exact ⟨List.mem_of_find?_eq_some found, holds⟩
  · intro given
    rcases given with ⟨member, equal, allowed⟩
    rcases found : rows.find? fun present => key present = wanted && eligible present with
      _ | other
    · have missing := List.find?_eq_none.mp found row member
      simp [equal, allowed] at missing
    · have holds := List.find?_some found
      simp only [Bool.and_eq_true, decide_eq_true_eq] at holds
      have same : other = row := List.inj_on_of_nodup_map distinct
        (List.mem_of_find?_eq_some found) member (holds.1.trans equal.symm)
      rw [same]

theorem bind_find?_key_eq_some_iff [DecidableEq κ] {key : α → κ} {rows : List α}
    (distinct : (rows.map key).Nodup) (wanted? : Option κ) (eligible : α → Bool) (row : α) :
    (wanted?.bind fun wanted =>
        rows.find? fun present => key present = wanted && eligible present) = some row ↔
      row ∈ rows ∧ eligible row ∧ wanted? = some (key row) := by
  simp only [Option.bind_eq_some_iff, find?_key_eq_some_iff distinct]
  constructor
  · intro given
    rcases given with ⟨wanted, asked, member, rfl, allowed⟩
    exact ⟨member, allowed, asked⟩
  · intro given
    rcases given with ⟨member, allowed, asked⟩
    exact ⟨key row, asked, member, rfl, allowed⟩

theorem hasKey_eq_true_iff [DecidableEq κ] (key : α → κ) (wanted : κ) (rows : List α) :
    hasKey key wanted rows = true ↔ wanted ∈ rows.map key := by
  simp [hasKey]

/-! ## Changing one row -/

theorem changeFirst?_eq_some_iff (wanted : α → Bool) (change : α → α) (rows : List α)
    (changed : α) (result : List α) :
    changeFirst? wanted change rows = some (changed, result) ↔
      ∃ before row after, rows = before ++ row :: after ∧
        (∀ earlier ∈ before, wanted earlier = false) ∧ wanted row = true ∧
        changed = change row ∧ result = before ++ change row :: after := by
  induction rows generalizing changed result with
  | nil => simp [changeFirst?]
  | cons head tail induction =>
      cases first : wanted head with
      | true =>
          simp only [changeFirst?, first, if_true, Option.some.injEq, Prod.mk.injEq]
          constructor
          · intro given
            rcases given with ⟨rfl, rfl⟩
            exact ⟨[], head, tail, rfl, by simp, first, rfl, rfl⟩
          · intro given
            rcases given with ⟨before, row, after, split, skipped, -, rfl, rfl⟩
            cases before with
            | nil =>
                cases split
                exact ⟨rfl, rfl⟩
            | cons earlier before =>
                cases split
                have notFirst := skipped head (by simp)
                rw [first] at notFirst
                cases notFirst
      | false =>
          simp only [changeFirst?, first, Bool.false_eq_true, if_false, Option.map_eq_some_iff]
          constructor
          · intro given
            rcases given with ⟨⟨later, rest⟩, found, equal⟩
            cases equal
            rcases (induction later rest).mp found with
              ⟨before, row, after, rfl, skipped, holds, rfl, rfl⟩
            refine ⟨head :: before, row, after, rfl, ?_, holds, rfl, rfl⟩
            intro earlier member
            rcases List.mem_cons.mp member with rfl | member
            · exact first
            · exact skipped earlier member
          · intro given
            rcases given with ⟨before, row, after, split, skipped, holds, rfl, rfl⟩
            cases before with
            | nil =>
                cases split
                rw [first] at holds
                cases holds
            | cons earlier before =>
                cases split
                refine ⟨⟨change row, before ++ change row :: after⟩, ?_, rfl⟩
                exact (induction _ _).mpr ⟨before, row, after, rfl,
                  fun other member => skipped other (List.mem_cons_of_mem _ member),
                  holds, rfl, rfl⟩

theorem changeFirst?_of_find? {wanted : α → Bool} (change : α → α) {rows : List α} {row : α}
    (found : rows.find? wanted = some row) :
    ∃ before after, rows = before ++ row :: after ∧
      changeFirst? wanted change rows = some (change row, before ++ change row :: after) := by
  rcases List.find?_eq_some_iff_append.mp found with ⟨isWanted, before, after, whole, skipped⟩
  refine ⟨before, after, whole, (changeFirst?_eq_some_iff wanted change rows _ _).mpr ?_⟩
  exact ⟨before, row, after, whole, fun earlier member => by simpa using skipped earlier member,
    isWanted, rfl, rfl⟩

theorem changeFirst?_of_find?_eq_none {wanted : α → Bool} (change : α → α) {rows : List α}
    (missing : rows.find? wanted = none) : changeFirst? wanted change rows = none := by
  by_contra changes
  rcases Option.ne_none_iff_exists'.mp changes with ⟨⟨changed, result⟩, changes⟩
  rcases (changeFirst?_eq_some_iff wanted change rows _ _).mp changes with
    ⟨before, row, after, rfl, -, isWanted, -⟩
  exact List.find?_eq_none.mp missing row (mem_middle_iff.mpr (Or.inl rfl)) isWanted

/-! ## Writing a row under its key -/

section Upsert

variable [DecidableEq κ]

theorem mem_of_mem_upsert {key : α → κ} {row other : α} {rows : List α}
    (member : other ∈ upsert key row rows) : other = row ∨ other ∈ rows := by
  induction rows with
  | nil => exact Or.inl (List.mem_singleton.mp member)
  | cons present rows induction =>
      rw [upsert] at member
      split at member
      · rcases List.mem_cons.mp member with equal | member
        · exact Or.inl equal
        · exact Or.inr (List.mem_cons_of_mem present member)
      · rcases List.mem_cons.mp member with rfl | member
        · exact Or.inr List.mem_cons_self
        · exact (induction member).imp_right (List.mem_cons_of_mem present)

/-- The keys after a write: those from before, and the key of the row at their end if it
is new. -/
theorem map_key_upsert (key : α → κ) (row : α) (rows : List α) :
    (upsert key row rows).map key =
      if key row ∈ rows.map key then rows.map key else rows.map key ++ [key row] := by
  induction rows with
  | nil => simp [upsert]
  | cons present rows induction =>
      rw [upsert]
      by_cases equal : key present = key row
      · simp [equal]
      · rw [if_neg equal, List.map_cons, induction]
        have different : key row ≠ key present := fun same => equal same.symm
        by_cases known : key row ∈ rows.map key
        · rw [if_pos known, if_pos (by simpa [different] using known)]
          rfl
        · rw [if_neg known, if_neg (by simpa [different] using known)]
          rfl

theorem nodup_map_upsert (key : α → κ) (row : α) {rows : List α}
    (distinct : (rows.map key).Nodup) : ((upsert key row rows).map key).Nodup := by
  rw [map_key_upsert]
  split
  · exact distinct
  · rename_i unknown
    rw [List.nodup_append_comm]
    exact List.nodup_cons.mpr ⟨unknown, distinct⟩

/-- With distinct keys, a write replaces what was under the key of the row and leaves all
else alone. -/
theorem mem_upsert_iff {key : α → κ} {row other : α} {rows : List α}
    (distinct : (rows.map key).Nodup) :
    other ∈ upsert key row rows ↔ other = row ∨ other ∈ rows ∧ key other ≠ key row := by
  induction rows with
  | nil => simp [upsert]
  | cons present rows induction =>
      have parts := List.nodup_cons.mp distinct
      rw [upsert]
      by_cases equal : key present = key row
      · rw [if_pos equal, List.mem_cons, List.mem_cons]
        constructor
        · intro given
          rcases given with same | member
          · exact Or.inl same
          · refine Or.inr ⟨Or.inr member, fun same => parts.1 ?_⟩
            exact (same.trans equal.symm) ▸ List.mem_map_of_mem member
        · intro given
          rcases given with same | ⟨rfl | member, different⟩
          · exact Or.inl same
          · exact absurd equal different
          · exact Or.inr member
      · rw [if_neg equal, List.mem_cons, List.mem_cons, induction parts.2]
        constructor
        · intro given
          rcases given with rfl | same | ⟨member, different⟩
          · exact Or.inr ⟨Or.inl rfl, equal⟩
          · exact Or.inl same
          · exact Or.inr ⟨Or.inr member, different⟩
        · intro given
          rcases given with same | ⟨rfl | member, different⟩
          · exact Or.inr (Or.inl same)
          · exact Or.inl rfl
          · exact Or.inr (Or.inr ⟨member, different⟩)

/-! ## Writing many rows -/

theorem nodup_map_upsertAll (key : α → κ) (written : List α) {rows : List α}
    (distinct : (rows.map key).Nodup) :
    ((written.foldl (fun rows row => upsert key row rows) rows).map key).Nodup := by
  induction written generalizing rows with
  | nil => exact distinct
  | cons row written induction => exact induction (nodup_map_upsert key row distinct)

theorem mem_of_mem_upsertAll {key : α → κ} {written rows : List α} {other : α}
    (member : other ∈ written.foldl (fun rows row => upsert key row rows) rows) :
    other ∈ written ∨ other ∈ rows := by
  induction written generalizing rows with
  | nil => exact Or.inr member
  | cons row written induction =>
      rcases induction member with inWritten | inRows
      · exact Or.inl (List.mem_cons_of_mem row inWritten)
      · rcases mem_of_mem_upsert inRows with rfl | inRows
        · exact Or.inl List.mem_cons_self
        · exact Or.inr inRows

/-- With distinct keys on both sides, the written rows are there afterwards, and of the
rows from before exactly those whose keys were not written. -/
theorem mem_upsertAll_iff {key : α → κ} {written rows : List α} {other : α}
    (distinctWritten : (written.map key).Nodup) (distinct : (rows.map key).Nodup) :
    other ∈ written.foldl (fun rows row => upsert key row rows) rows ↔
      other ∈ written ∨ other ∈ rows ∧ key other ∉ written.map key := by
  induction written generalizing rows with
  | nil => simp
  | cons row written induction =>
      have parts := List.nodup_cons.mp distinctWritten
      rw [List.foldl_cons, induction parts.2 (nodup_map_upsert key row distinct),
        mem_upsert_iff distinct, List.mem_cons, List.map_cons, List.mem_cons]
      constructor
      · intro given
        rcases given with inWritten | ⟨rfl | ⟨inRows, different⟩, unwritten⟩
        · exact Or.inl (Or.inr inWritten)
        · exact Or.inl (Or.inl rfl)
        · exact Or.inr ⟨inRows, fun known => known.elim different unwritten⟩
      · intro given
        rcases given with (rfl | inWritten) | ⟨inRows, unwritten⟩
        · exact Or.inr ⟨Or.inl rfl, parts.1⟩
        · exact Or.inl inWritten
        · exact Or.inr ⟨Or.inr ⟨inRows, fun same => unwritten (Or.inl same)⟩,
            fun known => unwritten (Or.inr known)⟩

end Upsert

/-! ## Merging -/

section Merge

variable [DecidableEq α] [DecidableEq κ]

theorem mem_of_mem_mergeRows {key : α → κ} {committed base work : List α} {row : α}
    (member : row ∈ mergeRows key committed base work) :
    row ∈ committed ∨ row ∈ work ∧ row ∉ base := by
  rcases mem_of_mem_upsertAll member with changed | kept
  · have parts := List.mem_filter.mp changed
    exact Or.inr ⟨parts.1, by simpa using parts.2⟩
  · exact Or.inl (List.mem_filter.mp kept).1

theorem nodup_map_mergeRows (key : α → κ) {committed : List α} (base work : List α)
    (distinct : (committed.map key).Nodup) :
    ((mergeRows key committed base work).map key).Nodup :=
  nodup_map_upsertAll key _ (distinct.sublist (List.filter_sublist.map key))

/-- Merging keeps the changed rows of the working copy, and of the committed rows those
that the working copy neither dropped nor changed. -/
theorem mem_mergeRows_iff {key : α → κ} {committed base work : List α} {row : α}
    (distinct : (committed.map key).Nodup) (distinctWork : (work.map key).Nodup) :
    row ∈ mergeRows key committed base work ↔
      (row ∈ work ∧ row ∉ base) ∨
        row ∈ committed ∧ (key row ∈ base.map key → key row ∈ work.map key) ∧
          ∀ changed ∈ work, key changed = key row → changed ∈ base := by
  rw [mergeRows, mem_upsertAll_iff
    (distinctWork.sublist (List.filter_sublist.map key))
    (distinct.sublist (List.filter_sublist.map key))]
  have changedIff : ∀ other : α,
      other ∈ work.filter (fun row => !base.contains row) ↔ other ∈ work ∧ other ∉ base := by
    intro other
    simp [List.mem_filter]
  have keptIff : row ∈ committed.filter (fun row =>
        !(hasKey key (key row) base && !hasKey key (key row) work)) ↔
      row ∈ committed ∧ (key row ∈ base.map key → key row ∈ work.map key) := by
    rw [List.mem_filter, ← hasKey_eq_true_iff, ← hasKey_eq_true_iff]
    cases hasKey key (key row) base <;> cases hasKey key (key row) work <;> simp
  have unchangedIff : key row ∉ (work.filter fun row => !base.contains row).map key ↔
      ∀ changed ∈ work, key changed = key row → changed ∈ base := by
    simp only [List.mem_map, changedIff, not_exists, not_and]
    constructor
    · intro unchanged changed inWork equal
      by_contra missing
      exact unchanged changed ⟨inWork, missing⟩ equal
    · intro unchanged changed present equal
      exact present.2 (unchanged changed present.1 equal)
  rw [changedIff, keptIff, unchangedIff, and_assoc]

example : mergeRows (Prod.fst : Nat × Nat → Nat) [(1, 0), (2, 0), (4, 0)] [(1, 0), (2, 0)]
    [(2, 5), (3, 5)] = [(2, 5), (4, 0), (3, 5)] := by decide

end Merge

/-! ## Adding rows -/

section Adding

variable [DecidableEq κ] {key : α → κ}

theorem upsert_eq_append {row : α} {rows : List α} (isNew : key row ∉ rows.map key) :
    upsert key row rows = rows ++ [row] := by
  induction rows with
  | nil => rfl
  | cons present rows induction =>
      simp only [List.map_cons, List.mem_cons, not_or] at isNew
      rw [upsert, if_neg fun equal => isNew.1 equal.symm, induction isNew.2, List.cons_append]

theorem upsertAll_eq_append {written rows : List α}
    (distinct : ((rows ++ written).map key).Nodup) :
    written.foldl (fun rows row => upsert key row rows) rows = rows ++ written := by
  induction written generalizing rows with
  | nil => simp
  | cons row written induction =>
      have whole : rows ++ row :: written = rows ++ [row] ++ written := by simp
      rw [whole] at distinct ⊢
      have isNew : key row ∉ rows.map key := by
        rw [List.map_append, List.map_append] at distinct
        have here := (List.nodup_append.mp distinct).1
        intro member
        exact (List.nodup_append.mp here).2.2 _ member _ List.mem_cons_self rfl
      rw [List.foldl_cons, upsert_eq_append isNew]
      exact induction distinct

/-- A working copy that only has new rows brings them to the end of the committed table. -/
theorem mergeRows_eq_append [DecidableEq α] {committed base added : List α}
    (distinct : ((base ++ added).map key).Nodup)
    (distinctNew : ((committed ++ added).map key).Nodup) :
    mergeRows key committed base (base ++ added) = committed ++ added := by
  have kept : committed.filter (fun row =>
      !(hasKey key (key row) base && !hasKey key (key row) (base ++ added))) = committed := by
    rw [List.filter_eq_self]
    intro row _
    cases known : hasKey key (key row) base with
    | false => rfl
    | true =>
        rw [hasKey] at known
        simp [hasKey, known]
  have changed : (base ++ added).filter (fun row => !base.contains row) = added := by
    have noneOld : base.filter (fun row => !base.contains row) = [] := by simp
    have allNew : added.filter (fun row => !base.contains row) = added := by
      rw [List.filter_eq_self]
      intro row isNew
      rw [List.map_append] at distinct
      have apart := (List.nodup_append.mp distinct).2.2
      have notInBase : row ∉ base := fun inBase =>
        apart _ (List.mem_map_of_mem inBase) _ (List.mem_map_of_mem isNew) rfl
      simpa using notInBase
    rw [List.filter_append, noneOld, allNew, List.nil_append]
  rw [mergeRows, kept, changed]
  exact upsertAll_eq_append distinctNew

end Adding

/-! ## Names given more than once -/

theorem length_eraseDups_le [DecidableEq α] : ∀ names : List α,
    names.eraseDups.length ≤ names.length
  | [] => Nat.le_refl 0
  | name :: names => by
      rw [List.eraseDups_cons, List.length_cons, List.length_cons]
      have rest := length_eraseDups_le (names.filter fun other => !other == name)
      have shorter := List.length_filter_le (fun other => !other == name) names
      omega
termination_by names => names.length
decreasing_by
  exact Nat.lt_succ_of_le (List.length_filter_le _ _)

theorem nodup_eraseDups [DecidableEq α] : ∀ names : List α, names.eraseDups.Nodup
  | [] => List.nodup_nil
  | name :: names => by
      rw [List.eraseDups_cons]
      refine List.nodup_cons.mpr ⟨?_, nodup_eraseDups _⟩
      simp [List.mem_eraseDups]
termination_by names => names.length
decreasing_by
  exact Nat.lt_succ_of_le (List.length_filter_le _ _)

theorem eraseDups_of_nodup {α : Type} [DecidableEq α] {names : List α} (distinct : names.Nodup) :
    names.eraseDups = names := by
  induction names with
  | nil => rfl
  | cons name names induction =>
      rcases List.nodup_cons.mp distinct with ⟨notAgain, distinct⟩
      have others : names.filter (fun other => !other == name) = names := by
        rw [List.filter_eq_self]
        intro other member
        have different : other ≠ name := fun same => notAgain (same ▸ member)
        simpa using different
      rw [List.eraseDups_cons, others, induction distinct]

/-! ## All tables of a store -/

namespace Tables

structure IdsDistinct (tables : Tables) : Prop where
  roles : (tables.roles.map (·.id)).Nodup
  permissions : (tables.permissions.map (·.id)).Nodup
  grants : (tables.grants.map (·.id)).Nodup

/-- No two rows of a table have the same key; the key of an attachment is the pair of the
role and the permission. -/
structure KeysDistinct (tables : Tables) : Prop extends IdsDistinct tables where
  attachments : (tables.attachments.map fun row => (row.roleId, row.permissionId)).Nodup

theorem keysDistinct_empty : empty.KeysDistinct where
  roles := List.nodup_nil
  permissions := List.nodup_nil
  grants := List.nodup_nil
  attachments := List.nodup_nil

theorem KeysDistinct.merge {committed : Tables} (distinct : committed.KeysDistinct)
    (base work : Tables) : (committed.merge base work).KeysDistinct where
  roles := nodup_map_mergeRows _ base.roles work.roles distinct.roles
  permissions := nodup_map_mergeRows _ base.permissions work.permissions distinct.permissions
  grants := nodup_map_mergeRows _ base.grants work.grants distinct.grants
  attachments := nodup_map_mergeRows _ base.attachments work.attachments distinct.attachments

end Tables
end Entitlement.Store
