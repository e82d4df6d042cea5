import Entitlement.Proofs.Holdings
import Entitlement.Service.Roles

/-! # Identifiers in requests

A request names roles or permissions by texts. If all of them spell identifiers, what is read is
each identifier once, where it was mentioned first; however it was spelled makes no difference.
Otherwise the first text that spells none is reported. -/

namespace Entitlement.Service

def misspelled? (texts : List String) : Option String :=
  texts.find? fun text => (Uuid.ofText? text).isNone

def spelled (texts : List String) : List Uuid :=
  (texts.filterMap Uuid.ofText?).eraseDups

theorem nodup_spelled (texts : List String) : (spelled texts).Nodup :=
  Store.nodup_eraseDups _

theorem mem_spelled_iff {texts : List String} {uuid : Uuid} :
    uuid ∈ spelled texts ↔ ∃ text ∈ texts, Uuid.ofText? text = some uuid := by
  rw [spelled, List.mem_eraseDups, List.mem_filterMap]

theorem misspelled?_eq_none_iff {texts : List String} :
    misspelled? texts = none ↔ ∀ text ∈ texts, ∃ uuid, Uuid.ofText? text = some uuid := by
  simp [misspelled?, List.find?_eq_none, ← Option.ne_none_iff_exists']

theorem eraseDups_append_cons {α : Type} [DecidableEq α] (found : List α) (name : α)
    (names : List α) :
    (found ++ name :: names).eraseDups =
      ((if name ∈ found then found else found ++ [name]) ++ names).eraseDups := by
  split
  · rename_i isFound
    rw [List.eraseDups_append, List.eraseDups_append, List.removeAll, List.filter_cons_of_neg,
      List.removeAll]
    simpa using isFound
  · rw [List.append_assoc, List.singleton_append]

theorem nodup_found {α : Type} [DecidableEq α] {found : List α} (distinct : found.Nodup)
    (name : α) : (if name ∈ found then found else found ++ [name]).Nodup := by
  split
  · exact distinct
  · rename_i isNew
    rw [List.nodup_append_comm]
    exact List.nodup_cons.mpr ⟨isNew, distinct⟩

theorem readUuids_eq_of_nodup (field : String) {found : List Uuid} (distinct : found.Nodup)
    (texts : List String) :
    readUuids field found texts =
      match misspelled? texts with
      | some text => .error (.invalidBody field ("'" ++ text ++ "' is not a valid uuid"))
      | none => .ok (found ++ texts.filterMap Uuid.ofText?).eraseDups := by
  -- The identifiers found so far stay distinct, so removing duplicates from all that was
  -- mentioned is the same before and after each text.
  induction texts generalizing found with
  | nil => simp [readUuids, misspelled?, Store.eraseDups_of_nodup distinct]
  | cons text texts induction =>
      rw [readUuids, misspelled?, List.find?_cons]
      cases spells : Uuid.ofText? text with
      | none => rfl
      | some uuid =>
          rw [List.filterMap_cons_some spells, eraseDups_append_cons]
          exact induction (nodup_found distinct uuid)

theorem readUuids_eq (field : String) (texts : List String) :
    readUuids field [] texts =
      match misspelled? texts with
      | some text => .error (.invalidBody field ("'" ++ text ++ "' is not a valid uuid"))
      | none => .ok (spelled texts) :=
  readUuids_eq_of_nodup field List.nodup_nil texts

example : readUuids "role_uuids" []
    ["00000000-0000-0000-0000-00000000000A", "00000000-0000-0000-0000-000000000003",
      "0000000000000000000000000000000a"] = .ok [.ofNat 10, .ofNat 3] := by
  decide +kernel

end Entitlement.Service

namespace Entitlement.Store.Tables

open Service

/-! ## Roles that are named -/

theorem of_roleByUuid? {tables : Tables} {uuid : Uuid} {role : Role}
    (found : tables.roleByUuid? uuid = some role) :
    role ∈ tables.roles ∧ role.isLive = true ∧ role.uuid = uuid := by
  have wanted := List.find?_some found
  simp only [Bool.and_eq_true, decide_eq_true_eq] at wanted
  exact ⟨List.mem_of_find?_eq_some found, wanted.2, wanted.1⟩

theorem roleByUuid?_eq_none_iff {tables : Tables} {uuid : Uuid} :
    tables.roleByUuid? uuid = none ↔
      ∀ role ∈ tables.roles, role.isLive = true → role.uuid ≠ uuid := by
  simp only [roleByUuid?, List.find?_eq_none, Bool.and_eq_true, decide_eq_true_eq, not_and,
    imp_not_comm]

def NamesRoles (tables : Tables) (texts : List String) : Prop :=
  ∀ text ∈ texts, ∃ uuid, Uuid.ofText? text = some uuid ∧
    ∃ role ∈ tables.roles, role.isLive = true ∧ role.uuid = uuid

theorem namesRoles_iff {tables : Tables} {texts : List String} :
    tables.NamesRoles texts ↔
      misspelled? texts = none ∧
        ∀ uuid ∈ spelled texts, ∃ role, tables.roleByUuid? uuid = some role := by
  have isFound (uuid : Uuid) : (∃ role, tables.roleByUuid? uuid = some role) ↔
      ∃ role ∈ tables.roles, role.isLive = true ∧ role.uuid = uuid := by
    rw [← Option.ne_none_iff_exists', Ne, roleByUuid?_eq_none_iff]
    push Not
    rfl
  simp only [isFound, misspelled?_eq_none_iff, mem_spelled_iff]
  constructor
  · intro names
    refine ⟨fun text isGiven => (names text isGiven).imp fun uuid facts => facts.1, ?_⟩
    intro uuid given
    rcases given with ⟨text, isGiven, spells⟩
    rcases names text isGiven with ⟨other, spellsOther, facts⟩
    rw [spells] at spellsOther
    cases spellsOther
    exact facts
  · intro given text isGiven
    rcases given.1 text isGiven with ⟨uuid, spells⟩
    exact ⟨uuid, spells, given.2 uuid ⟨text, isGiven, spells⟩⟩

/-! ## Permissions that are named -/

structure AreNamed (tables : Tables) (texts : List String) (named : List Permission) : Prop where
  mem_iff : ∀ permission, permission ∈ named ↔
    permission ∈ tables.permissions ∧ permission.isLive = true ∧
      ∃ text ∈ texts, Uuid.ofText? text = some permission.uuid
  ascending : named.Pairwise (·.id < ·.id)

theorem AreNamed.unique {tables : Tables} {texts : List String} {first second : List Permission}
    (named : tables.AreNamed texts first) (again : tables.AreNamed texts second) :
    first = second := by
  have irreflexive (rows : List Permission) (ascending : rows.Pairwise (·.id < ·.id)) :
      rows.Nodup :=
    ascending.imp fun {left right} before same => absurd (same ▸ before) (Int.lt_irrefl _)
  have same : first.Perm second :=
    (List.perm_ext_iff_of_nodup (irreflexive _ named.ascending) (irreflexive _ again.ascending)).mpr
      fun permission => (named.mem_iff permission).trans (again.mem_iff permission).symm
  refine List.Perm.eq_of_pairwise (fun left right _ _ before after => ?_) named.ascending
    again.ascending same
  exact absurd (Int.lt_trans before after) (Int.lt_irrefl _)

theorem exists_areNamed {tables : Tables} (distinct : (tables.permissions.map (·.id)).Nodup)
    (texts : List String) :
    ∃ named, tables.AreNamed texts named ∧
      named.map (·.id) = tables.permissionIds (spelled texts) := by
  let wanted := tables.permissions.filter fun permission =>
    permission.isLive && (spelled texts).contains permission.uuid
  let sorted := wanted.mergeSort fun left right => left.id ≤ right.id
  have weakly : sorted.Pairwise fun left right => decide (left.id ≤ right.id) = true := by
    refine List.pairwise_mergeSort (fun first second third before after => ?_)
      (fun left right => ?_) wanted
    · rw [decide_eq_true_eq] at before after ⊢
      exact Int.le_trans before after
    · simpa using Int.le_total left.id right.id
  have apart : (sorted.map (·.id)).Nodup :=
    ((List.mergeSort_perm wanted _).map _).nodup_iff.mpr
      (distinct.sublist (List.filter_sublist.map _))
  refine ⟨sorted, ⟨fun permission => ?_, ?_⟩, ?_⟩
  · simp only [sorted, wanted, List.mem_mergeSort, List.mem_filter, Bool.and_eq_true,
      List.contains_iff_mem, mem_spelled_iff]
  · refine (weakly.and (List.pairwise_map.mp apart)).imp fun {left right} facts => ?_
    exact Int.lt_iff_le_and_ne.mpr ⟨of_decide_eq_true facts.1, facts.2⟩
  · exact List.map_mergeSort fun left _ right _ => rfl

namespace AreNamed

variable {tables : Tables} {texts : List String} {named : List Permission}
  (areNamed : tables.AreNamed texts named)

include areNamed

theorem live : ∀ permission ∈ named,
    permission ∈ tables.permissions ∧ permission.isLive = true := by
  intro permission member
  have facts := (areNamed.mem_iff permission).mp member
  exact ⟨facts.1, facts.2.1⟩

theorem of_same {other : Tables} (same : other.permissions = tables.permissions) :
    other.AreNamed texts named :=
  ⟨same ▸ areNamed.mem_iff, areNamed.ascending⟩

theorem once : (named.map (·.id)).Nodup :=
  List.pairwise_map.mpr (areNamed.ascending.imp Int.ne_of_lt)

theorem map_id (distinct : (tables.permissions.map (·.id)).Nodup) :
    named.map (·.id) = tables.permissionIds (spelled texts) := by
  rcases exists_areNamed distinct texts with ⟨found, isNamed, ids⟩
  rw [areNamed.unique isNamed, ids]

theorem filterMap_permissionById? (distinct : (tables.permissions.map (·.id)).Nodup) :
    (named.map (·.id)).filterMap tables.permissionById? = named := by
  have found : ∀ permission ∈ named,
      tables.permissionById? permission.id = some permission :=
    fun permission member => (permissionById?_eq_some_iff distinct _ _).mpr
      ⟨(areNamed.live permission member).1, rfl, (areNamed.live permission member).2⟩
  rw [List.filterMap_map]
  exact (List.filterMap_congr found).trans List.filterMap_some

theorem of_sameNames {again : List String}
    (same : ∀ permission ∈ tables.permissions, permission.isLive = true →
      (permission.uuid ∈ spelled again ↔ permission.uuid ∈ spelled texts)) :
    tables.AreNamed again named := by
  refine ⟨fun permission => ?_, areNamed.ascending⟩
  rw [areNamed.mem_iff, ← mem_spelled_iff, ← mem_spelled_iff]
  refine and_congr_right fun member => and_congr_right fun live => ?_
  exact (same permission member live).symm

end AreNamed

theorem permissionIds_of_ascending {tables : Tables}
    (ascending : (tables.permissions.map (·.id)).Pairwise (· ≤ ·)) (uuids : List Uuid) :
    tables.permissionIds uuids = (tables.permissions.filter fun permission =>
      permission.isLive && uuids.contains permission.uuid).map (·.id) := by
  refine List.mergeSort_of_pairwise ?_
  exact (ascending.sublist (List.filter_sublist.map _)).imp decide_eq_true

end Entitlement.Store.Tables
