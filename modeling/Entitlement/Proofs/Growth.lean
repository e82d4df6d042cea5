import Entitlement.Proofs.Integrity
import Entitlement.Proofs.RoleKeys
import Mathlib.Data.List.Forall2
import Mathlib.Logic.Relation

/-! # What calls do to rows

A call never removes a role, a permission or a grant. It leaves each row as it is or changes
it in one of the ways that are allowed for a row of its kind, and then adds new rows under
the next numbers of the counter. -/

namespace Entitlement

open Store

/-! ## One row -/

/-- What one call makes of a role: a live role is updated, or deleted if it is not a default
role. -/
inductive Role.Changes (role : Role) : Role → Prop where
  | same : role.Changes role
  | updated (live : role.isLive = true) (title : String) (key : RoleKey) (description : String)
      (isDefault : Bool) (now : Instant) :
      role.Changes { role with title, key, description, isDefault, updatedAt := now }
  | deleted (live : role.isLive = true) (optional : role.isDefault = false) (now : Instant)
      (deletedBy : Int) :
      role.Changes { role with deletedAt := some now, deletedBy := some deletedBy }

def Role.Becomes : Role → Role → Prop :=
  Relation.ReflTransGen Role.Changes

structure Role.SameRecord (role other : Role) : Prop where
  id : other.id = role.id
  uuid : other.uuid = role.uuid
  createdAt : other.createdAt = role.createdAt

structure Grant.Becomes (grant later : Grant) : Prop where
  sameContent : later = { grant with deletedAt := later.deletedAt }
  staysRevoked : grant.isLive = false → later.isLive = false

namespace Role

theorem SameRecord.refl (role : Role) : role.SameRecord role := ⟨rfl, rfl, rfl⟩

theorem SameRecord.symm {role other : Role} (same : role.SameRecord other) :
    other.SameRecord role :=
  ⟨same.id.symm, same.uuid.symm, same.createdAt.symm⟩

theorem SameRecord.trans {first second third : Role} (earlier : first.SameRecord second)
    (later : second.SameRecord third) : first.SameRecord third :=
  ⟨later.id.trans earlier.id, later.uuid.trans earlier.uuid,
    later.createdAt.trans earlier.createdAt⟩

theorem Changes.sameRecord {role later : Role} (changes : role.Changes later) :
    role.SameRecord later := by
  cases changes with
  | same => exact SameRecord.refl role
  | updated => exact ⟨rfl, rfl, rfl⟩
  | deleted => exact ⟨rfl, rfl, rfl⟩

theorem Changes.eq_or_live {role later : Role} (changes : role.Changes later) :
    later = role ∨ role.isLive = true := by
  cases changes with
  | same => exact Or.inl rfl
  | updated live => exact Or.inr live
  | deleted live => exact Or.inr live

theorem Becomes.sameRecord {role later : Role} (becomes : role.Becomes later) :
    role.SameRecord later := by
  induction becomes with
  | refl => exact SameRecord.refl role
  | tail _ changes induction => exact induction.trans changes.sameRecord

theorem Becomes.eq_or_live {role later : Role} (becomes : role.Becomes later) :
    later = role ∨ role.isLive = true := by
  induction becomes with
  | refl => exact Or.inl rfl
  | tail _ changes induction =>
      rcases induction with rfl | wasLive
      · exact changes.eq_or_live
      · exact Or.inr wasLive

end Role

namespace Grant

theorem Becomes.refl (grant : Grant) : grant.Becomes grant :=
  ⟨rfl, fun revoked => revoked⟩

theorem Becomes.trans {first second third : Grant} (earlier : first.Becomes second)
    (later : second.Becomes third) : first.Becomes third where
  sameContent := by rw [later.sameContent, earlier.sameContent]
  staysRevoked := fun revoked => later.staysRevoked (earlier.staysRevoked revoked)

theorem Becomes.id {grant later : Grant} (becomes : grant.Becomes later) :
    later.id = grant.id := by
  rw [becomes.sameContent]

theorem Becomes.userId {grant later : Grant} (becomes : grant.Becomes later) :
    later.userId = grant.userId := by
  rw [becomes.sameContent]

theorem Becomes.eq_or_revoked {grant later : Grant} (becomes : grant.Becomes later) :
    later = grant ∨ later.isLive = false := by
  rcases grant with ⟨id, userId, roleId, permissionId, createdAt, _ | revokedAt⟩
  · cases revoked : later.deletedAt with
    | none =>
        left
        rw [becomes.sameContent, revoked]
    | some now => exact Or.inr (by simp [isLive, revoked])
  · exact Or.inr (becomes.staysRevoked rfl)

end Grant

/-! ## Numbers that are given out -/

namespace Store

def Counts (last : Int) : List Int → Int → Prop
  | [], final => final = last
  | id :: ids, final => id = Width.signed64 (last + 1) ∧ Counts id ids final

theorem counts_issue (supply : Supply) (grants : List (Instant → Grant)) :
    Counts supply.lastId ((supply.issue grants).1.map (·.id)) (supply.issue grants).2.lastId := by
  induction grants generalizing supply with
  | nil => rfl
  | cons grant grants induction => exact ⟨rfl, induction supply.readClock.2.takeId.2⟩

theorem length_issue (supply : Supply) (grants : List (Instant → Grant)) :
    (supply.issue grants).1.length = grants.length := by
  induction grants generalizing supply with
  | nil => rfl
  | cons grant grants induction =>
      exact congrArg Nat.succ (induction supply.readClock.2.takeId.2)

theorem Counts.not_covers {supply : Supply} {ids : List Int} {final : Int}
    (counts : Counts supply.lastId ids final) (lasts : supply.Lasts ids.length) :
    ∀ id ∈ ids, ¬ supply.Covers id := by
  induction ids generalizing supply with
  | nil => simp
  | cons next ids induction =>
      rcases counts with ⟨rfl, rest⟩
      intro id member
      rcases List.mem_cons.mp member with rfl | member
      · exact Supply.not_covers_takeId lasts
      · intro covered
        have later : ∀ id ∈ ids, ¬ supply.takeId.2.Covers id :=
          induction rest (Supply.lasts_takeId lasts)
        exact later id member (covered.mono (Supply.leadsTo_takeId lasts))

theorem Counts.increasing {last final : Int} {ids : List Int} (counts : Counts last ids final)
    (start : 0 ≤ last) (low : last < Width.maxSigned64)
    (below : ∀ id ∈ ids, id < Width.maxSigned64) :
    last ≤ final ∧ final < Width.maxSigned64 ∧ ids.Nodup ∧ ∀ id ∈ ids, last < id ∧ id ≤ final := by
  induction ids generalizing last with
  | nil =>
      rw [Counts] at counts
      simp [counts, low]
  | cons next ids induction =>
      rcases counts with ⟨equal, rest⟩
      have following : next = last + 1 := by
        rw [equal]
        simp only [Width.signed64, Width.max64, Width.maxSigned64] at low ⊢
        rw [Int.bmod_def]
        omega
      have nextBelow := below next List.mem_cons_self
      rcases induction rest (by omega) nextBelow
          (fun id member => below id (List.mem_cons_of_mem next member)) with
        ⟨upward, finalBelow, distinct, between⟩
      refine ⟨by omega, finalBelow, List.nodup_cons.mpr ⟨fun member => ?_, distinct⟩, ?_⟩
      · exact absurd (between next member).1 (Int.lt_irrefl next)
      · intro id member
        rcases List.mem_cons.mp member with rfl | member
        · omega
        · have inRest := between id member
          omega

/-! ## One table -/

def GrowsBy {α : Type} (becomes : α → α → Prop) (earlier later added : List α) : Prop :=
  ∃ present, List.Forall₂ becomes earlier present ∧ later = present ++ added

theorem GrowsBy.refl {α : Type} {becomes : α → α → Prop} (same : ∀ row, becomes row row)
    (rows : List α) : GrowsBy becomes rows rows [] :=
  ⟨rows, List.forall₂_same.mpr fun row _ => same row, by simp⟩

theorem growsBy_append {α : Type} {becomes : α → α → Prop} (same : ∀ row, becomes row row)
    (rows added : List α) : GrowsBy becomes rows (rows ++ added) added :=
  ⟨rows, List.forall₂_same.mpr fun row _ => same row, rfl⟩

theorem growsBy_replace {α : Type} {becomes : α → α → Prop} (same : ∀ row, becomes row row)
    {before after : List α} {row changed : α} (change : becomes row changed) :
    GrowsBy becomes (before ++ row :: after) (before ++ changed :: after) [] := by
  refine ⟨_, List.rel_append ?_ (.cons change ?_), (List.append_nil _).symm⟩
  · exact List.forall₂_same.mpr fun row _ => same row
  · exact List.forall₂_same.mpr fun row _ => same row

theorem GrowsBy.imp {α : Type} {becomes relates : α → α → Prop} {earlier later added : List α}
    (implies : ∀ row changed, becomes row changed → relates row changed)
    (grows : GrowsBy becomes earlier later added) : GrowsBy relates earlier later added := by
  rcases grows with ⟨present, all, rfl⟩
  exact ⟨present, all.imp implies, rfl⟩

section

variable {α κ : Type} {becomes : α → α → Prop} {earlier later added : List α}

theorem GrowsBy.kept (grows : GrowsBy becomes earlier later added) :
    ∀ row ∈ earlier, ∃ changed ∈ later, becomes row changed := by
  rcases grows with ⟨present, all, rfl⟩
  intro row member
  have among : ∃ changed ∈ present, becomes row changed := by
    induction all with
    | nil => cases member
    | cons change _ induction =>
        rcases List.mem_cons.mp member with rfl | member
        · exact ⟨_, List.mem_cons_self, change⟩
        · rcases induction member with ⟨changed, inPresent, becomesChanged⟩
          exact ⟨changed, List.mem_cons_of_mem _ inPresent, becomesChanged⟩
  rcases among with ⟨changed, inPresent, becomesChanged⟩
  exact ⟨changed, List.mem_append_left _ inPresent, becomesChanged⟩

theorem GrowsBy.origin (grows : GrowsBy becomes earlier later added) :
    ∀ changed ∈ later, (∃ row ∈ earlier, becomes row changed) ∨ changed ∈ added := by
  rcases grows with ⟨present, all, rfl⟩
  intro changed member
  rcases List.mem_append.mp member with inPresent | isNew
  · left
    induction all with
    | nil => cases inPresent
    | cons change _ induction =>
        rcases List.mem_cons.mp inPresent with rfl | inPresent
        · exact ⟨_, List.mem_cons_self, change⟩
        · rcases induction (List.mem_append_left _ inPresent) inPresent with
            ⟨row, inEarlier, becomesChanged⟩
          exact ⟨row, List.mem_cons_of_mem _ inEarlier, becomesChanged⟩
  · exact Or.inr isNew

theorem GrowsBy.map_key {key : α → κ} (grows : GrowsBy becomes earlier later added)
    (sameKey : ∀ row changed, becomes row changed → key changed = key row) :
    later.map key = earlier.map key ++ added.map key := by
  rcases grows with ⟨present, all, rfl⟩
  have sameKeys : present.map key = earlier.map key := by
    induction all with
    | nil => rfl
    | cons change _ induction =>
        rw [List.map_cons, List.map_cons, sameKey _ _ change, induction]
  rw [List.map_append, sameKeys]

end

/-! ## All tables -/

end Store

inductive Kind where
  | role
  | permission
  | grant
deriving DecidableEq

namespace Store

def Tables.ids (tables : Tables) : Kind → List Int
  | .role => tables.roles.map (·.id)
  | .permission => tables.permissions.map (·.id)
  | .grant => tables.grants.map (·.id)

def Tables.numbers (tables : Tables) : List Int :=
  tables.ids .role ++ tables.ids .permission ++ tables.ids .grant

theorem Tables.mem_numbers_iff {tables : Tables} {id : Int} :
    id ∈ tables.numbers ↔ ∃ kind, id ∈ tables.ids kind := by
  simp only [numbers, List.mem_append, or_assoc]
  constructor
  · intro member
    rcases member with inRoles | inPermissions | inGrants
    · exact ⟨.role, inRoles⟩
    · exact ⟨.permission, inPermissions⟩
    · exact ⟨.grant, inGrants⟩
  · intro member
    rcases member with ⟨kind, inTable⟩
    cases kind <;> simp [inTable]

theorem Tables.ids_sublist_numbers (tables : Tables) (kind : Kind) :
    (tables.ids kind).Sublist tables.numbers := by
  rw [numbers, List.append_assoc]
  cases kind with
  | role => exact List.sublist_append_left _ _
  | permission =>
      exact (List.sublist_append_left _ _).trans (List.sublist_append_right _ _)
  | grant => exact (List.sublist_append_right _ _).trans (List.sublist_append_right _ _)

theorem Tables.IdsDistinct.ids {tables : Tables} (distinct : tables.IdsDistinct) :
    ∀ kind, (tables.ids kind).Nodup
  | .role => distinct.roles
  | .permission => distinct.permissions
  | .grant => distinct.grants

theorem Tables.mem_ids_merge {committed base work : Tables} {kind : Kind} {id : Int}
    (member : id ∈ (committed.merge base work).ids kind) :
    id ∈ committed.ids kind ∨ id ∈ work.ids kind := by
  cases kind with
  | role | permission | grant =>
      rcases List.mem_map.mp member with ⟨row, inMerged, rfl⟩
      rcases mem_of_mem_mergeRows inMerged with isCommitted | changed
      · exact Or.inl (List.mem_map_of_mem isCommitted)
      · exact Or.inr (List.mem_map_of_mem changed.1)

namespace Workspace

/-- What a call makes of the tables: rows changed in allowed ways, and the rows of `added`,
which have the next numbers. Attachments are left out. -/
structure Growth {α : Type} (workspace : Workspace) (call : Call α) (later : Workspace)
    (added : Tables) : Prop where
  roles : GrowsBy Role.Changes workspace.tables.roles later.tables.roles added.roles
  permissions : GrowsBy Eq workspace.tables.permissions later.tables.permissions
    added.permissions
  grants : GrowsBy Grant.Becomes workspace.tables.grants later.tables.grants added.grants
  created : ∀ role ∈ added.roles, ∃ asked ∈ call.newRole?, ∃ id, role = { asked with id }
  granted : ∀ grant ∈ added.grants,
    grant.isLive = true ∧ grant.roleId.isSome = !grant.permissionId.isSome
  numbers : Counts workspace.supply.lastId added.numbers later.supply.lastId

theorem Growth.ids {α : Type} {workspace later : Workspace} {call : Call α} {added : Tables}
    (growth : Growth workspace call later added) (kind : Kind) :
    later.tables.ids kind = workspace.tables.ids kind ++ added.ids kind := by
  cases kind with
  | role => exact growth.roles.map_key fun _ _ changes => changes.sameRecord.id
  | permission => exact growth.permissions.map_key fun _ _ equal => congrArg _ equal.symm
  | grant => exact growth.grants.map_key fun _ _ becomes => becomes.id

theorem becomes_revoke (userId : Int) (now : Instant) (grant : Grant) :
    grant.Becomes (revoke userId now grant) := by
  rw [revoke]
  split
  · exact ⟨rfl, fun _ => rfl⟩
  · exact Grant.Becomes.refl grant

theorem growsBy_revoke (userId : Int) (now : Instant) (grants added : List Grant) :
    GrowsBy Grant.Becomes grants (grants.map (revoke userId now) ++ added) added := by
  refine ⟨_, ?_, rfl⟩
  rw [List.forall₂_map_right_iff, List.forall₂_same]
  exact fun grant _ => becomes_revoke userId now grant

theorem growth_of_no_rows {α : Type} {workspace later : Workspace} (call : Call α)
    (roles : GrowsBy Role.Changes workspace.tables.roles later.tables.roles [])
    (permissions : GrowsBy Eq workspace.tables.permissions later.tables.permissions [])
    (grants : GrowsBy Grant.Becomes workspace.tables.grants later.tables.grants [])
    (sameId : later.supply.lastId = workspace.supply.lastId) :
    ∃ added, Growth workspace call later added ∧ added.numbers.length ≤ call.demand := by
  refine ⟨.empty, ⟨roles, permissions, grants, ?_, ?_, sameId⟩, Nat.zero_le _⟩
  · simp [Tables.empty]
  · simp [Tables.empty]

/-- All that a call does to roles, permissions and grants is growth, by no more rows than the
call may demand numbers. -/
theorem Change.growth {α : Type} {workspace later : Workspace} {call : Call α}
    (change : Change workspace call later) :
    ∃ added, Growth workspace call later added ∧ added.numbers.length ≤ call.demand := by
  have sameRoles := GrowsBy.refl (fun _ => Role.Changes.same) workspace.tables.roles
  have samePermissions := GrowsBy.refl (fun _ => rfl) workspace.tables.permissions
  have sameGrants := GrowsBy.refl Grant.Becomes.refl workspace.tables.grants
  cases change with
  | none => exact growth_of_no_rows call sameRoles samePermissions sameGrants rfl
  | createRole role free =>
      refine ⟨⟨[_], [], [], []⟩, ⟨growsBy_append (fun _ => .same) _ _, samePermissions,
        sameGrants, ?_, ?_, ?_⟩, Nat.le_refl 1⟩
      · intro created member
        exact ⟨role, rfl, _, List.mem_singleton.mp member⟩
      · simp
      · exact ⟨rfl, rfl⟩
  | updateRole role uuid before present after free whole named live =>
      have change := Role.Changes.updated live role.title role.key role.description
        role.isDefault workspace.supply.readClock.1
      refine growth_of_no_rows _ ?_ samePermissions sameGrants rfl
      rw [whole]
      exact growsBy_replace (fun _ => .same) change
  | deleteRole uuid deletedBy before present after whole named optional live =>
      have change := Role.Changes.deleted live optional workspace.supply.readClock.1 deletedBy
      refine growth_of_no_rows _ ?_ samePermissions sameGrants rfl
      rw [whole]
      exact growsBy_replace (fun _ => .same) change
  | replacePermissions roleId permissionIds =>
      exact growth_of_no_rows _ sameRoles samePermissions sameGrants rfl
  | createPermission permission free =>
      refine ⟨⟨[], [_], [], []⟩, ⟨sameRoles, growsBy_append (fun _ => rfl) _ _, sameGrants, ?_,
        ?_, ?_⟩, Nat.le_refl 1⟩
      · simp
      · simp
      · exact ⟨rfl, rfl⟩
  | assignRoles userId roleIds =>
      refine ⟨⟨[], [], [], _⟩, ⟨sameRoles, samePermissions, growsBy_revoke _ _ _ _, ?_, ?_, ?_⟩, ?_⟩
      · simp
      · exact Supply.forall_issue (fun _ _ _ => ⟨rfl, rfl⟩) _ _
      · exact counts_issue workspace.supply.readClock.2 _
      · have fewer := length_eraseDups_le roleIds
        simpa [Tables.numbers, Tables.ids, length_issue, Call.demand] using fewer
  | grantPermissions userId permissionIds chosen sub =>
      refine ⟨⟨[], [], [], _⟩, ⟨sameRoles, samePermissions,
        growsBy_append Grant.Becomes.refl _ _, ?_, ?_, ?_⟩, ?_⟩
      · simp
      · exact Supply.forall_issue (fun _ _ _ => ⟨rfl, rfl⟩) _ _
      · exact counts_issue workspace.supply _
      · simpa [Tables.numbers, Tables.ids, length_issue, Call.demand] using sub.length_le

end Workspace
end Store
end Entitlement
