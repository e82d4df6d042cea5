import Entitlement.Proofs.Histories

/-! # Keys of live permissions

A unit creates a permission only if no live permission in its working copy has the key. Unlike
the keys of roles, the keys of permissions are not looked at again when the unit is committed.
So the only way to two live permissions with one key is the commit of a unit that has created a
permission whose key was taken meanwhile. -/

namespace Entitlement

open Store

namespace Store

/-! ## One table -/

def livePermissionKeys (permissions : List Permission) : List PermissionKey :=
  (permissions.filter (·.isLive)).map (·.key)

def Tables.PermissionKeysDistinct (tables : Tables) : Prop :=
  (livePermissionKeys tables.permissions).Nodup

instance (tables : Tables) : Decidable tables.PermissionKeysDistinct :=
  inferInstanceAs (Decidable (livePermissionKeys tables.permissions).Nodup)

structure FreshKeys (present added : List Permission) : Prop where
  distinct : (livePermissionKeys added).Nodup
  apart : ∀ key ∈ livePermissionKeys added, key ∉ livePermissionKeys present

theorem mem_livePermissionKeys_iff (permissions : List Permission) (key : PermissionKey) :
    key ∈ livePermissionKeys permissions ↔
      ∃ permission ∈ permissions, permission.isLive = true ∧ permission.key = key := by
  simp [livePermissionKeys, and_assoc]

theorem livePermissionKeys_append (left right : List Permission) :
    livePermissionKeys (left ++ right) = livePermissionKeys left ++ livePermissionKeys right := by
  simp [livePermissionKeys]

theorem nodup_livePermissionKeys_append {present added : List Permission}
    (distinct : (livePermissionKeys added).Nodup) :
    (livePermissionKeys (present ++ added)).Nodup ↔
      (livePermissionKeys present).Nodup ∧
        ∀ key ∈ livePermissionKeys added, key ∉ livePermissionKeys present := by
  rw [livePermissionKeys_append, List.nodup_append]
  constructor
  · intro all
    exact ⟨all.1, fun key isNew held => all.2.2 key held key isNew rfl⟩
  · intro parts
    refine ⟨parts.1, distinct, fun key held other isNew equal => ?_⟩
    exact parts.2 other isNew (equal ▸ held)

theorem FreshKeys.add {present added : List Permission} (fresh : FreshKeys present added)
    {permission : Permission}
    (free : ∀ other ∈ present ++ added, other.key = permission.key → other.isLive = false) :
    FreshKeys present (added ++ [permission]) := by
  have unused : ∀ permissions : List Permission, (∀ other ∈ permissions, other ∈ present ++ added) →
      permission.key ∉ livePermissionKeys permissions := by
    intro permissions among held
    rcases (mem_livePermissionKeys_iff _ _).mp held with ⟨other, member, live, equal⟩
    have notLive := free other (among other member) equal
    rw [live] at notLive
    cases notLive
  have onlyKey : ∀ key ∈ livePermissionKeys [permission], key = permission.key := by
    intro key held
    rcases (mem_livePermissionKeys_iff _ _).mp held with ⟨other, member, -, rfl⟩
    rw [List.mem_singleton.mp member]
  have oneKey : (livePermissionKeys [permission]).Nodup := by
    cases live : permission.isLive <;> simp [livePermissionKeys, live]
  constructor
  · refine (nodup_livePermissionKeys_append oneKey).mpr ⟨fresh.distinct, fun key isNew => ?_⟩
    rw [onlyKey key isNew]
    exact unused added fun other member => List.mem_append_right _ member
  · intro key held
    rw [livePermissionKeys_append] at held
    rcases List.mem_append.mp held with old | isNew
    · exact fresh.apart key old
    · rw [onlyKey key isNew]
      exact unused present fun other member => List.mem_append_left _ member

/-! ## One unit -/

def Tables.AddsFreshKeys (base work : Tables) : Prop :=
  ∃ added, work.permissions = base.permissions ++ added ∧ FreshKeys base.permissions added

theorem Tables.AddsFreshKeys.refl (tables : Tables) : tables.AddsFreshKeys tables :=
  ⟨[], by simp, List.nodup_nil, fun _ none => by cases none⟩

theorem Tables.AddsFreshKeys.change {α : Type} {base : Tables} {workspace later : Workspace}
    {call : Call α} (adds : base.AddsFreshKeys workspace.tables)
    (change : Workspace.Change workspace call later) : base.AddsFreshKeys later.tables := by
  cases change with
  | createPermission permission free =>
      rcases adds with ⟨added, whole, fresh⟩
      rw [whole] at free
      refine ⟨added ++ [{ permission with id := workspace.supply.takeId.1 }], ?_, fresh.add free⟩
      simp [whole]
  | none | createRole | updateRole | deleteRole | replacePermissions | assignRoles
  | grantPermissions => exact adds

end Store

namespace World

theorem Reachable.addsFreshKeys {allowed : World → Event → Prop} {world : World}
    (reachable : Reachable allowed world) {unitName : String} {draft : Draft}
    (active : world.phaseOf unitName = .active draft) : draft.base.AddsFreshKeys draft.work := by
  induction reachable generalizing draft with
  | start surroundings unused => cases active
  | step event _ _ induction =>
      cases (step_transition _ event).draftAfter active with
      | begun => exact Tables.AddsFreshKeys.refl _
      | old _ wasActive => exact induction wasActive
      | worked call wasActive change => exact (induction wasActive).change change

/-! ## Commits -/

def Clashes (world : World) : Event → Prop
  | .commit unitName => ((commit unitName).outcome world).1 = .ok () ∧
      ∃ draft, world.phaseOf unitName = .active draft ∧
        ∃ permission ∈ draft.work.permissions, permission ∉ draft.base.permissions ∧
          permission.isLive = true ∧
            permission.key ∈ livePermissionKeys world.committed.permissions
  | _ => False

/-- Rows are given numbers with care, and a permission that is stored directly has a key that
no committed live permission has. -/
def Keyed (world : World) (event : Event) : Prop :=
  world.Numbers event ∧
    match event with
    | .insertPermission permission =>
        ∀ present ∈ world.committed.livePermissions, present.key ≠ permission.key
    | _ => True

instance (world : World) : (event : Event) → Decidable (world.Keyed event)
  | .insertPermission permission => inferInstanceAs (Decidable (_ ∧
      ∀ present ∈ world.committed.livePermissions, present.key ≠ permission.key))
  | .begin _ | .call _ _ | .commit _ | .rollback _ | .insertRole _ | .around _ =>
      inferInstanceAs (Decidable (_ ∧ True))

theorem Reachable.permissions_merge {world : World} (reachable : Reachable Numbers world)
    {unitName : String} {draft : Draft} (active : world.phaseOf unitName = .active draft)
    {added : List Permission} (whole : draft.work.permissions = draft.base.permissions ++ added) :
    (world.committed.merge draft.base draft.work).permissions =
      world.committed.permissions ++ added := by
  have distinct := (reachable.orderly _ (committed_mem_copies world)).distinct.permissions
  have distinctWork := (reachable.orderly _ (work_mem_copies active)).distinct.permissions
  rw [whole] at distinctWork
  have separate := reachable.separate.known active .permission
  simp only [Tables.merge, whole]
  apply mergeRows_eq_append distinctWork
  rw [List.map_append] at distinctWork ⊢
  rcases List.nodup_append.mp distinctWork with ⟨-, distinctAdded, apart⟩
  refine List.nodup_append.mpr ⟨distinct, distinctAdded, fun id isCommitted other isNew equal => ?_⟩
  subst equal
  have inWork : id ∈ draft.work.ids .permission := by
    simp only [Tables.ids, whole, List.map_append]
    exact List.mem_append_right _ isNew
  exact apart id (separate id isCommitted inWork) id isNew rfl

theorem Reachable.permissionKeysDistinct_step {world : World}
    (reachable : Reachable Numbers world) {event : Event} (keyed : world.Keyed event) :
    (world.step event).committed.PermissionKeysDistinct ↔
      world.committed.PermissionKeysDistinct ∧ ¬ world.Clashes event := by
  cases event with
  | commit unitName =>
      rw [World.step]
      rcases outcome_commit world unitName with
        fails | ⟨draft, active, ⟨key, -, refuses⟩ | ⟨-, publishes⟩⟩
      · simp [fails, Clashes]
      · simp [refuses, Clashes, setPhase]
      · rcases reachable.addsFreshKeys active with ⟨added, whole, fresh⟩
        have distinctWork := (reachable.orderly _ (work_mem_copies active)).distinct.permissions
        rw [whole, List.map_append] at distinctWork
        -- The merge appends the rows that the unit has added, so only their keys can clash.
        rw [publishes, Tables.PermissionKeysDistinct]
        simp only [reachable.permissions_merge active whole]
        rw [nodup_livePermissionKeys_append fresh.distinct]
        refine and_congr_right fun _ => ⟨?_, ?_⟩
        · intro apart clashes
          rcases clashes with
            ⟨-, other, isActive, permission, inWork, notInBase, live, held⟩
          cases active.symm.trans isActive
          rw [whole] at inWork
          have isAdded := (List.mem_append.mp inWork).resolve_left notInBase
          exact apart _ ((mem_livePermissionKeys_iff _ _).mpr ⟨permission, isAdded, live, rfl⟩) held
        · intro unclashing key isNew held
          rcases (mem_livePermissionKeys_iff _ _).mp isNew with ⟨permission, isAdded, live, rfl⟩
          apply unclashing
          refine ⟨by rw [publishes], draft, active, permission, ?_, fun inBase => ?_, live, held⟩
          · rw [whole]
            exact List.mem_append_right _ isAdded
          · exact (List.nodup_append.mp distinctWork).2.2 _ (List.mem_map_of_mem inBase) _
              (List.mem_map_of_mem isAdded) rfl
  | insertPermission permission =>
      have oneKey : (livePermissionKeys [(world.insertPermission permission).1]).Nodup := by
        cases live : (world.insertPermission permission).1.isLive <;>
          simp [livePermissionKeys, live]
      refine (nodup_livePermissionKeys_append oneKey).trans (and_congr_right fun _ => ?_)
      refine ⟨fun _ clashes => clashes, fun _ key isNew held => ?_⟩
      rcases (mem_livePermissionKeys_iff _ _).mp isNew with ⟨inserted, isInserted, -, rfl⟩
      rcases (mem_livePermissionKeys_iff _ _).mp held with ⟨present, isPresent, live, equal⟩
      rw [List.mem_singleton.mp isInserted] at equal
      exact keyed.2 present (List.mem_filter.mpr ⟨isPresent, live⟩) equal
  | begin | call | rollback | insertRole | around =>
      rw [committed_step]
      simp [publicationIn, Publication.apply, Clashes, Tables.PermissionKeysDistinct]

theorem Reachable.permissionKeysDistinct_of_run {world : World} {events : List Event}
    (reachable : Reachable Numbers world) (permits : Permits Keyed world events)
    (distinct : (world.run events).committed.PermissionKeysDistinct) :
    world.committed.PermissionKeysDistinct := by
  induction events generalizing world with
  | nil => exact distinct
  | cons event events induction =>
      have rest := induction (reachable.step event permits.1.1) permits.2 distinct
      exact ((reachable.permissionKeysDistinct_step permits.1).mp rest).1

/-- Starting from a store in which no two live permissions have the same key, this stays so
exactly as long as no unit is committed that has added a permission with a key that was taken
meanwhile. -/
theorem permissionKeysDistinct_run_iff {world : World} {events : List Event}
    (reachable : Reachable Numbers world) (distinct : world.committed.PermissionKeysDistinct)
    (permits : Permits Keyed world events) :
    (world.run events).committed.PermissionKeysDistinct ↔
      Permits (fun now event => ¬ now.Clashes event) world events := by
  induction events generalizing world with
  | nil => exact ⟨fun _ => trivial, fun _ => distinct⟩
  | cons event events induction =>
      have here := reachable.permissionKeysDistinct_step permits.1
      have next := reachable.step event permits.1.1
      -- That the keys are distinct after the event follows from the end of the run in one
      -- direction, and from its start in the other.
      constructor
      · intro stays
        have stillDistinct := next.permissionKeysDistinct_of_run permits.2 stays
        exact ⟨(here.mp stillDistinct).2, (induction next stillDistinct permits.2).mp stays⟩
      · intro unclashing
        have stillDistinct := here.mpr ⟨distinct, unclashing.1⟩
        exact (induction next stillDistinct permits.2).mpr unclashing.2

def rivals : List Event :=
  [.begin "first", .begin "second",
    .call "first" (.createPermission (.fresh "Reading users" .readUser (.ofNat 1) ⟨0, 0⟩)),
    .call "second" (.createPermission (.fresh "Reading users" .readUser (.ofNat 2) ⟨0, 0⟩)),
    .commit "first", .commit "second"]

theorem permissionKeysDistinct_run_iff_rivals :
    ¬ (fresh.run rivals).committed.PermissionKeysDistinct ∧
      ¬ Permits (fun now event => ¬ now.Clashes event) fresh rivals := by
  have reachable : Reachable Numbers fresh := .start fresh.surroundings rfl
  have repeated : ¬ (fresh.run rivals).committed.PermissionKeysDistinct := by decide
  have permits : Permits Keyed fresh rivals := by decide
  refine ⟨repeated, fun unclashing => repeated ?_⟩
  exact (permissionKeysDistinct_run_iff reachable (by decide) permits).mpr unclashing

/-- So a store can come to hold two live permissions with the same key. -/
theorem live_permission_key_repeated :
    ¬ ∀ world : World, Reachable Keyed world → world.committed.PermissionKeysDistinct := by
  intro always
  have reachable : Reachable Keyed (fresh.run rivals) :=
    Reachable.run (.start fresh.surroundings rfl) (by decide)
  have distinct := always _ reachable
  revert distinct
  decide

end World
end Entitlement
