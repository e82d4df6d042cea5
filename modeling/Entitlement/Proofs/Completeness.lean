import Entitlement.Proofs.Seeding

/-! # A completed unit stays complete

Once every role and permission that an installation has is there, and live roles can be told
apart, no call but the deletion of a role makes one of them missing: keys of permissions never
change, every key of a role is in use, and so a role that is updated keeps its key. A second run
of seeding therefore finds nothing to do. -/

namespace Entitlement

open Store Service

/-! ## Where nothing is missing -/

structure Store.Tables.IsComplete (tables : Tables) : Prop where
  permissions : ∀ key ∈ seededKeys, key ∈ livePermissionKeys tables.permissions
  roles : ∀ key, key ∈ liveKeys tables.roles
  identified : (liveUuids tables.roles).Nodup

namespace Service.Completes

variable {before after : Tables} {report : SeedReport} (completes : Completes before after report)

include completes

theorem permissions_there : ∀ key ∈ seededKeys, key ∈ livePermissionKeys after.permissions := by
  intro key isSeeded
  have notSentinel : key.isSentinel = false := by simpa using (List.mem_filter.mp isSeeded).2
  apply List.count_pos_iff.mp
  rw [completes.onePermission key notSentinel]
  exact Nat.one_pos

theorem roles_there (key : RoleKey) : key ∈ liveKeys after.roles := by
  apply List.count_pos_iff.mp
  rw [completes.oneRole key]
  exact Nat.one_pos

theorem isComplete (identified : (liveUuids after.roles).Nodup) : after.IsComplete :=
  ⟨completes.permissions_there, completes.roles_there, identified⟩

end Service.Completes

namespace Desk

section

variable {surroundings : Surroundings} (healthy : surroundings.failing = []) (base : Tables)

theorem seedPermissions_of_found {m : Type → Type} [Monad m] (backend : Backend m)
    {keys : List PermissionKey} {index : PermissionIndex}
    (found : ∀ key ∈ keys, (index.lookup key).isSome = true) (created : Nat) :
    seedPermissions backend index created keys = pure (index, created) := by
  induction keys with
  | nil => rfl
  | cons key keys induction =>
      rw [seedPermissions, if_pos (found key List.mem_cons_self)]
      exact induction fun other member => found other (List.mem_cons_of_mem key member)

include healthy

theorem outcome_seedRoles_of_present {definitions : List RoleDefinition} {workspace : Workspace}
    (present : ∀ key, key ∈ liveKeys workspace.tables.roles) (index : PermissionIndex)
    (created : Nat) :
    (seedRoles backend index created definitions).outcome (working surroundings base workspace) =
      (.ok created, working surroundings base workspace) := by
  induction definitions with
  | nil => rfl
  | cons definition definitions induction =>
      rw [seedRoles, Action.outcome_bind,
        outcome_seedRole_of_present healthy base (present definition.key)]
      exact induction

theorem outcome_seed_of_complete {workspace : Workspace}
    (permissions : ∀ key ∈ seededKeys, key ∈ livePermissionKeys workspace.tables.permissions)
    (roles : ∀ key, key ∈ liveKeys workspace.tables.roles) :
    (seed backend).outcome (working surroundings base workspace) =
      (.ok ⟨0, 0⟩, working surroundings base workspace) := by
  have finds := PermissionIndex.Finds.of_livePermissions workspace.tables.permissions
  have listed : (Workspace.perform .livePermissions).outcome workspace =
    (.ok workspace.tables.livePermissions, workspace) := rfl
  have found : ∀ key ∈ seededKeys,
      ((PermissionIndex.of workspace.tables.livePermissions).lookup key).isSome = true :=
    fun key isSeeded => finds.complete key (permissions key isSeeded)
  rw [seed, outcome_enter_working, outcome_call_working_of_ok healthy base listed,
    seedPermissions_of_found backend found, pure_bind, outcome_enter_working,
    Action.outcome_bind, outcome_seedRoles_of_present healthy base roles]
  rfl

end

end Desk

/-! ## Calls -/

def Call.deletesRole {α : Type} : Call α → Bool
  | deleteRole _ _ => true
  | _ => false

section

variable {before after : List Role} {present changed : Role}

theorem mem_liveKeys_replace {key : RoleKey}
    (held : key ∈ liveKeys (before ++ present :: after))
    (sameLive : changed.isLive = present.isLive) (sameKey : changed.key = present.key) :
    key ∈ liveKeys (before ++ changed :: after) := by
  rw [liveKeys_append, liveKeys_cons] at held ⊢
  rwa [sameLive, sameKey]

theorem nodup_liveUuids_replace (distinct : (liveUuids (before ++ present :: after)).Nodup)
    (sameLive : changed.isLive = present.isLive) (sameUuid : changed.uuid = present.uuid) :
    (liveUuids (before ++ changed :: after)).Nodup := by
  simp only [liveUuids, List.filter_append, List.filter_cons, sameLive] at distinct ⊢
  split at distinct
  · rename_i live
    simpa [live, sameUuid] using distinct
  · rename_i notLive
    simpa [notLive] using distinct

end

/-- Of the live roles that can be told apart by their identifiers, only the one that is updated
can have the key that is asked for. -/
theorem Store.Tables.IsComplete.key_eq {tables : Tables} (complete : tables.IsComplete)
    {key : RoleKey} {present : Role} (member : present ∈ tables.roles)
    (live : present.isLive = true) (free : tables.keyInUse key (some present.uuid) = false) :
    present.key = key := by
  rcases (mem_liveKeys_iff _ _).mp (complete.roles key) with ⟨holder, isThere, isLive, rfl⟩
  have sameUuid : holder.uuid = present.uuid := by
    by_contra different
    have used : tables.keyInUse holder.key (some present.uuid) = true :=
      List.any_eq_true.mpr ⟨holder, isThere, by simp [isLive, different]⟩
    rw [free] at used
    cases used
  have same : holder = present := List.inj_on_of_nodup_map complete.identified
    (List.mem_filter.mpr ⟨isThere, isLive⟩) (List.mem_filter.mpr ⟨member, live⟩) sameUuid
  rw [same]

theorem Store.Workspace.Change.isComplete {α : Type} {workspace later : Workspace} {call : Call α}
    (change : Change workspace call later) (spares : call.deletesRole = false)
    (complete : workspace.tables.IsComplete) : later.tables.IsComplete := by
  cases change with
  | createRole role free =>
      -- No key is left for another role.
      exact absurd (complete.roles role.key) (keyInUse_eq_false_iff.mp free)
  | updateRole role uuid before present after free whole named live =>
      have isThere : present ∈ workspace.tables.roles := by simp [whole]
      subst named
      -- The key that is asked for is free only if this role has it already.
      have sameKey := complete.key_eq isThere live free
      refine ⟨complete.permissions, fun key => ?_, ?_⟩
      · have held := complete.roles key
        rw [whole] at held
        exact mem_liveKeys_replace held rfl sameKey.symm
      · have identified := complete.identified
        rw [whole] at identified
        exact nodup_liveUuids_replace identified rfl rfl
  | deleteRole => cases spares
  | createPermission permission free =>
      refine { complete with permissions := fun key isSeeded => ?_ }
      rw [livePermissionKeys_append]
      exact List.mem_append_left _ (complete.permissions key isSeeded)
  | none | replacePermissions | assignRoles | grantPermissions => exact { complete with }

/-! ## Units -/

def Event.DeletesNoRole (unitName : String) : Event → Prop
  | call caller asked => asked.deletesRole = true → caller ≠ unitName
  | _ => True

def World.IsCompleteFor (unitName : String) (world : World) : Prop :=
  world.phaseOf unitName = .finalized ∨
    ∃ draft, world.phaseOf unitName = .active draft ∧ draft.work.IsComplete

variable {unitName : String}

theorem World.IsCompleteFor.step {world : World} {event : Event}
    (complete : world.IsCompleteFor unitName) (spares : event.DeletesNoRole unitName) :
    (world.step event).IsCompleteFor unitName := by
  rcases complete with finalized | ⟨draft, active, isComplete⟩
  · exact Or.inl ((step_transition world event).phaseOf_of_finalized finalized)
  · rcases phaseOf_step event active with stillActive | finalized
    · refine Or.inr ⟨_, stillActive, ?_⟩
      cases event with
      | call caller asked =>
          rw [turnIn]
          split
          · rename_i own
            have keeps : asked.deletesRole = false :=
              Bool.eq_false_iff.mpr fun deletes => spares deletes own
            rcases (world.turn asked).change draft.work with ⟨later, change, performed⟩
            change ((world.turn asked).perform draft.work).2.IsComplete
            rw [performed]
            exact change.isComplete keeps isComplete
          · exact isComplete
      | begin | commit | rollback | insertRole | insertPermission | around => exact isComplete
    · exact Or.inl finalized

/-! ## Tasks that take turns -/

def Request.deletesRole {α : Type} : Request α → Bool
  | call asked => asked.deletesRole
  | _ => false

def Contract.deletesNoRole (unitName caller : String) : Contract where
  may := fun request => request.deletesRole = true → caller ≠ unitName
  tells := fun _ _ => True

theorem Contract.isFair_deletesNoRole (unitName caller : String) :
    (deletesNoRole unitName caller).IsFair where
  plain := by
    intro α request isPlain _ deletes
    cases request with
    | call asked =>
        cases asked with
        | deleteRole => cases isPlain
        | _ => cases deletes
    | _ => cases deletes
  creates := fun _ _ deletes => by cases deletes
  updates := fun _ _ _ _ _ deletes => by cases deletes
  offers := fun _ _ deletes => by cases deletes
  users := fun _ deletes => by cases deletes

def Move.DeletesNoRole (unitName : String) : Move → Prop
  | event occurring => occurring.DeletesNoRole unitName
  | start caller task => task.deletesRoles = true → caller ≠ unitName
  | advance _ => True

namespace Traffic

theorem preserves_isCompleteFor :
    Preserves (World.IsCompleteFor unitName) (Contract.deletesNoRole unitName) := by
  intro world caller α request complete may
  have spares : ∀ event ∈ request.events caller, event.DeletesNoRole unitName := by
    intro event member
    cases request with
    | call asked =>
        rw [List.mem_singleton.mp member]
        exact may
    | now | freshUuid | offerKeys | countDecision =>
        rcases List.mem_pair.mp member with rfl | rfl
        · exact fun deletes => by cases deletes
        · exact True.intro
    | enter | userByUuid | cachedKey =>
        rw [List.mem_singleton.mp member]
        exact fun deletes => by cases deletes
  exact ⟨World.holds_request World.IsCompleteFor.step complete spares, fun _ _ => True.intro⟩

end Traffic

/-! ## Seeding an active unit -/

/-- The rows of these tables have numbers of their own, and live ones keys of their own; nothing
refers to a row that is not there. -/
structure Store.Tables.IsSound (tables : Tables) : Prop where
  distinct : tables.IdsDistinct
  intact : tables.Intact
  roleKeys : tables.LiveKeysDistinct
  permissionKeys : tables.PermissionKeysDistinct

namespace World

def withWork (world : World) (unitName : String) (base : Tables) (workspace : Workspace) : World :=
  { world.setPhase unitName (.active ⟨base, workspace.tables⟩) with
    surroundings := { world.surroundings with supply := workspace.supply } }

theorem outcome_atDesk_working {α : Type} {world : World} {draft : Draft}
    (active : world.phaseOf unitName = .active draft) {action : Action Desk α}
    {result : Except Fault α} {later : Workspace}
    (ends : action.outcome (Desk.working world.surroundings draft.base
      ⟨draft.work, world.surroundings.supply⟩) =
        (result, Desk.working world.surroundings draft.base later)) :
    (atDesk unitName action).outcome world =
      (result, world.withWork unitName draft.base later) := by
  have same : (⟨world.phaseOf unitName, world.surroundings⟩ : Desk) =
      Desk.working world.surroundings draft.base ⟨draft.work, world.surroundings.supply⟩ := by
    rw [active]
    rfl
  rw [outcome_atDesk, same, ends]
  rfl

theorem phaseOf_withWork (world : World) (base : Tables) (workspace : Workspace) :
    (world.withWork unitName base workspace).phaseOf unitName = .active ⟨base, workspace.tables⟩ :=
  phaseOf_setPhase_self world unitName _

theorem seed_again {world : World} {draft : Draft}
    (active : world.phaseOf unitName = .active draft) (healthy : world.surroundings.failing = [])
    (permissions : ∀ key ∈ seededKeys, key ∈ livePermissionKeys draft.work.permissions)
    (roles : ∀ key, key ∈ liveKeys draft.work.roles) :
    ∃ again, (atDesk unitName (seed Desk.backend)).outcome world = (.ok ⟨0, 0⟩, again) ∧
      world.Matches again := by
  refine ⟨world.withWork unitName draft.base ⟨draft.work, world.surroundings.supply⟩,
    outcome_atDesk_working active
      (Desk.outcome_seed_of_complete healthy draft.base permissions roles), ?_⟩
  have same := world.matches_setPhase_self unitName
  rw [active] at same
  exact same

/-- Where numbers lead to rows and the next ones are not in use, and no two live permissions and no
two live roles have the same key, seeding succeeds and completes the working copy of its unit, and
a second run finds nothing to do. If live roles have identifiers of their own, the new ones
included, this is so after any number of tasks, in this and other units, that delete no role in
this one. -/
theorem seed_completes {world : World} {draft : Draft}
    (active : world.phaseOf unitName = .active draft) (healthy : world.surroundings.failing = [])
    (room : Workspace.HasRoom ⟨draft.work, world.surroundings.supply⟩
      (seededKeys.length + roleDefinitions.length))
    (roleKeys : draft.work.LiveKeysDistinct) (permissionKeys : draft.work.PermissionKeysDistinct) :
    ∃ report workspace,
      let later := world.withWork unitName draft.base workspace
      (atDesk unitName (seed Desk.backend)).outcome world = (.ok report, later) ∧
      Completes draft.work workspace.tables report ∧
      (∃ again, (atDesk unitName (seed Desk.backend)).outcome later = (.ok ⟨0, 0⟩, again) ∧
        later.Matches again) ∧
      (Workspace.HasIdentifiers ⟨draft.work, world.surroundings.supply⟩
          (seededKeys.length + roleDefinitions.length) →
        ∀ moves : List Move, (∀ move ∈ moves, move.DeletesNoRole unitName) →
          let now := (Traffic.run ⟨later, []⟩ moves).world
          ∀ draftNow, now.phaseOf unitName = .active draftNow → now.surroundings.failing = [] →
            ∃ again, (atDesk unitName (seed Desk.backend)).outcome now = (.ok ⟨0, 0⟩, again) ∧
              now.Matches again) := by
  rcases Desk.outcome_seed healthy draft.base room roleKeys permissionKeys with
    ⟨report, workspace, ends, completes, identified⟩
  let later := world.withWork unitName draft.base workspace
  have activeLater : later.phaseOf unitName = .active ⟨draft.base, workspace.tables⟩ :=
    phaseOf_withWork world draft.base workspace
  refine ⟨report, workspace, outcome_atDesk_working active ends, completes, ?_, ?_⟩
  · exact seed_again activeLater healthy completes.permissions_there completes.roles_there
  · intro has moves spares now draftNow activeNow healthyNow
    have complete := completes.isComplete (identified has)
    have upholds : Traffic.Upholds (IsCompleteFor unitName) (Contract.deletesNoRole unitName)
        ⟨later, []⟩ :=
      ⟨Or.inr ⟨_, activeLater, complete⟩, fun _ none => by cases none⟩
    have run := upholds.run (Contract.isFair_deletesNoRole unitName)
      Traffic.preserves_isCompleteFor (fun event member _ holds => holds.step (spares _ member))
      fun _ _ member deletes _ _ _ => spares _ member deletes
    rcases run.holds with finalized | ⟨other, activeOther, completeNow⟩
    · cases activeNow.symm.trans finalized
    · cases activeNow.symm.trans activeOther
      exact seed_again activeNow healthyNow completeNow.permissions completeNow.roles

/-- A unit finds one of the permissions, and a role that was renamed; another permission and
another role are there only as deleted. -/
def partly : World :=
  let deleted : Permission :=
    { Permission.fresh "Read role" .readRole (.ofNat 2) ⟨0, 0⟩ with deletedAt := some ⟨1, 0⟩ }
  let former : Role := { Role.fresh "Admin" .admin (.ofNat 3) ⟨0, 0⟩ with deletedAt := some ⟨1, 0⟩ }
  fresh.run [.insertPermission (.fresh "Read user" .readUser (.ofNat 1) ⟨0, 0⟩),
    .insertPermission deleted, .insertRole former,
    .insertRole (.fresh "Crew" .staff (.ofNat 4) ⟨0, 0⟩), .begin "unit",
    .call "unit" (.replacePermissions 4 [1])]

def retitling : List Move :=
  [.start "unit" (.updateRole (.ofNat 4) ⟨"Staff", "", true⟩), .advance 0, .advance 0, .advance 0,
    .advance 0, .advance 0]

theorem seed_completes_partly :
    let work : Tables := { partly.committed with attachments := [⟨4, 1⟩] }
    ∃ workspace, (atDesk "unit" (seed Desk.backend)).outcome partly =
        (.ok ⟨11, 7⟩, partly.withWork "unit" partly.committed workspace) ∧
      Completes work workspace.tables ⟨11, 7⟩ ∧
      let seeded := ((atDesk "unit" (seed Desk.backend)).outcome partly).2
      let now := (Traffic.run ⟨seeded, []⟩ retitling).world
      (∃ tables ∈ now.copies, ∃ role ∈ tables.liveRoles, role.title = "Staff" ∧ role.id = 4) ∧
      ((atDesk "unit" (seed Desk.backend)).outcome now).1 = .ok ⟨0, 0⟩ := by
  intro work
  have active : partly.phaseOf "unit" = .active ⟨partly.committed, work⟩ := by decide +kernel
  have room : Workspace.HasRoom ⟨work, partly.surroundings.supply⟩
      (seededKeys.length + roleDefinitions.length) :=
    ⟨by decide +kernel, by decide +kernel, by decide +kernel⟩
  have identifiers : Workspace.HasIdentifiers ⟨work, partly.surroundings.supply⟩
      (seededKeys.length + roleDefinitions.length) := by
    unfold Workspace.HasIdentifiers
    decide +kernel
  rcases seed_completes active rfl room (by decide +kernel) (by decide +kernel) with
    ⟨report, workspace, ends, completes, -, again⟩
  have reported : ((atDesk "unit" (seed Desk.backend)).outcome partly).1 = .ok ⟨11, 7⟩ := by
    decide +kernel
  rw [ends] at reported
  cases reported
  refine ⟨workspace, ends, completes, by decide +kernel, ?_⟩
  have spares : ∀ move ∈ retitling, move.DeletesNoRole "unit" := by
    simp [retitling, Move.DeletesNoRole, Task.deletesRoles]
  let now := (Traffic.run ⟨((atDesk "unit" (seed Desk.backend)).outcome partly).2, []⟩
    retitling).world
  have begun : now.phaseOf "unit" ≠ .idle := by decide +kernel
  have unended : now.phaseOf "unit" ≠ .finalized := by decide +kernel
  have healthy : now.surroundings.failing = [] := by decide +kernel
  have stays := again identifiers retitling spares
  dsimp only at stays
  rw [ends]
  simp only [now, ends] at begun unended healthy
  rcases phase : (Traffic.run ⟨partly.withWork "unit" partly.committed workspace, []⟩
    retitling).world.phaseOf "unit" with _ | draftNow | _
  · exact absurd phase begun
  · rcases stays draftNow phase healthy with ⟨once, endsAgain, -⟩
    rw [endsAgain]
  · exact absurd phase unended

def twins : World :=
  fresh.run [.insertRole (.fresh "Admin" .admin (.ofNat 1) ⟨0, 0⟩),
    .insertRole (.fresh "Staff" .staff (.ofNat 1) ⟨0, 0⟩), .begin "unit"]

def overrun : World :=
  fresh.run [.insertRole { Role.fresh "Admin" .admin (.ofNat 1) ⟨0, 0⟩ with
      id := -9223372036854775796 },
    .insertRole { Role.fresh "Staff" .staff (.ofNat 2) ⟨0, 0⟩ with id := 9223372036854775807 },
    .begin "unit"]

/-- Without identifiers of their own, a role can be given the key of its twin, so that the key it
had is missing. And where the counter comes to a number that is in use, the new role shares it
with an old one, whose permissions are replaced by those of the new one. -/
theorem seed_disturbed :
    (twins.committed.IsSound ∧ twins.surroundings.failing = [] ∧
      twins.phaseOf "unit" = .active ⟨twins.committed, twins.committed⟩ ∧
      let seeded := ((atDesk "unit" (seed Desk.backend)).outcome twins).2
      let renamed := ((atDesk "unit" (updateRole Desk.backend (.ofNat 1)
        ⟨"Staff", "", false⟩)).outcome seeded).2
      ((atDesk "unit" (seed Desk.backend)).outcome renamed).1 = .ok ⟨0, 1⟩) ∧
    overrun.committed.IsSound ∧ overrun.surroundings.failing = [] ∧
      overrun.phaseOf "unit" = .active ⟨overrun.committed, overrun.committed⟩ ∧
      let seeded := ((atDesk "unit" (seed Desk.backend)).outcome overrun).2
      ∃ tables ∈ seeded.copies, ∃ role ∈ overrun.committed.liveRoles,
        overrun.committed.permissionsOfRole role.id = [] ∧
        tables.permissionsOfRole role.id ≠ [] := by
  refine ⟨⟨⟨⟨?_, ?_, ?_⟩, ?_, ?_, ?_⟩, rfl, ?_, ?_⟩, ⟨⟨?_, ?_, ?_⟩, ?_, ?_, ?_⟩, rfl, ?_, ?_⟩ <;>
    decide +kernel

end World
end Entitlement
