import Entitlement.Proofs.Assignments
import Entitlement.Proofs.Histories
import Entitlement.Proofs.Titles

/-! # Creating roles

A role is created if its title leads to a key that no live role has. The service looks for the
key and the store looks for it again; both look at the same tables, so they always agree. As long
as the new role is live nobody else gets its key, since every call that changes a role looks for
the key first; and when the role is deleted, its key is free. -/

namespace Entitlement

open Store Service

/-! ## A key of one's own -/

namespace Store

def OwnsKey (roles : List Role) (uuid : Uuid) : Prop :=
  ∀ role ∈ roles, role.uuid = uuid → role.isLive →
    ∀ other ∈ roles, other.isLive → other.key = role.key → other.uuid = uuid

theorem OwnsKey.of_subset {roles fewer : List Role} {uuid : Uuid} (owns : OwnsKey roles uuid)
    (subset : fewer ⊆ roles) : OwnsKey fewer uuid :=
  fun role member named live other isOther =>
    owns role (subset member) named live other (subset isOther)

/-- A role is put among others of which none has its key, unless it has its identifier too. -/
theorem OwnsKey.insert {before after : List Role} {role : Role} {uuid : Uuid}
    (owns : OwnsKey (before ++ after) uuid)
    (isFree : role.isLive → ∀ other ∈ before ++ after, other.isLive → other.key = role.key →
      other.uuid = role.uuid) : OwnsKey (before ++ role :: after) uuid := by
  intro present member named live other isOther otherLive sameKey
  -- What is free is free both ways: it makes no difference which of the two roles was put in.
  rcases mem_middle_iff.mp member with rfl | isPresent <;>
    rcases mem_middle_iff.mp isOther with rfl | isOther
  · exact named
  · exact (isFree live other isOther otherLive sameKey).trans named
  · exact (isFree otherLive present isPresent live sameKey.symm).symm.trans named
  · exact owns present isPresent named live other isOther otherLive sameKey

theorem OwnsKey.append {roles : List Role} {role : Role} {uuid : Uuid} (owns : OwnsKey roles uuid)
    (isFree : role.key ∉ liveKeys roles) : OwnsKey (roles ++ [role]) uuid := by
  refine OwnsKey.insert (by simpa using owns) fun _ other isOther otherLive sameKey => ?_
  rw [List.append_nil] at isOther
  exact absurd ((mem_liveKeys_iff _ _).mpr ⟨other, isOther, otherLive, sameKey⟩) isFree

structure Tables.Reserves (tables : Tables) (uuid : Uuid) : Prop where
  once : (tables.roles.map (·.uuid)).count uuid = 1
  ownsKey : OwnsKey tables.roles uuid

theorem Tables.Reserves.ne_of_mem {tables : Tables} {before after : List Role} {present : Role}
    (reserves : tables.Reserves present.uuid) (whole : tables.roles = before ++ present :: after) :
    ∀ other ∈ before ++ after, other.uuid ≠ present.uuid := by
  intro other isOther sameUuid
  -- The identifier would occur twice.
  have once := reserves.once
  rw [whole, List.map_append, List.map_cons, List.count_append, List.count_cons_self,
    ← Nat.add_assoc, ← List.count_append, ← List.map_append] at once
  have unused : ((before ++ after).map (·.uuid)).count present.uuid = 0 := by omega
  exact List.count_eq_zero.mp unused (sameUuid ▸ List.mem_map_of_mem isOther)

theorem Tables.Reserves.free_of_deleted {tables : Tables} {before after : List Role}
    {present deleted : Role} (reserves : tables.Reserves present.uuid)
    (whole : tables.roles = before ++ present :: after) (live : present.isLive = true)
    (isDeleted : deleted.isLive = false) :
    present.key ∉ liveKeys (before ++ deleted :: after) := by
  intro used
  rcases (mem_liveKeys_iff _ _).mp used with ⟨other, member, otherLive, sameKey⟩
  rcases mem_middle_iff.mp member with rfl | isOther
  · rw [isDeleted] at otherLive
    cases otherLive
  · have owns : OwnsKey (before ++ present :: after) present.uuid := whole ▸ reserves.ownsKey
    exact reserves.ne_of_mem whole other isOther (owns present (mem_middle_iff.mpr (Or.inl rfl)) rfl
      live other (mem_middle_iff.mpr (Or.inr isOther)) otherLive sameKey)

/-- Another role in the place of one with the same identifier must not have the key of others. -/
theorem Tables.Reserves.replace {tables later : Tables} {uuid : Uuid}
    (reserves : tables.Reserves uuid) {before after : List Role} {present changed : Role}
    (whole : tables.roles = before ++ present :: after)
    (wholeLater : later.roles = before ++ changed :: after) (sameUuid : present.uuid = changed.uuid)
    (isFree : changed.isLive → ∀ other ∈ tables.roles, other.isLive → other.key = changed.key →
      other.uuid = changed.uuid) : later.Reserves uuid := by
  have sub : (before ++ after).Sublist tables.roles := whole ▸ sublist_middle before present after
  have sameUuids : later.roles.map (·.uuid) = tables.roles.map (·.uuid) := by
    rw [whole, wholeLater, List.map_append, List.map_append, List.map_cons, List.map_cons, sameUuid]
  refine ⟨sameUuids ▸ reserves.once, wholeLater ▸ OwnsKey.insert ?_ ?_⟩
  · exact reserves.ownsKey.of_subset sub.subset
  · exact fun live other isOther => isFree live other (sub.subset isOther)

theorem Workspace.Change.reserves {α : Type} {workspace later : Workspace} {call : Call α}
    (change : Change workspace call later) {uuid : Uuid}
    (reserves : workspace.tables.Reserves uuid)
    (others : ∀ created ∈ call.newRole?, created.uuid ≠ uuid) : later.tables.Reserves uuid := by
  cases change with
  | none => exact reserves
  | createRole role free =>
      refine ⟨?_, reserves.ownsKey.append (keyInUse_eq_false_iff.mp free)⟩
      rw [List.map_append, List.count_append, reserves.once, List.map_singleton,
        List.count_singleton, if_neg (by simpa using others role rfl)]
  | updateRole role changed before present after free whole named live =>
      exact reserves.replace whole rfl rfl fun _ other isOther otherLive sameKey =>
        (uuid_of_keyInUse_eq_false free isOther otherLive sameKey).trans named.symm
  | deleteRole deleted deletedBy before present after whole named optional live =>
      refine reserves.replace whole rfl rfl fun isLive => ?_
      cases isLive
  | replacePermissions | createPermission | assignRoles | grantPermissions =>
      exact ⟨reserves.once, reserves.ownsKey⟩

end Store

theorem Turn.reserves_replay {tables : Tables} {uuid : Uuid} (reserves : tables.Reserves uuid)
    {turns : List Turn}
    (others : ∀ turn ∈ turns, ∀ created ∈ turn.call.newRole?, created.uuid ≠ uuid) :
    (replay tables turns).Reserves uuid := by
  induction turns generalizing tables with
  | nil => exact reserves
  | cons turn turns induction =>
      rcases List.forall_mem_cons.mp others with ⟨first, rest⟩
      rcases turn.change tables with ⟨later, change, performed⟩
      rw [replay, List.foldl_cons, performed]
      exact induction (change.reserves reserves first) rest

/-! ## What is created -/

def Store.Workspace.newRole (workspace : Workspace) (key : RoleKey) (input : RoleInput) : Role :=
  requestedRole (Text.trim input.title) key input workspace.supply.readClock.2.makeUuid.1
    workspace.supply.readClock.1

structure Store.Workspace.Created (input : RoleInput) (key : RoleKey) (before : Workspace)
    (role : Role) (after : Workspace) : Prop where
  tables : after.tables = { before.tables with roles := before.tables.roles ++ [role] }
  live : role.isLive = true
  key : role.key = key
  title : role.title = Text.trim input.title
  description : role.description = input.description
  isDefault : role.isDefault = input.isDefault
  uuid : role.uuid = before.supply.makeUuid.1
  number : role.id = before.supply.takeId.1
  isNew : before.Orderly → before.supply.Lasts 1 → role.id ∉ before.tables.numbers

theorem Store.Workspace.created_addRole (workspace : Workspace) (key : RoleKey)
    (input : RoleInput) :
    Created input key workspace
      { workspace.newRole key input with id := workspace.supply.takeId.1 }
      (workspace.stamped.addRole (workspace.newRole key input)) where
  tables := rfl
  live := rfl
  key := rfl
  title := rfl
  description := rfl
  isDefault := rfl
  uuid := rfl
  number := rfl
  isNew := fun orderly lasts known =>
    Supply.not_covers_takeId lasts (orderly.numbered.covers _ known)

theorem Store.Workspace.Created.reserves {input : RoleInput} {key : RoleKey}
    {before after : Workspace} {role : Role} (created : Created input key before role after)
    (isFree : key ∉ liveKeys before.tables.roles)
    (isNew : role.uuid ∉ before.tables.roles.map (·.uuid)) : after.tables.Reserves role.uuid := by
  have whole : after.tables.roles = before.tables.roles ++ [role] := by rw [created.tables]
  have unnamed : OwnsKey before.tables.roles role.uuid :=
    fun present member named => absurd (named ▸ List.mem_map_of_mem member) isNew
  refine ⟨?_, whole ▸ unnamed.append (created.key ▸ isFree)⟩
  rw [whole, List.map_append, List.count_append, List.count_eq_zero.mpr isNew, List.map_singleton,
    List.count_singleton_self]

/-! ## The service -/

namespace Desk

section

variable {surroundings : Surroundings} (healthy : surroundings.failing = []) (base : Tables)
  (workspace : Workspace) {input : RoleInput}

theorem outcome_createRole_of_blank (blank : Text.IsAllBlank input.title) (desk : Desk) :
    (createRole backend input).outcome desk =
      (.error (.invalidBody "title" "must not be empty"), desk) := by
  rw [createRole, Action.outcome_bind, Action.outcome_ofExcept, validTitle_of_allBlank blank]

theorem outcome_createRole_of_unmapped (written : ¬ Text.IsAllBlank input.title)
    (unmapped : RoleKey.ofTitle? input.title = none) (desk : Desk) :
    (createRole backend input).outcome desk =
      (.error (.invalidBody "title"
        ("'" ++ Text.trim input.title ++ "' does not map to a known role key")), desk) := by
  rw [createRole, Action.outcome_bind, Action.outcome_ofExcept, validTitle_of_not_allBlank written]
  dsimp only
  rw [Action.outcome_bind, Action.outcome_ofExcept, RoleKey.ofTitle_trim, unmapped]

theorem outcome_createRole_of_mapped {key : RoleKey}
    (mapped : RoleKey.ofTitle? input.title = some key) (desk : Desk) :
    (createRole backend input).outcome desk = (do
      backend.enter .roles
      if ← backend.call (.keyInUse key none) then
        throw (Fault.roleExists key.name)
      let now ← backend.now
      let uuid ← backend.freshUuid
      backend.call (.createRole (requestedRole (Text.trim input.title) key input uuid now)) :
        Action Desk Role).outcome desk := by
  have written := RoleKey.not_allBlank_of_mapped mapped
  rw [createRole, Action.outcome_bind, Action.outcome_ofExcept, validTitle_of_not_allBlank written]
  dsimp only
  rw [Action.outcome_bind, Action.outcome_ofExcept, RoleKey.ofTitle_trim, mapped]

include healthy

theorem outcome_createRole_of_taken {key : RoleKey}
    (mapped : RoleKey.ofTitle? input.title = some key)
    (taken : key ∈ liveKeys workspace.tables.roles) :
    (createRole backend input).outcome (working surroundings base workspace) =
      (.error (.roleExists key.name), working surroundings base workspace) := by
  have used : workspace.tables.keyInUse key none = true := keyInUse_none_iff.mpr taken
  have asked : (Workspace.perform (.keyInUse key none)).outcome workspace =
      (.ok true, workspace) := by
    rw [Workspace.perform, Action.outcome_reading, used]
  rw [outcome_createRole_of_mapped mapped, outcome_enter_working,
    outcome_call_working_of_ok healthy base asked]
  rfl

theorem outcome_createRole_of_free {key : RoleKey}
    (mapped : RoleKey.ofTitle? input.title = some key)
    (isFree : key ∉ liveKeys workspace.tables.roles) :
    (createRole backend input).outcome (working surroundings base workspace) =
      (.ok { workspace.newRole key input with id := workspace.supply.takeId.1 },
        working surroundings base (workspace.stamped.addRole (workspace.newRole key input))) := by
  have unused : workspace.tables.keyInUse key none = false := keyInUse_eq_false_iff.mpr isFree
  have asked : (Workspace.perform (.keyInUse key none)).outcome workspace =
      (.ok false, workspace) := by
    rw [Workspace.perform, Action.outcome_reading, unused]
  rw [outcome_createRole_of_mapped mapped, outcome_enter_working,
    outcome_call_working_of_ok healthy base asked]
  change (backend.call (.createRole (workspace.newRole key input))).outcome
    (working surroundings base workspace.stamped) = _
  exact outcome_createRole_working healthy base unused

theorem exists_createRole_iff :
    (∃ role, ((createRole backend input).outcome (working surroundings base workspace)).1 =
        .ok role) ↔
      ¬ Text.IsAllBlank input.title ∧
        ∃ key, RoleKey.ofTitle? input.title = some key ∧ key ∉ liveKeys workspace.tables.roles := by
  constructor
  · intro succeeds
    rcases succeeds with ⟨role, succeeds⟩
    by_cases blank : Text.IsAllBlank input.title
    · rw [outcome_createRole_of_blank blank] at succeeds
      cases succeeds
    · cases mapped : RoleKey.ofTitle? input.title with
      | none =>
          rw [outcome_createRole_of_unmapped blank mapped] at succeeds
          cases succeeds
      | some key =>
          refine ⟨blank, key, rfl, fun taken => ?_⟩
          rw [outcome_createRole_of_taken healthy base workspace mapped taken] at succeeds
          cases succeeds
  · intro conditions
    rcases conditions with ⟨-, key, mapped, isFree⟩
    rw [outcome_createRole_of_free healthy base workspace mapped isFree]
    exact ⟨_, rfl⟩

theorem outcome_createRole_of_keyInUse (role : Role) :
    let desk := working surroundings base workspace
    let inUse := ((backend.call (.keyInUse role.key none)).outcome desk).1
    let creates := ((backend.call (.createRole role)).outcome desk).1
    (inUse = .ok true ∧ creates = .error (.roleExists role.key.name)) ∨
      inUse = .ok false ∧ ∃ created, creates = .ok created := by
  intro desk inUse creates
  have answers : inUse = .ok (workspace.tables.keyInUse role.key none) := by
    simp only [inUse, desk, outcome_call_working healthy]
    rfl
  cases used : workspace.tables.keyInUse role.key none with
  | false =>
      refine Or.inr ⟨answers.trans (congrArg _ used), { role with id := workspace.supply.takeId.1 },
        ?_⟩
      simp only [creates, desk, outcome_createRole_working healthy base used]
  | true =>
      refine Or.inl ⟨answers.trans (congrArg _ used), ?_⟩
      simp only [creates, desk, outcome_call_working healthy, Workspace.perform,
        Workspace.createRole, Action.outcome_ofOutcome, used, if_true]

theorem outcome_deleteRole_of_ok {uuid : Uuid} {deletedBy : Int} {after : Desk}
    (deleted : (deleteRole backend uuid deletedBy).outcome (working surroundings base workspace) =
      (.ok (), after)) :
    ∃ before present rest, workspace.tables.roles = before ++ present :: rest ∧
      present.uuid = uuid ∧ present.isLive = true ∧
      after = working surroundings base
        ⟨{ workspace.tables with
            roles := before ++ { present with
              deletedAt := some workspace.supply.readClock.1,
              deletedBy := some deletedBy } :: rest },
          workspace.supply.readClock.2⟩ := by
  rw [deleteRole, outcome_enter_working, outcome_call_working healthy] at deleted
  rcases Workspace.outcome_deleteRole uuid deletedBy workspace with
    fails | ⟨before, present, rest, whole, named, -, live, deletes⟩
  · rw [fails] at deleted
    cases deleted
  · rw [deletes] at deleted
    exact ⟨before, present, rest, whole, named, live, (Prod.mk.inj deleted).2.symm⟩

/-- Once a role is deleted that had its key to itself, a title that leads to the key creates a role
again. -/
theorem exists_createRole_of_deleted {role : Role} (member : role ∈ workspace.tables.roles)
    (reserves : workspace.tables.Reserves role.uuid) {deletedBy : Int} {after : Desk}
    (deleted : (deleteRole backend role.uuid deletedBy).outcome
      (working surroundings base workspace) = (.ok (), after))
    (mapped : RoleKey.ofTitle? input.title = some role.key) :
    ∃ renewed, ((createRole backend input).outcome after).1 = .ok renewed := by
  rcases outcome_deleteRole_of_ok healthy base workspace deleted with
    ⟨before, present, rest, whole, named, live, rfl⟩
  rw [whole] at member
  rcases mem_middle_iff.mp member with rfl | isOther
  · have isFree : role.key ∉ liveKeys (before ++ { role with
        deletedAt := some workspace.supply.readClock.1, deletedBy := some deletedBy } :: rest) :=
      reserves.free_of_deleted whole live rfl
    rw [outcome_createRole_of_free healthy base _ mapped isFree]
    exact ⟨_, rfl⟩
  · exact absurd named.symm (Tables.Reserves.ne_of_mem (named ▸ reserves) whole role isOther)

end

end Desk

/-! ## Later in the unit -/

section

variable (tables : Tables) (uuid : Uuid)

/-- While the role with this identifier is live, no title that leads to its key creates a role in a
unit that works on these tables. -/
def Store.Tables.Withholds : Prop :=
  ∀ role ∈ tables.roles, role.uuid = uuid → role.isLive →
    ∀ (surroundings : Surroundings) (base : Tables) (supply : Supply) (input : RoleInput),
      surroundings.failing = [] → RoleKey.ofTitle? input.title = some role.key →
      let desk := Desk.working surroundings base ⟨tables, supply⟩
      (createRole Desk.backend input).outcome desk = (.error (.roleExists role.key.name), desk)

/-- Once the role with this identifier is deleted, any title that leads to its key creates a role
in a unit that works on these tables. -/
def Store.Tables.Releases : Prop :=
  ∀ role ∈ tables.roles, role.uuid = uuid → role.isLive →
    ∀ (surroundings : Surroundings) (base : Tables) (supply : Supply) (deletedBy : Int)
      (after : Desk), surroundings.failing = [] →
      (deleteRole Desk.backend uuid deletedBy).outcome
        (Desk.working surroundings base ⟨tables, supply⟩) = (.ok (), after) →
      ∀ input : RoleInput, RoleKey.ofTitle? input.title = some role.key →
        ∃ created, ((createRole Desk.backend input).outcome after).1 = .ok created

theorem Store.Tables.withholds : tables.Withholds uuid :=
  fun role member _ live _ base _ _ healthy mapped =>
    Desk.outcome_createRole_of_taken healthy base _ mapped
      ((mem_liveKeys_iff _ _).mpr ⟨role, member, live, rfl⟩)

variable {tables uuid}

theorem Store.Tables.Reserves.releases (reserves : tables.Reserves uuid) : tables.Releases uuid := by
  intro role member named live surroundings base supply deletedBy after healthy deleted input mapped
  subst named
  exact Desk.exists_createRole_of_deleted healthy base _ member reserves deleted mapped

end

/-! ## Creation -/

/-- In an active unit in which nothing is made to fail, a role is created exactly if its title is
not blank and leads to a key that no live role has; otherwise the first of these conditions that
is not met is reported and nothing is changed. The store looks for the key in the same way. Whatever
the unit calls later, the new role withholds its key while it is live; and if no other role was or
is given its identifier, it releases the key when it is deleted. -/
theorem role_created_iff {surroundings : Surroundings} (healthy : surroundings.failing = [])
    (base : Tables) (workspace : Workspace) (input : RoleInput) :
    let desk := Desk.working surroundings base workspace
    let created := (createRole Desk.backend input).outcome desk
    ((∃ role, created.1 = .ok role) ↔ ¬ Text.IsAllBlank input.title ∧
      ∃ key, RoleKey.ofTitle? input.title = some key ∧ key ∉ liveKeys workspace.tables.roles) ∧
    (Text.IsAllBlank input.title →
      created = (.error (.invalidBody "title" "must not be empty"), desk)) ∧
    (¬ Text.IsAllBlank input.title → RoleKey.ofTitle? input.title = none →
      created = (.error (.invalidBody "title"
        ("'" ++ Text.trim input.title ++ "' does not map to a known role key")), desk)) ∧
    (∀ key, RoleKey.ofTitle? input.title = some key → key ∈ liveKeys workspace.tables.roles →
      created = (.error (.roleExists key.name), desk)) ∧
    (∀ key, RoleKey.ofTitle? input.title = some key → key ∉ liveKeys workspace.tables.roles →
      ∃ role later, created = (.ok role, Desk.working surroundings base later) ∧
        Workspace.Created input key workspace role later ∧
        ∀ turns : List Turn,
          (Turn.replay later.tables turns).Withholds role.uuid ∧
          (role.uuid ∉ workspace.tables.roles.map (·.uuid) →
            (∀ turn ∈ turns, ∀ other ∈ turn.call.newRole?, other.uuid ≠ role.uuid) →
            (Turn.replay later.tables turns).Releases role.uuid)) ∧
    ∀ role,
      let inUse := ((Desk.backend.call (.keyInUse role.key none)).outcome desk).1
      let creates := ((Desk.backend.call (.createRole role)).outcome desk).1
      (inUse = .ok true ∧ creates = .error (.roleExists role.key.name)) ∨
        inUse = .ok false ∧ ∃ stored, creates = .ok stored := by
  intro desk created
  refine ⟨Desk.exists_createRole_iff healthy base workspace,
    fun blank => Desk.outcome_createRole_of_blank blank desk,
    fun written unmapped => Desk.outcome_createRole_of_unmapped written unmapped desk,
    fun key => Desk.outcome_createRole_of_taken healthy base workspace,
    fun key mapped isFree => ?_, Desk.outcome_createRole_of_keyInUse healthy base workspace⟩
  have made := workspace.created_addRole key input
  refine ⟨_, _, Desk.outcome_createRole_of_free healthy base workspace mapped isFree, made,
    fun turns => ⟨Tables.withholds _ _, fun isNew others => ?_⟩⟩
  exact (Turn.reserves_replay (made.reserves isFree isNew) others).releases

/-- The role that has the key is deleted, so the key is free. The new role is given to a user, and a
call to change it is refused since another role has the key that is asked for. -/
theorem role_created_iff_staffed :
    let input : RoleInput := ⟨"\u00a0 Admin - ", "Runs the shop", false⟩
    let surroundings := World.fresh.surroundings
    ∃ role later,
      (createRole Desk.backend input).outcome (Desk.working surroundings .empty .staffed) =
        (.ok role, Desk.working surroundings .empty later) ∧
      role.id = 13 ∧ role.key = .admin ∧ role.title = "Admin -" ∧
      role.description = "Runs the shop" ∧
      later.tables = { Workspace.staffed.tables with
        roles := Workspace.staffed.tables.roles ++ [role] } ∧
      let changed := Turn.replay later.tables [⟨.assignRoles 7 [13], later.supply, false⟩,
        ⟨.updateRole (.fresh "Staff" .staff role.uuid ⟨0, 0⟩) role.uuid, later.supply, false⟩]
      changed.Withholds role.uuid ∧ changed.Releases role.uuid := by
  intro input surroundings
  have healthy : surroundings.failing = [] := rfl
  have isFree : RoleKey.admin ∉ liveKeys Workspace.staffed.tables.roles := by decide +kernel
  rcases (role_created_iff healthy .empty .staffed input).2.2.2.2.1 .admin (by decide +kernel)
    isFree with ⟨role, later, creates, created, keeps⟩
  refine ⟨role, later, creates, ?_, created.key, ?_, created.description, created.tables, ?_⟩
  · rw [created.number]
    decide +kernel
  · rw [created.title]
    decide +kernel
  · intro changed
    have isNew : role.uuid ∉ Workspace.staffed.tables.roles.map (·.uuid) := by
      rw [created.uuid]
      decide +kernel
    exact ⟨(keeps _).1, (keeps _).2 isNew (by simp [Call.newRole?])⟩

end Entitlement
