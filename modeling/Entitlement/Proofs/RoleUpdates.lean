import Entitlement.Proofs.Identifiers
import Entitlement.Proofs.RoleKeys
import Entitlement.Proofs.Runs
import Entitlement.Proofs.Titles
import Entitlement.Proofs.WorkingCopies

/-! # Updating roles

A role that is updated gets the key that is cached for it, or else the key of its new title. The
key may be its own, but not that of another live role. Title, cache, key and role are looked at in
this order, and the first obstacle is reported before anything is written; so an update changes one
row as it was asked to, or nothing. -/

namespace Entitlement

open Store Service

/-! ## The key -/

/-- The key that a role is to have: the cached one, or that of its title if none is cached. -/
inductive Cache.Memory.Gives (cache : Memory) (uuid : Uuid) (title : String) : RoleKey → Prop where
  | cached {key : RoleKey} (found : cache.read uuid.text = .ok (some key)) :
      Gives cache uuid title key
  | derived {key : RoleKey} (missing : cache.read uuid.text = .ok none)
      (mapped : RoleKey.ofTitle? title = some key) : Gives cache uuid title key

theorem Cache.Memory.fault_of_read {cache : Memory} {text : String} {fault : Fault}
    (unread : cache.read text = .error fault) : fault = .server "role_cache.get" := by
  rw [read] at unread
  split at unread
  · exact (Except.error.inj unread).symm
  · cases unread

namespace Store.Tables

def IsTaken (tables : Tables) (key : RoleKey) (uuid : Uuid) : Prop :=
  ∃ other ∈ tables.roles, other.isLive ∧ other.key = key ∧ other.uuid ≠ uuid

def HasLiveRole (tables : Tables) (uuid : Uuid) : Prop :=
  ∃ role ∈ tables.roles, role.isLive ∧ role.uuid = uuid

instance (tables : Tables) (key : RoleKey) (uuid : Uuid) : Decidable (tables.IsTaken key uuid) :=
  inferInstanceAs (Decidable (∃ other ∈ tables.roles, _))

instance (tables : Tables) (uuid : Uuid) : Decidable (tables.HasLiveRole uuid) :=
  inferInstanceAs (Decidable (∃ role ∈ tables.roles, _))

theorem keyInUse_some_iff {tables : Tables} {key : RoleKey} {uuid : Uuid} :
    tables.keyInUse key (some uuid) = true ↔ tables.IsTaken key uuid := by
  rw [keyInUse_eq_true_iff, IsTaken]
  simp

theorem keyInUse_eq_false_of_not_isTaken {tables : Tables} {key : RoleKey} {uuid : Uuid}
    (isFree : ¬ tables.IsTaken key uuid) : tables.keyInUse key (some uuid) = false := by
  rwa [← Bool.not_eq_true, keyInUse_some_iff]

theorem not_hasLiveRole_iff {tables : Tables} {uuid : Uuid} :
    ¬ tables.HasLiveRole uuid ↔ tables.roleByUuid? uuid = none := by
  rw [roleByUuid?_eq_none_iff, HasLiveRole]
  push Not
  rfl

theorem not_isTaken_of_own {tables : Tables} (keysDistinct : tables.LiveKeysDistinct) {role : Role}
    (member : role ∈ tables.roles) (live : role.isLive = true) :
    ¬ tables.IsTaken role.key role.uuid := by
  intro taken
  rcases taken with ⟨other, isOther, otherLive, sameKey, different⟩
  have same : other = role :=
    keysDistinct.eq_of_key ⟨isOther, otherLive⟩ ⟨member, live⟩ sameKey
  exact different (congrArg Role.uuid same)

end Store.Tables

/-- What is reported if a role cannot be updated: the first obstacle, in the order in which title,
cache, key and role are looked at. -/
inductive UpdateRefused (cache : Cache.Memory) (tables : Tables) (uuid : Uuid) (title : String) :
    Fault → Prop where
  | blank (blank : Text.IsAllBlank title) :
      UpdateRefused cache tables uuid title (.invalidBody "title" "must not be empty")
  | unread (written : ¬ Text.IsAllBlank title)
      (unread : cache.read uuid.text = .error (.server "role_cache.get")) :
      UpdateRefused cache tables uuid title (.server "role_cache.get")
  | unmapped (written : ¬ Text.IsAllBlank title) (missing : cache.read uuid.text = .ok none)
      (unmapped : RoleKey.ofTitle? title = none) :
      UpdateRefused cache tables uuid title (.invalidBody "title"
        ("'" ++ Text.trim title ++ "' does not map to a known role key"))
  | taken {key : RoleKey} (written : ¬ Text.IsAllBlank title) (gives : cache.Gives uuid title key)
      (taken : tables.IsTaken key uuid) :
      UpdateRefused cache tables uuid title (.roleExists key.name)
  | absent {key : RoleKey} (written : ¬ Text.IsAllBlank title) (gives : cache.Gives uuid title key)
      (isFree : ¬ tables.IsTaken key uuid) (absent : ¬ tables.HasLiveRole uuid) :
      UpdateRefused cache tables uuid title (.noRows "role.update")

structure Updatable (cache : Cache.Memory) (tables : Tables) (uuid : Uuid) (title : String)
    (key : RoleKey) : Prop where
  written : ¬ Text.IsAllBlank title
  gives : cache.Gives uuid title key
  isFree : ¬ tables.IsTaken key uuid
  hasLiveRole : tables.HasLiveRole uuid

theorem updateRefused_or_updatable (cache : Cache.Memory) (tables : Tables) (uuid : Uuid)
    (title : String) :
    (∃ fault, UpdateRefused cache tables uuid title fault) ∨
      ∃ key, Updatable cache tables uuid title key := by
  by_cases blank : Text.IsAllBlank title
  · exact Or.inl ⟨_, .blank blank⟩
  · have ofKey (key : RoleKey) (gives : cache.Gives uuid title key) :
        (∃ fault, UpdateRefused cache tables uuid title fault) ∨
          ∃ key, Updatable cache tables uuid title key := by
      by_cases taken : tables.IsTaken key uuid
      · exact Or.inl ⟨_, .taken blank gives taken⟩
      · by_cases present : tables.HasLiveRole uuid
        · exact Or.inr ⟨key, blank, gives, taken, present⟩
        · exact Or.inl ⟨_, .absent blank gives taken present⟩
    cases answer : cache.read uuid.text with
    | error fault => exact Or.inl ⟨_, .unread blank (Cache.Memory.fault_of_read answer ▸ answer)⟩
    | ok cached? =>
        cases cached? with
        | some key => exact ofKey key (.cached answer)
        | none =>
            cases mapped : RoleKey.ofTitle? title with
            | none => exact Or.inl ⟨_, .unmapped blank answer mapped⟩
            | some key => exact ofKey key (.derived answer mapped)

/-! ## What is changed -/

namespace Store.Workspace

def later (workspace : Workspace) : Workspace :=
  { workspace with supply := workspace.supply.readClock.2 }

def updatedRole (workspace : Workspace) (present : Role) (key : RoleKey) (input : RoleInput) :
    Role :=
  { present with
    title := Text.trim input.title, key := key, description := input.description,
    isDefault := input.isDefault, updatedAt := workspace.later.supply.readClock.1 }

structure Updated (uuid : Uuid) (key : RoleKey) (input : RoleInput) (before : Workspace)
    (role : Role) (after : Workspace) : Prop where
  row : ∃ front present back, before.tables.roles = front ++ present :: back ∧
    present.uuid = uuid ∧ present.isLive = true ∧ role = before.updatedRole present key input ∧
    after = { before.later.later with
      tables := { before.tables with roles := front ++ role :: back } }
  keysDistinct : after.tables.LiveKeysDistinct

theorem outcome_updateRole_of_free (workspace : Workspace) {uuid : Uuid} (role : Role)
    (isFree : ¬ workspace.tables.IsTaken role.key uuid)
    (hasLiveRole : workspace.tables.HasLiveRole uuid) :
    ∃ front present back, workspace.tables.roles = front ++ present :: back ∧
      present.uuid = uuid ∧ present.isLive = true ∧
      let changed : Role :=
        { present with
          title := role.title, key := role.key, description := role.description,
          isDefault := role.isDefault, updatedAt := workspace.supply.readClock.1 }
      (perform (.updateRole role uuid)).outcome workspace =
        (.ok changed, { workspace.later with
          tables := { workspace.tables with roles := front ++ changed :: back } }) := by
  rcases Option.ne_none_iff_exists'.mp
    (Tables.not_hasLiveRole_iff.not.mp (not_not.mpr hasLiveRole)) with ⟨present, found⟩
  rcases changeFirst?_of_find? (fun present : Role => { present with
      title := role.title, key := role.key, description := role.description,
      isDefault := role.isDefault, updatedAt := workspace.supply.readClock.1 }) found with
    ⟨front, back, whole, changes⟩
  rcases Tables.of_roleByUuid? found with ⟨-, live, named⟩
  refine ⟨front, present, back, whole, named, live, ?_⟩
  rw [perform, updateRole, Action.outcome_ofOutcome,
    Tables.keyInUse_eq_false_of_not_isTaken isFree]
  dsimp only [readClock]
  rw [if_neg Bool.false_ne_true, changes]
  rfl

theorem outcome_updateRole_of_absent (workspace : Workspace) {uuid : Uuid} (role : Role)
    (isFree : ¬ workspace.tables.IsTaken role.key uuid)
    (absent : ¬ workspace.tables.HasLiveRole uuid) :
    (perform (.updateRole role uuid)).outcome workspace =
      (.error (.noRows "role.update"), workspace) := by
  rw [perform, updateRole, Action.outcome_ofOutcome,
    Tables.keyInUse_eq_false_of_not_isTaken isFree]
  dsimp only
  rw [if_neg Bool.false_ne_true,
    changeFirst?_of_find?_eq_none _ (Tables.not_hasLiveRole_iff.mp absent)]
  rfl

end Store.Workspace

/-! ## The service -/

namespace Desk

theorem outcome_cachedKey (desk : Desk) (text : String) :
    (backend.cachedKey text).outcome desk =
      (desk.surroundings.station.cache.read text, desk) := rfl

section

variable {uuid : Uuid} {input : RoleInput}

theorem outcome_updateRole_of_blank (blank : Text.IsAllBlank input.title) (desk : Desk) :
    (updateRole backend uuid input).outcome desk =
      (.error (.invalidBody "title" "must not be empty"), desk) := by
  rw [updateRole, Action.outcome_bind, Action.outcome_ofExcept, validTitle_of_allBlank blank]

variable (written : ¬ Text.IsAllBlank input.title) (desk : Desk)

include written

theorem outcome_updateRole_of_unread {fault : Fault}
    (unread : desk.surroundings.station.cache.read uuid.text = .error fault) :
    (updateRole backend uuid input).outcome desk = (.error fault, desk) := by
  simp only [updateRole, Action.outcome_bind, Action.outcome_ofExcept,
    validTitle_of_not_allBlank written, outcome_cachedKey, unread]

theorem outcome_updateRole_of_unmapped
    (missing : desk.surroundings.station.cache.read uuid.text = .ok none)
    (unmapped : RoleKey.ofTitle? input.title = none) :
    (updateRole backend uuid input).outcome desk =
      (.error (.invalidBody "title"
        ("'" ++ Text.trim input.title ++ "' does not map to a known role key")), desk) := by
  simp only [updateRole, Action.outcome_bind, Action.outcome_ofExcept,
    validTitle_of_not_allBlank written, outcome_cachedKey, missing, RoleKey.ofTitle_trim, unmapped]

theorem outcome_updateRole_of_gives {key : RoleKey}
    (gives : desk.surroundings.station.cache.Gives uuid input.title key) :
    (updateRole backend uuid input).outcome desk = (do
      backend.enter .roles
      if ← backend.call (.keyInUse key (some uuid)) then
        throw (Fault.roleExists key.name)
      let now ← backend.now
      backend.call (.updateRole (requestedRole (Text.trim input.title) key input uuid now) uuid) :
        Action Desk Role).outcome desk := by
  rw [updateRole, Action.outcome_bind, Action.outcome_ofExcept, validTitle_of_not_allBlank written]
  dsimp only
  rw [Action.outcome_bind, outcome_cachedKey]
  cases gives with
  | cached found =>
      rw [found]
      rfl
  | derived missing mapped =>
      rw [missing]
      dsimp only
      rw [Action.outcome_bind, Action.outcome_ofExcept, RoleKey.ofTitle_trim, mapped]

end

section

variable {surroundings : Surroundings} (healthy : surroundings.failing = []) (base : Tables)
  (workspace : Workspace) {uuid : Uuid} {input : RoleInput} {key : RoleKey}
  (written : ¬ Text.IsAllBlank input.title)
  (gives : surroundings.station.cache.Gives uuid input.title key)

include healthy written gives

theorem outcome_updateRole_of_taken (taken : workspace.tables.IsTaken key uuid) :
    (updateRole backend uuid input).outcome (working surroundings base workspace) =
      (.error (.roleExists key.name), working surroundings base workspace) := by
  have asked : (Workspace.perform (.keyInUse key (some uuid))).outcome workspace =
      (.ok true, workspace) := by
    rw [Workspace.perform, Action.outcome_reading, Tables.keyInUse_some_iff.mpr taken]
  rw [outcome_updateRole_of_gives written _ gives, outcome_enter_working,
    outcome_call_working_of_ok healthy base asked]
  rfl

theorem outcome_updateRole_of_not_taken (isFree : ¬ workspace.tables.IsTaken key uuid) :
    (updateRole backend uuid input).outcome (working surroundings base workspace) =
      (backend.call (.updateRole (requestedRole (Text.trim input.title) key input uuid
        workspace.supply.readClock.1) uuid)).outcome
          (working surroundings base workspace.later) := by
  have asked : (Workspace.perform (.keyInUse key (some uuid))).outcome workspace =
      (.ok false, workspace) := by
    rw [Workspace.perform, Action.outcome_reading,
      Tables.keyInUse_eq_false_of_not_isTaken isFree]
  rw [outcome_updateRole_of_gives written _ gives, outcome_enter_working,
    outcome_call_working_of_ok healthy base asked]
  rfl

end

section

variable {surroundings : Surroundings} (healthy : surroundings.failing = []) (base : Tables)
  (workspace : Workspace) {uuid : Uuid} {input : RoleInput}

include healthy

theorem outcome_updateRole_of_refused {fault : Fault}
    (refused : UpdateRefused surroundings.station.cache workspace.tables uuid input.title fault) :
    ∃ left ∈ [workspace, workspace.later],
      (updateRole backend uuid input).outcome (working surroundings base workspace) =
        (.error fault, working surroundings base left) := by
  cases refused with
  | blank blank => exact ⟨workspace, List.mem_cons_self, outcome_updateRole_of_blank blank _⟩
  | unread written unread =>
      exact ⟨workspace, List.mem_cons_self, outcome_updateRole_of_unread written _ unread⟩
  | unmapped written missing unmapped =>
      exact ⟨workspace, List.mem_cons_self,
        outcome_updateRole_of_unmapped written _ missing unmapped⟩
  | taken written gives taken =>
      exact ⟨workspace, List.mem_cons_self,
        outcome_updateRole_of_taken healthy base workspace written gives taken⟩
  | absent written gives isFree absent =>
      refine ⟨workspace.later, List.mem_cons_of_mem _ List.mem_cons_self, ?_⟩
      rw [outcome_updateRole_of_not_taken healthy base workspace written gives isFree,
        outcome_call_working healthy,
        Workspace.outcome_updateRole_of_absent workspace.later (requestedRole _ _ _ _ _) isFree
          absent]

theorem outcome_updateRole_of_updatable (distinct : (workspace.tables.roles.map (·.uuid)).Nodup)
    (keysDistinct : workspace.tables.LiveKeysDistinct) {key : RoleKey}
    (updatable : Updatable surroundings.station.cache workspace.tables uuid input.title key) :
    ∃ role after, (updateRole backend uuid input).outcome (working surroundings base workspace) =
        (.ok role, working surroundings base after) ∧
      Workspace.Updated uuid key input workspace role after := by
  rcases updatable with ⟨written, gives, isFree, hasLiveRole⟩
  rcases Workspace.outcome_updateRole_of_free workspace.later
      (requestedRole (Text.trim input.title) key input uuid workspace.supply.readClock.1)
      isFree hasLiveRole with
    ⟨front, present, back, whole, named, live, changes⟩
  have whole : workspace.tables.roles = front ++ present :: back := whole
  refine ⟨_, _, ?_, ⟨front, present, back, whole, named, live, rfl, rfl⟩, ?_⟩
  · rw [outcome_updateRole_of_not_taken healthy base workspace written gives isFree,
      outcome_call_working healthy, changes]
    rfl
  · rw [Tables.LiveKeysDistinct, whole] at keysDistinct
    refine nodup_liveKeys_change keysDistinct live fun _ isOther => isFree ?_
    -- Another role with the key has another identifier, so it would have been found.
    rcases (mem_liveKeys_iff _ _).mp isOther with ⟨other, member, otherLive, sameKey⟩
    exact ⟨other, whole ▸ (sublist_middle front present back).subset member, otherLive, sameKey,
      named ▸ key_ne_of_others (whole ▸ distinct) other member⟩

theorem outcome_updateRole_cases (distinct : (workspace.tables.roles.map (·.uuid)).Nodup)
    (keysDistinct : workspace.tables.LiveKeysDistinct) (uuid : Uuid) (input : RoleInput) :
    let updated := (updateRole backend uuid input).outcome (working surroundings base workspace)
    (∃ fault,
      UpdateRefused surroundings.station.cache workspace.tables uuid input.title fault ∧
        ∃ left ∈ [workspace, workspace.later],
          updated = (.error fault, working surroundings base left)) ∨
      ∃ key, Updatable surroundings.station.cache workspace.tables uuid input.title key ∧
        ∃ role after, updated = (.ok role, working surroundings base after) ∧
          Workspace.Updated uuid key input workspace role after := by
  rcases updateRefused_or_updatable surroundings.station.cache workspace.tables uuid input.title
    with ⟨fault, refused⟩ | ⟨key, updatable⟩
  · exact Or.inl ⟨fault, refused, outcome_updateRole_of_refused healthy base workspace refused⟩
  · exact Or.inr ⟨key, updatable,
      outcome_updateRole_of_updatable healthy base workspace distinct keysDistinct updatable⟩

end

end Desk

/-! ## Updates -/

/-- In an active unit in which nothing is made to fail, and whose roles have distinct identifiers
and live keys, a role is updated exactly if the title is not blank, the cache or else the title
gives a key, no other live role has this key, and the role is live. Then this role alone is changed
as it was asked for, and gets the key. Otherwise the first obstacle is reported and nothing is
changed. The key that a role has is never an obstacle for itself. -/
theorem role_updated_iff {surroundings : Surroundings} (healthy : surroundings.failing = [])
    (base : Tables) {workspace : Workspace}
    (distinct : (workspace.tables.roles.map (·.uuid)).Nodup)
    (keysDistinct : workspace.tables.LiveKeysDistinct) (uuid : Uuid) (input : RoleInput) :
    let cache := surroundings.station.cache
    let updated := (updateRole Desk.backend uuid input).outcome
      (Desk.working surroundings base workspace)
    ((∃ role, updated.1 = .ok role) ↔ ¬ Text.IsAllBlank input.title ∧
      ∃ key, cache.Gives uuid input.title key ∧ ¬ workspace.tables.IsTaken key uuid ∧
        workspace.tables.HasLiveRole uuid) ∧
    (∀ role, updated.1 = .ok role →
      ∃ key later, cache.Gives uuid input.title key ∧
        updated = (.ok role, Desk.working surroundings base later) ∧
        Workspace.Updated uuid key input workspace role later) ∧
    (∀ fault, updated.1 = .error fault ↔
      UpdateRefused cache workspace.tables uuid input.title fault) ∧
    (∀ fault, updated.1 = .error fault →
      ∃ left ∈ [workspace, workspace.later],
        updated = (.error fault, Desk.working surroundings base left)) ∧
    ∀ role ∈ workspace.tables.roles, role.isLive → role.uuid = uuid →
      ¬ Text.IsAllBlank input.title → cache.Gives uuid input.title role.key →
        ∃ changed, updated.1 = .ok changed := by
  intro cache updated
  have concluded := Desk.outcome_updateRole_cases healthy base workspace distinct keysDistinct
    uuid input
  have updates {key : RoleKey}
      (updatable : Updatable cache workspace.tables uuid input.title key) :
      ∃ role, updated.1 = .ok role := by
    rcases Desk.outcome_updateRole_of_updatable healthy base workspace distinct keysDistinct
      updatable with ⟨role, after, succeeds, -⟩
    exact ⟨role, congrArg Prod.fst succeeds⟩
  refine ⟨⟨fun succeeds => ?_, fun conditions => ?_⟩, fun role succeeds => ?_,
    fun fault => ⟨fun fails => ?_, fun refused => ?_⟩, fun fault fails => ?_,
    fun role member live named written gives => ?_⟩
  · rcases concluded with ⟨fault, -, left, -, fails⟩ | ⟨key, updatable, -⟩
    · rcases succeeds with ⟨role, succeeds⟩
      cases succeeds.symm.trans (congrArg Prod.fst fails)
    · exact ⟨updatable.written, key, updatable.gives, updatable.isFree, updatable.hasLiveRole⟩
  · rcases conditions with ⟨written, key, gives, isFree, hasLiveRole⟩
    exact updates ⟨written, gives, isFree, hasLiveRole⟩
  · rcases concluded with
      ⟨fault, -, left, -, fails⟩ | ⟨key, updatable, _, later, changes, isUpdated⟩
    · cases succeeds.symm.trans (congrArg Prod.fst fails)
    · cases succeeds.symm.trans (congrArg Prod.fst changes)
      exact ⟨key, later, updatable.gives, changes, isUpdated⟩
  · rcases concluded with ⟨_, refused, left, -, reports⟩ | ⟨key, -, role, later, changes, -⟩
    · cases fails.symm.trans (congrArg Prod.fst reports)
      exact refused
    · cases fails.symm.trans (congrArg Prod.fst changes)
  · rcases Desk.outcome_updateRole_of_refused healthy base workspace refused with ⟨left, -, fails⟩
    exact congrArg Prod.fst fails
  · rcases concluded with ⟨_, -, left, isLeft, reports⟩ | ⟨key, -, role, later, changes, -⟩
    · cases fails.symm.trans (congrArg Prod.fst reports)
      exact ⟨left, isLeft, reports⟩
    · cases fails.symm.trans (congrArg Prod.fst changes)
  · subst named
    exact updates ⟨written, gives, Tables.not_isTaken_of_own keysDistinct member live,
      role, member, live, rfl⟩

/-- The cache has the key of the administrators for the first role, and this key is free since the
role that had it is deleted. So the role gets it, although its new title leads to another key, which
is taken: without the cache the update is refused. -/
theorem role_updated_iff_staffed :
    let input : RoleInput := ⟨" Sales ", "Sells", true⟩
    let surroundings := World.fresh.surroundings
    let cached := surroundings.after
      (.changeCache (Cache.Memory.empty.put (Uuid.ofNat 1).text .admin))
    (∃ role later,
      (updateRole Desk.backend (.ofNat 1) input).outcome (Desk.working cached .empty .staffed) =
        (.ok role, Desk.working cached .empty later) ∧
      Workspace.Updated (.ofNat 1) .admin input .staffed role later ∧
      role.id = 1 ∧ role.title = "Sales") ∧
    ((updateRole Desk.backend (.ofNat 1) input).outcome
      (Desk.working surroundings .empty .staffed)).1 = .error (.roleExists "SALES") := by
  intro input surroundings cached
  have healthy : surroundings.failing = [] := rfl
  have healthyCached : cached.failing = [] := rfl
  have distinct : (Workspace.staffed.tables.roles.map (·.uuid)).Nodup := by decide +kernel
  have keysDistinct : Workspace.staffed.tables.LiveKeysDistinct := by decide +kernel
  have written : ¬ Text.IsAllBlank input.title := by decide +kernel
  constructor
  · rcases role_updated_iff healthyCached .empty distinct keysDistinct (.ofNat 1) input with
      ⟨succeeds, changes, -⟩
    have gives : cached.station.cache.Gives (.ofNat 1) input.title .admin :=
      .cached (by decide +kernel)
    have isFree : ¬ Workspace.staffed.tables.IsTaken .admin (.ofNat 1) := by decide +kernel
    have hasLiveRole : Workspace.staffed.tables.HasLiveRole (.ofNat 1) := by decide +kernel
    rcases succeeds.mpr ⟨written, .admin, gives, isFree, hasLiveRole⟩ with ⟨role, succeeds⟩
    rcases changes role succeeds with ⟨key, later, -, updated, isUpdated⟩
    have answer : ((updateRole Desk.backend (.ofNat 1) input).outcome
        (Desk.working cached .empty .staffed)).1.map
          (fun role => (role.id, role.key, role.title)) = .ok (1, .admin, "Sales") := by
      decide +kernel
    rw [succeeds] at answer
    have fields := Except.ok.inj answer
    simp only [Prod.mk.injEq] at fields
    rcases isUpdated.row with ⟨front, present, back, -, -, -, rfl, -⟩
    obtain rfl : key = .admin := fields.2.1
    exact ⟨_, later, updated, isUpdated, fields.1, fields.2.2⟩
  · rcases role_updated_iff healthy .empty distinct keysDistinct (.ofNat 1) input with
      ⟨-, -, fails, -⟩
    have gives : surroundings.station.cache.Gives (.ofNat 1) input.title .sales :=
      .derived (by decide +kernel) (by decide +kernel)
    have taken : Workspace.staffed.tables.IsTaken .sales (.ofNat 1) := by decide +kernel
    exact (fails _).mpr (.taken written gives taken)

end Entitlement
