import Entitlement.Proofs.Contracts
import Entitlement.Proofs.Stations

/-! # A role keeps the key that is cached

The key of a role goes round: from the working copy of a unit into a listing, from there through
the queue into the cache, and from the cache back into an update. If all of these have the same
key of a role, none of them can ever get another one, whatever the role is renamed to and however
the tasks, the ends of their units and the worker of the queue take turns. -/

namespace Entitlement

open Store Cache

/-! ## Identifiers -/

namespace Uuid

theorem digitChar_injective : Function.Injective digitChar := by
  unfold Function.Injective
  decide

theorem filter_letters (uuid : Uuid) :
    uuid.letters.filter (· ≠ '-') = uuid.digits.map digitChar := by
  have noHyphen : ∀ digit, digitChar digit ≠ '-' := by decide
  have kept : ∀ digits : List (Fin 16),
      (digits.map digitChar).filter (· ≠ '-') = digits.map digitChar := by
    intro digits
    rw [List.filter_eq_self]
    intro letter member
    rcases List.mem_map.mp member with ⟨digit, -, rfl⟩
    simpa using noHyphen digit
  have whole : ∀ digits : List (Fin 16),
      digits.take 8 ++ ((digits.drop 8).take 4 ++ ((digits.drop 12).take 4 ++
        ((digits.drop 16).take 4 ++ digits.drop 20))) = digits := by
    intro digits
    have drops : ∀ count more, digits.drop (count + more) = (digits.drop count).drop more := by
      simp
    rw [drops 16 4, List.take_append_drop, drops 12 4, List.take_append_drop, drops 8 4,
      List.take_append_drop, List.take_append_drop]
  conv_rhs => rw [← whole uuid.digits]
  simp only [letters, ← List.map_take, ← List.map_drop, List.map_append, List.filter_append,
    List.filter_cons, kept, List.append_assoc, List.cons_append]
  rfl

theorem text_injective : Function.Injective text := by
  intro first second equal
  have sameLetters : first.letters = second.letters := String.ofList_injective equal
  have sameDigits := congrArg (List.filter (· ≠ '-')) sameLetters
  rw [filter_letters, filter_letters] at sameDigits
  rcases first with ⟨digits, isLong⟩
  rcases second with ⟨others, isLong'⟩
  cases digitChar_injective.list_map sameDigits
  rfl

end Uuid

def Ambient.NeverMakes (ambient : Ambient) (uuid : Uuid) : Prop :=
  ∀ index, ambient.made ≤ index → ambient.source index ≠ uuid

namespace Store.Supply

structure Continues (supply later : Supply) : Prop where
  source : later.ambient.source = supply.ambient.source
  made : supply.ambient.made ≤ later.ambient.made

theorem Continues.refl (supply : Supply) : supply.Continues supply := ⟨rfl, Nat.le_refl _⟩

theorem Continues.trans {first second third : Supply} (earlier : first.Continues second)
    (later : second.Continues third) : first.Continues third :=
  ⟨later.source.trans earlier.source, Nat.le_trans earlier.made later.made⟩

theorem Continues.neverMakes {supply later : Supply} {uuid : Uuid}
    (continues : supply.Continues later) (unmade : supply.ambient.NeverMakes uuid) :
    later.ambient.NeverMakes uuid := by
  intro index isLater
  rw [continues.source]
  exact unmade index (Nat.le_trans continues.made isLater)

theorem continues_issue (supply : Supply) (grants : List (Instant → Grant)) :
    supply.Continues (supply.issue grants).2 := by
  induction grants generalizing supply with
  | nil => exact Continues.refl supply
  | cons grant grants induction =>
      have here : supply.Continues supply.readClock.2.takeId.2 := ⟨rfl, Nat.le_refl _⟩
      exact here.trans (induction supply.readClock.2.takeId.2)

end Store.Supply

theorem Store.Workspace.Change.continues {α : Type} {workspace later : Workspace} {call : Call α}
    (change : Change workspace call later) : workspace.supply.Continues later.supply := by
  cases change with
  | assignRoles userId roleIds =>
      have here : workspace.supply.Continues workspace.supply.readClock.2 := ⟨rfl, Nat.le_refl _⟩
      exact here.trans (Supply.continues_issue _ _)
  | grantPermissions userId permissionIds chosen sub => exact Supply.continues_issue _ _
  | none | createRole | updateRole | deleteRole | replacePermissions | createPermission =>
      exact ⟨rfl, Nat.le_refl _⟩

theorem Surroundings.continues_after (surroundings : Surroundings) (happening : Happening) :
    surroundings.supply.Continues (surroundings.after happening).supply := by
  cases happening with
  | makeUuid => exact ⟨rfl, Nat.le_succ _⟩
  | _ => exact ⟨rfl, Nat.le_refl _⟩

theorem World.Transition.continues {world later : World} {event : Event}
    (transition : Transition world event later) :
    world.surroundings.supply.Continues later.surroundings.supply := by
  cases transition with
  | call unitName call draft active workspace performed passes =>
      have change := Workspace.perform_change call ⟨draft.work, world.surroundings.supply⟩
      rw [← performed] at change
      exact change.continues
  | insertRole role | insertPermission role =>
      simp only [World.insertRole, World.insertPermission]
      split <;> exact ⟨rfl, Nat.le_refl _⟩
  | around happening => exact world.surroundings.continues_after happening
  | none | refuse | begin | commit | discard => exact Supply.Continues.refl _

/-! ## The key of a role -/

def KeyBatch.Agrees (uuid : Uuid) (key : RoleKey) (batch : KeyBatch) : Prop :=
  ∀ entry ∈ batch, entry.1 = uuid.text → entry.2 = key

def Role.Agree (uuid : Uuid) (key : RoleKey) (roles : List Role) : Prop :=
  ∀ role ∈ roles, role.uuid = uuid → role.key = key

/-- The cache, the batches on their way to it, the committed tables and the working copies of
all active units have the same key of a role. -/
structure World.KeepsKey (world : World) (uuid : Uuid) (key : RoleKey) : Prop where
  station : world.surroundings.station.Holds (·.get? uuid.text = some key) (·.Agrees uuid key)
  committed : Role.Agree uuid key world.committed.roles
  worked : ∀ unitName draft, world.phaseOf unitName = .active draft →
    Role.Agree uuid key draft.work.roles

theorem KeyBatch.Agrees.get?_putAll {uuid : Uuid} {key : RoleKey} {cache : Memory}
    {batch : KeyBatch} (agrees : batch.Agrees uuid key)
    (cached : cache.get? uuid.text = some key) :
    (cache.putAll batch).get? uuid.text = some key := by
  rcases cache.get?_putAll batch uuid.text with same | ⟨written, member, isWritten⟩
  · rw [same, cached]
  · rw [isWritten]
    exact congrArg some (agrees (uuid.text, written) member rfl)

theorem KeyBatch.mem_of_mem_put {entries : KeyBatch} {entry other : String × RoleKey}
    (member : other ∈ entries.put entry) : other = entry ∨ other ∈ entries := by
  rw [put] at member
  split at member
  · rcases List.mem_map.mp member with ⟨present, isPresent, rfl⟩
    split
    · exact Or.inl rfl
    · exact Or.inr isPresent
  · rcases List.mem_append.mp member with old | isNew
    · exact Or.inr old
    · exact Or.inl (List.mem_singleton.mp isNew)

theorem Service.exists_of_mem_defaultKeys {roles : List Role} {entry : String × RoleKey}
    (member : entry ∈ defaultKeys roles) :
    ∃ role ∈ roles, role.isDefault = true ∧ entry = (role.uuid.text, role.key) := by
  have collected : ∀ (defaults : List Role) (batch : KeyBatch),
      entry ∈ defaults.foldl (fun batch role => batch.put (role.uuid.text, role.key)) batch →
        entry ∈ batch ∨ ∃ role ∈ defaults, entry = (role.uuid.text, role.key) := by
    intro defaults
    induction defaults with
    | nil => exact fun _ inBatch => Or.inl inBatch
    | cons role defaults induction =>
        intro batch inAll
        rcases induction _ inAll with inBatch | ⟨other, isOther, equal⟩
        · rcases KeyBatch.mem_of_mem_put inBatch with isRole | old
          · exact Or.inr ⟨role, List.mem_cons_self, isRole⟩
          · exact Or.inl old
        · exact Or.inr ⟨other, List.mem_cons_of_mem role isOther, equal⟩
  rcases collected _ [] member with inNone | ⟨role, isDefault, equal⟩
  · cases inNone
  · rw [List.mem_filter] at isDefault
    exact ⟨role, isDefault.1, isDefault.2, equal⟩

theorem Role.Agree.defaultKeys {uuid : Uuid} {key : RoleKey} {roles : List Role}
    (agree : Role.Agree uuid key roles) : (Service.defaultKeys roles).Agrees uuid key := by
  intro entry member isNamed
  rcases Service.exists_of_mem_defaultKeys member with ⟨role, inRoles, -, rfl⟩
  exact agree role inRoles (Uuid.text_injective isNamed)

/-! ## Calls and events -/

def Call.SparesKey (uuid : Uuid) (key : RoleKey) {α : Type} : Call α → Prop
  | createRole role => role.uuid = uuid → role.key = key
  | updateRole role changed => changed = uuid → role.key = key
  | _ => True

def Event.SparesKey (uuid : Uuid) (key : RoleKey) : Event → Prop
  | call _ asked => asked.SparesKey uuid key
  | insertRole role => role.uuid = uuid → role.key = key
  | around (.offerKeys batch) => batch.Agrees uuid key
  | around (.changeCache cache) => cache.get? uuid.text = some key
  | _ => True

variable {uuid : Uuid} {key : RoleKey}

theorem Role.Agree.append {roles : List Role} {role : Role} (agree : Role.Agree uuid key roles)
    (spares : role.uuid = uuid → role.key = key) : Role.Agree uuid key (roles ++ [role]) := by
  intro other member
  rcases List.mem_append.mp member with old | isNew
  · exact agree other old
  · rw [List.mem_singleton.mp isNew]
    exact spares

theorem Role.Agree.replace {roles before after : List Role} {present changed : Role}
    (agree : Role.Agree uuid key roles) (whole : roles = before ++ present :: after)
    (spares : changed.uuid = uuid → changed.key = key) :
    Role.Agree uuid key (before ++ changed :: after) := by
  intro other member
  rw [whole] at agree
  rcases mem_middle_iff.mp member with rfl | isOther
  · exact spares
  · exact agree other (mem_middle_iff.mpr (Or.inr isOther))

theorem Store.Workspace.Change.agree {α : Type} {workspace later : Workspace} {call : Call α}
    (change : Change workspace call later) (spares : call.SparesKey uuid key)
    (agree : Role.Agree uuid key workspace.tables.roles) :
    Role.Agree uuid key later.tables.roles := by
  cases change with
  | createRole role free => exact agree.append spares
  | updateRole role changed before present after free whole named live =>
      exact agree.replace whole fun same => spares (named.symm.trans same)
  | deleteRole deleted deletedBy before present after whole named optional live =>
      have isThere : present ∈ workspace.tables.roles := by simp [whole]
      exact agree.replace whole (agree present isThere)
  | none | replacePermissions | createPermission | assignRoles | grantPermissions => exact agree

namespace World

theorem KeepsKey.station_after {world : World} (keeps : world.KeepsKey uuid key)
    {happening : Happening} (spares : (Event.around happening).SparesKey uuid key) :
    (world.surroundings.after happening).station.Holds (·.get? uuid.text = some key)
      (·.Agrees uuid key) := by
  have writes : ∀ (cache : Memory) (batch : KeyBatch), cache.get? uuid.text = some key →
      batch.Agrees uuid key → (cache.putAll batch).get? uuid.text = some key :=
    fun _ _ cached agrees => agrees.get?_putAll cached
  cases happening with
  | offerKeys batch => exact keeps.station.offer spares
  | advance milliseconds => exact keeps.station.advance writes milliseconds
  | shutdown => exact keeps.station.shutdown writes
  | changeCache cache => exact ⟨spares, keeps.station.pending⟩
  | countDecision decision => exact keeps.station.note _
  | readClock | makeUuid | disable | enableAll | insertUser => exact keeps.station

theorem KeepsKey.step {world : World} {event : Event} (keeps : world.KeepsKey uuid key)
    (spares : event.SparesKey uuid key) : (world.step event).KeepsKey uuid key := by
  have transition := step_transition world event
  refine ⟨?_, ?_, fun unitName draft active => ?_⟩
  · generalize world.step event = later at transition
    cases transition with
    | around happening => exact keeps.station_after spares
    | none | refuse | begin | call | commit | discard | insertRole | insertPermission =>
        exact keeps.station
  · generalize world.step event = later at transition
    cases transition with
    | commit unitName draft active unrepeated =>
        -- A merged row comes from the committed tables or from the working copy.
        intro role member
        rcases mem_of_mem_mergeRows member with isCommitted | changed
        · exact keeps.committed role isCommitted
        · exact keeps.worked unitName draft active role changed.1
    | insertRole role => exact keeps.committed.append spares
    | none | refuse | begin | call | discard | insertPermission | around => exact keeps.committed
  · cases transition.draftAfter active with
    | begun => exact keeps.committed
    | old _ wasActive => exact keeps.worked unitName draft wasActive
    | worked call wasActive change => exact change.agree spares (keeps.worked unitName _ wasActive)

end World

/-! ## Tasks -/

def Request.SparesKey (uuid : Uuid) (key : RoleKey) {α : Type} : Request α → Prop
  | call asked => asked.SparesKey uuid key
  | offerKeys batch => batch.Agrees uuid key
  | _ => True

def Request.TellsKey (uuid : Uuid) (key : RoleKey) {α : Type} : Request α → α → Prop
  | call .liveRoles, roles => Role.Agree uuid key roles
  | freshUuid, made => made ≠ uuid
  | cachedKey text, found => text = uuid.text → found = some key
  | _, _ => True

def Contract.keepsKey (uuid : Uuid) (key : RoleKey) : Contract where
  may := Request.SparesKey uuid key
  tells := Request.TellsKey uuid key

theorem Contract.isFair_keepsKey (uuid : Uuid) (key : RoleKey) :
    (keepsKey uuid key).IsFair where
  plain := by
    intro α request isPlain _
    cases request with
    | call asked =>
        cases asked with
        | createRole | updateRole | deleteRole => cases isPlain
        | _ => exact True.intro
    | offerKeys batch => cases isPlain
    | _ => exact True.intro
  users := fun _ => True.intro
  creates := fun role isNew same => absurd same isNew
  updates := by
    intro changed role cached isTold isKept same
    exact isKept key (isTold (congrArg Uuid.text same))
  offers := fun roles agree => Role.Agree.defaultKeys agree

def World.Settled (uuid : Uuid) (key : RoleKey) (world : World) : Prop :=
  world.KeepsKey uuid key ∧ world.surroundings.supply.ambient.NeverMakes uuid

namespace World

theorem Settled.step {world : World} {event : Event} (settled : world.Settled uuid key)
    (spares : event.SparesKey uuid key) : (world.step event).Settled uuid key :=
  ⟨settled.1.step spares, (step_transition world event).continues.neverMakes settled.2⟩

theorem preserves_settled :
    Traffic.Preserves (World.Settled uuid key) fun _ => Contract.keepsKey uuid key := by
  intro world unitName α request settled may
  have spares : ∀ event ∈ request.events unitName, event.SparesKey uuid key := by
    intro event member
    cases request with
    | call asked =>
        rw [List.mem_singleton.mp member]
        exact may
    | offerKeys batch =>
        rcases List.mem_pair.mp member with rfl | rfl
        · exact True.intro
        · exact may
    | now | freshUuid | countDecision =>
        rcases List.mem_pair.mp member with rfl | rfl <;> exact True.intro
    | enter | userByUuid | cachedKey =>
        rw [List.mem_singleton.mp member]
        exact True.intro
  have kept := holds_request Settled.step settled spares
  rcases reached : (atDesk unitName (request.perform Desk.backend)).outcome world with
    ⟨answer, later⟩
  rw [reached] at kept
  refine ⟨kept, ?_⟩
  · rintro value rfl
    rcases exists_of_atDesk reached with ⟨desk, answered, -⟩
    cases request with
    | freshUuid =>
        cases answered
        exact settled.2 _ (Nat.le_refl _)
    | cachedKey text =>
        intro isText
        change (world.surroundings.station.cache.read text, _) = _ at answered
        rw [isText, Memory.read] at answered
        split at answered
        · cases answered
        · cases answered
          exact settled.1.station.cache
    | call asked =>
        cases asked with
        | liveRoles =>
            -- What is listed comes from the working copy, which agrees.
            rcases Desk.exists_of_answered answered with ⟨draft, workspace, active, performed, -⟩
            cases performed
            exact fun role member =>
              settled.1.worked unitName draft active role (List.mem_filter.mp member).1
        | _ => exact True.intro
    | _ => exact True.intro

end World

/-! ## Roles stay committed -/

theorem Job.permits_numbers {world : World} {job : Job}
    (lasts : world.surroundings.supply.Lasts job.demand) :
    World.Permits World.Numbers world job.events := by
  rcases job with ⟨unitName, Answer, result | ⟨request, next⟩⟩
  · exact True.intro
  · cases request with
    | call asked => exact ⟨lasts, True.intro⟩
    | enter | userByUuid | cachedKey => exact ⟨lasts, True.intro⟩
    | now | freshUuid | offerKeys | countDecision => exact ⟨lasts, True.intro, True.intro⟩

namespace Traffic

theorem precedes_run {traffic : Traffic} {moves : List Move}
    (reachable : World.Reachable World.Numbers traffic.world)
    (permits : traffic.PermitsAll moves) :
    traffic.world.committed.Precedes (traffic.run moves).world.committed := by
  induction moves generalizing traffic with
  | nil => exact Tables.Precedes.refl _
  | cons move moves induction =>
      rcases permits with ⟨here, rest⟩
      have asEvents : ∃ events, (traffic.move move).world = traffic.world.run events ∧
          World.Permits World.Numbers traffic.world events := by
        cases move with
        | event event => exact ⟨[event], rfl, here.2, True.intro⟩
        | start unitName task => exact ⟨[], rfl, True.intro⟩
        | advance place =>
            rw [Traffic.move]
            rcases found : traffic.underWay[place]? with _ | job
            · exact ⟨[], rfl, True.intro⟩
            · exact ⟨job.events, (job.run_events traffic.world).symm,
                Job.permits_numbers (here job found)⟩
      rcases asEvents with ⟨events, equal, numbers⟩
      have earlier := reachable.precedes_run numbers
      have reached := reachable.run numbers
      rw [← equal] at earlier reached
      exact earlier.trans (induction reached rest)

end Traffic

/-! ## The key is kept -/

def Move.SparesKey (uuid : Uuid) (key : RoleKey) : Move → Prop
  | event occurring => occurring.SparesKey uuid key
  | start _ _ | advance _ => True

namespace Traffic

/-- If the cache, the batches on their way to it, the committed tables and all working copies
have the same key of a role, this stays so, however services take turns in any number of units
that begin, are committed and are rolled back, and whatever becomes of the batches that they
offer. And as no committed role disappears, the role is committed with this key for ever. -/
theorem key_is_kept {world : World} {moves : List Move} (keeps : world.KeepsKey uuid key)
    (unmade : world.surroundings.supply.ambient.NeverMakes uuid)
    (spares : ∀ move ∈ moves, move.SparesKey uuid key) :
    let later := (run ⟨world, []⟩ moves).world
    later.KeepsKey uuid key ∧
      (World.Reachable World.Numbers world → PermitsAll ⟨world, []⟩ moves →
        ∀ role ∈ world.committed.roles, role.uuid = uuid →
          ∃ present ∈ later.committed.roles, role.SameRecord present ∧ present.key = key) := by
  have upholds : Upholds (World.Settled uuid key) (fun _ => Contract.keepsKey uuid key)
      ⟨world, []⟩ := ⟨⟨keeps, unmade⟩, fun _ none => by cases none⟩
  have kept := (upholds.run (fun _ => Contract.isFair_keepsKey uuid key) World.preserves_settled
    (fun event member _ settled => settled.step (spares _ member))
    fun _ _ _ _ _ _ => True.intro).holds.1
  refine ⟨kept, fun reachable permits role isCommitted isNamed => ?_⟩
  rcases (precedes_run reachable permits).roles role isCommitted with ⟨present, isPresent, same⟩
  exact ⟨present, isPresent, same, kept.committed present isPresent (same.uuid.trans isNamed)⟩

def attended : World :=
  let staff : Role := { Role.fresh "Staff" .staff (.ofNat 1) ⟨0, 0⟩ with isDefault := true }
  let cache : Memory := ⟨[((Uuid.ofNat 1).text, .staff)], .sound⟩
  let queue : WriteQueue := ⟨2, 50, [], none, true, true, false⟩
  World.run ⟨.empty, [], { World.fresh.surroundings with station := ⟨cache, some queue, []⟩ }⟩
    [.insertRole staff]

/-- One unit renames the role while another one lists it. The first is committed, the second is
rolled back, and then the listed key is written to the cache. -/
def renameAndList : List Move :=
  [.event (.begin "first"), .event (.begin "second"),
    .start "first" (.updateRole (.ofNat 1) ⟨"Sales", "", true⟩), .start "second" .listRoles,
    .advance 0, .advance 1, .advance 0, .advance 1, .advance 0, .advance 1, .advance 0,
    .advance 0, .event (.commit "first"), .event (.rollback "second"),
    .event (.around (.advance 100))]

theorem key_is_kept_renamed :
    let later := (run ⟨attended, []⟩ renameAndList).world
    later.surroundings.station.notes = [.enqueued, .completed 1] ∧
      later.KeepsKey (.ofNat 1) .staff ∧
      ∃ present ∈ later.committed.roles, present.title = "Sales" ∧ present.key = .staff := by
  intro later
  have keeps : attended.KeepsKey (.ofNat 1) .staff := by
    refine ⟨⟨by decide +kernel, ?_⟩, ?_, ?_⟩
    · intro queue isQueue batch member
      cases isQueue
      cases member
    · unfold Role.Agree
      decide +kernel
    · intro unitName draft active
      cases active
  have unmade : attended.surroundings.supply.ambient.NeverMakes (.ofNat 1) := by
    intro index _ equal
    have version := congrArg (fun uuid : Uuid => uuid.digits[12]?) equal
    have made : (Uuid.random index).digits[12]? = some 4 := by
      simp [Uuid.random, Uuid.length_digitsOf]
    change (Uuid.random index).digits[12]? = (Uuid.ofNat 1).digits[12]? at version
    rw [made] at version
    revert version
    decide
  have spares : ∀ move ∈ renameAndList, move.SparesKey (.ofNat 1) .staff := by
    simp [renameAndList, Move.SparesKey, Event.SparesKey]
  have reachable : World.Reachable World.Numbers attended :=
    World.Reachable.run (.start _ rfl) (by decide)
  rcases key_is_kept keeps unmade spares with ⟨kept, stays⟩
  rcases stays reachable (by decide +kernel) _ List.mem_cons_self rfl with
    ⟨present, isPresent, -, hasKey⟩
  have titles : ∀ role ∈ later.committed.roles, role.title = "Sales" := by decide +kernel
  exact ⟨by decide +kernel, kept, present, isPresent, titles present isPresent, hasKey⟩

end Traffic
end Entitlement
