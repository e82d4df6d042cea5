import Entitlement.Proofs.Isolation
import Entitlement.Proofs.Separation

/-! # What becomes of rows

A unit changes the rows that it found when it began in allowed ways only, and meanwhile no
row is removed from the committed tables: a role stays the same record, a permission stays as
it is, and a grant is revoked at most once and for ever. A commit keeps this although the unit
may have begun long before, because what it changed was committed already when it began. -/

namespace Entitlement

open Store

namespace Store

/-! ## One table -/

def Grows {α : Type} (becomes : α → α → Prop) (earlier later : List α) : Prop :=
  ∃ added, GrowsBy becomes earlier later added

theorem forall₂_trans {α : Type} {becomes : α → α → Prop} {first second third : List α}
    (transitive : ∀ row changed later, becomes row changed → becomes changed later →
      becomes row later)
    (earlier : List.Forall₂ becomes first second) (later : List.Forall₂ becomes second third) :
    List.Forall₂ becomes first third := by
  induction earlier generalizing third with
  | nil => exact later
  | cons change _ induction =>
      cases later with
      | cons further rest => exact .cons (transitive _ _ _ change further) (induction rest)

theorem Grows.trans {α : Type} {becomes : α → α → Prop} {first second third : List α}
    (transitive : ∀ row changed later, becomes row changed → becomes changed later →
      becomes row later)
    (earlier : Grows becomes first second) (later : Grows becomes second third) :
    Grows becomes first third := by
  rcases earlier with ⟨added, present, all, rfl⟩
  rcases later with ⟨addedLater, presentLater, allLater, rfl⟩
  have old := List.forall₂_take present.length allLater
  rw [List.take_left] at old
  refine ⟨presentLater.drop present.length ++ addedLater, presentLater.take present.length, ?_, ?_⟩
  · exact forall₂_trans transitive all old
  · rw [← List.append_assoc, List.take_append_drop]

section

variable {α κ : Type} {key : α → κ} {becomes : α → α → Prop} {earlier later : List α}

theorem Grows.kept (grows : Grows becomes earlier later) :
    ∀ row ∈ earlier, ∃ changed ∈ later, becomes row changed := by
  rcases grows with ⟨added, growsBy⟩
  exact growsBy.kept

theorem Grows.origin (grows : Grows becomes earlier later)
    (sameKey : ∀ row changed, becomes row changed → key changed = key row)
    (distinct : (later.map key).Nodup) {changed : α} (member : changed ∈ later)
    (known : key changed ∈ earlier.map key) : ∃ row ∈ earlier, becomes row changed := by
  rcases grows with ⟨added, growsBy⟩
  rcases growsBy.origin changed member with old | isNew
  · exact old
  · rw [growsBy.map_key sameKey] at distinct
    exact absurd rfl ((List.nodup_append.mp distinct).2.2 _ known _ (List.mem_map_of_mem isNew))

theorem Grows.distinct (grows : Grows becomes earlier later)
    (sameKey : ∀ row changed, becomes row changed → key changed = key row)
    (distinct : (later.map key).Nodup) : (earlier.map key).Nodup := by
  rcases grows with ⟨added, growsBy⟩
  rw [growsBy.map_key sameKey] at distinct
  exact (List.nodup_append.mp distinct).1

variable [DecidableEq α] [DecidableEq κ] {relates : α → α → Prop} {committed base work : List α}

/-- A merge keeps a row as it was committed or as the unit left it, if the unit has removed
no row. -/
theorem exists_mem_mergeRows (distinct : (committed.map key).Nodup)
    (distinctWork : (work.map key).Nodup)
    (undropped : ∀ row ∈ base, key row ∈ work.map key) {row : α} (member : row ∈ committed)
    (same : relates row row)
    (changed : ∀ worked ∈ work, worked ∉ base → key worked = key row → relates row worked) :
    ∃ after ∈ mergeRows key committed base work, relates row after := by
  by_cases changes : ∃ worked ∈ work, worked ∉ base ∧ key worked = key row
  · rcases changes with ⟨worked, inWork, isChanged, sameKey⟩
    refine ⟨worked, ?_, changed worked inWork isChanged sameKey⟩
    exact (mem_mergeRows_iff distinct distinctWork).mpr (Or.inl ⟨inWork, isChanged⟩)
  · refine ⟨row, (mem_mergeRows_iff distinct distinctWork).mpr (Or.inr ⟨member, ?_, ?_⟩), same⟩
    · intro inBase
      rcases List.mem_map.mp inBase with ⟨began, isBegan, sameKey⟩
      rw [← sameKey]
      exact undropped began isBegan
    · intro worked inWork sameKey
      by_contra isChanged
      exact changes ⟨worked, inWork, isChanged, sameKey⟩

/-- What a unit made of its copy and what became of the committed table since go together: a
merge relates each committed row to the row that takes its place. -/
theorem Grows.merge (grows : Grows becomes base work)
    (sameKey : ∀ row changed, becomes row changed → key changed = key row)
    (sameKeyRelated : ∀ row other, relates row other → key other = key row)
    (same : ∀ row, relates row row)
    (fork : ∀ began present worked, relates began present → becomes began worked →
      worked ≠ began → relates present worked)
    (distinct : (committed.map key).Nodup) (distinctWork : (work.map key).Nodup)
    (separate : ∀ row ∈ committed, key row ∈ work.map key → key row ∈ base.map key)
    (kept : ∀ row ∈ base, ∃ present ∈ committed, relates row present) :
    ∀ row ∈ committed, ∃ after ∈ mergeRows key committed base work, relates row after := by
  intro row member
  apply exists_mem_mergeRows distinct distinctWork ?_ member (same row)
  · intro worked inWork isChanged equal
    have known : key row ∈ base.map key :=
      separate row member (equal ▸ List.mem_map_of_mem inWork)
    rcases grows.origin sameKey distinctWork inWork (equal ▸ known) with ⟨began, inBase, change⟩
    rcases kept began inBase with ⟨present, isPresent, related⟩
    -- What is committed under the key comes from the same row as what the unit made of it.
    have isRow : present = row := by
      apply List.inj_on_of_nodup_map distinct isPresent member
      rw [sameKeyRelated began present related, ← sameKey began worked change, equal]
    rw [← isRow]
    exact fork began present worked related change fun unchanged => isChanged (unchanged ▸ inBase)
  · intro began inBase
    rcases grows.kept began inBase with ⟨worked, inWork, change⟩
    exact List.mem_map.mpr ⟨worked, inWork, sameKey began worked change⟩

end

/-! ## All tables -/

namespace Tables

structure Develops (earlier later : Tables) : Prop where
  roles : Grows Role.Becomes earlier.roles later.roles
  permissions : Grows Eq earlier.permissions later.permissions
  grants : Grows Grant.Becomes earlier.grants later.grants

structure Precedes (earlier later : Tables) : Prop where
  roles : ∀ role ∈ earlier.roles, ∃ present ∈ later.roles, role.SameRecord present
  permissions : ∀ permission ∈ earlier.permissions, ∃ present ∈ later.permissions,
    permission = present
  grants : ∀ grant ∈ earlier.grants, ∃ present ∈ later.grants, grant.Becomes present

theorem Develops.refl (tables : Tables) : tables.Develops tables where
  roles := ⟨[], GrowsBy.refl (fun _ => .refl) _⟩
  permissions := ⟨[], GrowsBy.refl (fun _ => rfl) _⟩
  grants := ⟨[], GrowsBy.refl Grant.Becomes.refl _⟩

theorem Develops.trans {first second third : Tables} (earlier : first.Develops second)
    (later : second.Develops third) : first.Develops third where
  roles := earlier.roles.trans (fun _ _ _ => Relation.ReflTransGen.trans) later.roles
  permissions := earlier.permissions.trans (fun _ _ _ => Eq.trans) later.permissions
  grants := earlier.grants.trans (fun _ _ _ => Grant.Becomes.trans) later.grants

theorem Precedes.refl (tables : Tables) : tables.Precedes tables where
  roles := fun role member => ⟨role, member, Role.SameRecord.refl role⟩
  permissions := fun permission member => ⟨permission, member, rfl⟩
  grants := fun grant member => ⟨grant, member, Grant.Becomes.refl grant⟩

theorem Precedes.trans {first second third : Tables} (earlier : first.Precedes second)
    (later : second.Precedes third) : first.Precedes third where
  roles := by
    intro role member
    rcases earlier.roles role member with ⟨present, isPresent, same⟩
    rcases later.roles present isPresent with ⟨last, isLast, stillSame⟩
    exact ⟨last, isLast, same.trans stillSame⟩
  permissions := by
    intro permission member
    rcases earlier.permissions permission member with ⟨present, isPresent, rfl⟩
    exact later.permissions permission isPresent
  grants := by
    intro grant member
    rcases earlier.grants grant member with ⟨present, isPresent, becomes⟩
    rcases later.grants present isPresent with ⟨last, isLast, becomesLater⟩
    exact ⟨last, isLast, becomes.trans becomesLater⟩

theorem Develops.precedes {earlier later : Tables} (develops : earlier.Develops later) :
    earlier.Precedes later where
  roles := by
    intro role member
    rcases develops.roles.kept role member with ⟨present, isPresent, becomes⟩
    exact ⟨present, isPresent, becomes.sameRecord⟩
  permissions := develops.permissions.kept
  grants := develops.grants.kept

/-- If a unit changed a grant, it has revoked it, so the grant is revoked whatever others made
of it. -/
theorem becomes_of_fork {began present worked : Grant} (since : began.Becomes present)
    (change : began.Becomes worked) (changed : worked ≠ began) : present.Becomes worked where
  sameContent := by rw [change.sameContent, since.sameContent]
  staysRevoked := fun _ => change.eq_or_revoked.resolve_left changed

theorem Develops.merge {committed base work : Tables} (develops : base.Develops work)
    (precedes : base.Precedes committed) (distinct : committed.IdsDistinct)
    (distinctWork : work.IdsDistinct)
    (separate : ∀ kind, ∀ id ∈ committed.ids kind, id ∈ work.ids kind → id ∈ base.ids kind) :
    committed.Precedes (committed.merge base work) where
  roles := develops.roles.merge (fun _ _ becomes => becomes.sameRecord.id)
    (fun _ _ same => same.id) Role.SameRecord.refl
    (fun _ _ _ since change _ => since.symm.trans change.sameRecord) distinct.roles
    distinctWork.roles (fun _ member => separate .role _ (List.mem_map_of_mem member))
    precedes.roles
  permissions := develops.permissions.merge (fun _ _ equal => congrArg _ equal.symm)
    (fun _ _ equal => congrArg _ equal.symm) (fun _ => rfl)
    (fun _ _ _ _ equal changed => absurd equal.symm changed) distinct.permissions
    distinctWork.permissions
    (fun _ member => separate .permission _ (List.mem_map_of_mem member)) precedes.permissions
  grants := develops.grants.merge (fun _ _ becomes => becomes.id) (fun _ _ becomes => becomes.id)
    Grant.Becomes.refl (fun _ _ _ => becomes_of_fork) distinct.grants distinctWork.grants
    (fun _ member => separate .grant _ (List.mem_map_of_mem member)) precedes.grants

end Tables

theorem Workspace.Change.develops {α : Type} {workspace later : Workspace} {call : Call α}
    (change : Change workspace call later) : workspace.tables.Develops later.tables := by
  rcases change.growth with ⟨added, growth, -⟩
  exact ⟨⟨_, growth.roles.imp fun _ _ => .single⟩, ⟨_, growth.permissions⟩, ⟨_, growth.grants⟩⟩

end Store

namespace Turn

theorem change (turn : Turn) (tables : Tables) :
    ∃ later, Workspace.Change ⟨tables, turn.supply⟩ turn.call later ∧
      (turn.perform tables).2 = later.tables := by
  rw [perform]
  split
  · exact ⟨_, .none turn.call, rfl⟩
  · exact ⟨_, Workspace.perform_change turn.call _, rfl⟩

theorem develops_replay (tables : Tables) (turns : List Turn) :
    tables.Develops (replay tables turns) := by
  induction turns generalizing tables with
  | nil => exact Tables.Develops.refl tables
  | cons turn turns induction =>
      rcases turn.change tables with ⟨later, change, performed⟩
      have rest := induction (turn.perform tables).2
      rw [performed] at rest
      rw [replay, List.foldl_cons, performed]
      exact change.develops.trans rest

end Turn

/-! ## Units -/

namespace World

inductive DraftAfter (world : World) (unitName : String) : Event → Draft → Prop where
  | begun : DraftAfter world unitName (.begin unitName) ⟨world.committed, world.committed⟩
  | old (event : Event) {draft : Draft} (active : world.phaseOf unitName = .active draft) :
      DraftAfter world unitName event draft
  | worked {α : Type} (call : Call α) {draft : Draft}
      (active : world.phaseOf unitName = .active draft) {workspace : Workspace}
      (change : Workspace.Change ⟨draft.work, world.surroundings.supply⟩ call workspace) :
      DraftAfter world unitName (.call unitName call) { draft with work := workspace.tables }

theorem Transition.draftAfter {world later : World} {event : Event} {unitName : String}
    {draft : Draft} (transition : Transition world event later)
    (active : later.phaseOf unitName = .active draft) :
    DraftAfter world unitName event draft := by
  cases transition with
  | none => exact .old _ active
  | refuse caller call =>
      rw [phaseOf_setPhase] at active
      split at active
      · rename_i same
        subst same
        exact .old _ active
      · exact .old _ active
  | begin beginner idle =>
      rw [phaseOf_setPhase] at active
      split at active
      · rename_i same
        subst same
        cases active
        exact .begun
      · exact .old _ active
  | call caller call draft wasActive workspace performed passes =>
      change (world.setPhase caller _).phaseOf unitName = _ at active
      rw [phaseOf_setPhase] at active
      split at active
      · rename_i same
        subst same
        cases active
        refine .worked call wasActive ?_
        rw [performed]
        exact Workspace.perform_change call _
      · exact .old _ active
  | commit ender draft wasActive unrepeated =>
      change (world.setPhase ender _).phaseOf unitName = _ at active
      rw [phaseOf_setPhase] at active
      split at active
      · cases active
      · exact .old _ active
  | discard ender event ending draft wasActive =>
      rw [phaseOf_setPhase] at active
      split at active
      · cases active
      · exact .old _ active
  | insertRole role => exact .old _ active
  | insertPermission permission => exact .old _ active
  | around happening => exact .old _ active

def Dated (world : World) : Prop :=
  ∀ unitName draft, world.phaseOf unitName = .active draft →
    draft.base.Develops draft.work ∧ draft.base.Precedes world.committed

theorem Separate.known {world : World} (separate : world.Separate) {unitName : String}
    {draft : Draft} (active : world.phaseOf unitName = .active draft) (kind : Kind) :
    ∀ id ∈ world.committed.ids kind, id ∈ draft.work.ids kind → id ∈ draft.base.ids kind := by
  intro id isCommitted inWork
  by_contra isNew
  have issued : (world.phaseOf unitName).Issued kind id := by
    rw [active]
    exact ⟨inWork, isNew⟩
  exact (separate unitName kind id issued).1 isCommitted

theorem Transition.precedes {world later : World} {event : Event}
    (transition : Transition world event later) (orderly : world.Orderly)
    (separate : world.Separate) (dated : world.Dated) :
    world.committed.Precedes later.committed := by
  cases transition with
  | none | refuse | begin | call | discard | around => exact Tables.Precedes.refl _
  | commit unitName draft active unrepeated =>
      rcases dated unitName draft active with ⟨develops, precedes⟩
      exact develops.merge precedes
        (orderly _ (committed_mem_copies world)).distinct.toIdsDistinct
        (orderly _ (work_mem_copies active)).distinct.toIdsDistinct (separate.known active)
  | insertRole role =>
      have same := Tables.Precedes.refl world.committed
      refine ⟨fun present member => ?_, same.permissions, same.grants⟩
      exact ⟨present, List.mem_append_left _ member, Role.SameRecord.refl present⟩
  | insertPermission permission =>
      have same := Tables.Precedes.refl world.committed
      refine ⟨same.roles, fun present member => ?_, same.grants⟩
      exact ⟨present, List.mem_append_left _ member, rfl⟩

theorem Transition.dated {world later : World} {event : Event}
    (transition : Transition world event later) (orderly : world.Orderly)
    (separate : world.Separate) (dated : world.Dated) : later.Dated := by
  have precedes := transition.precedes orderly separate dated
  intro unitName draft active
  cases transition.draftAfter active with
  | begun => exact ⟨Tables.Develops.refl _, precedes⟩
  | old _ wasActive =>
      have sinceBegin := dated unitName draft wasActive
      exact ⟨sinceBegin.1, sinceBegin.2.trans precedes⟩
  | worked call wasActive change =>
      have sinceBegin := dated unitName _ wasActive
      exact ⟨sinceBegin.1.trans change.develops, sinceBegin.2.trans precedes⟩

/-! ## Runs -/

theorem Reachable.dated {world : World} (reachable : Reachable Numbers world) : world.Dated := by
  induction reachable with
  | start surroundings unused => exact fun _ _ active => by cases active
  | step event reachable _ induction =>
      exact (step_transition _ event).dated reachable.orderly reachable.separate induction

theorem Reachable.precedes_run {world : World} {events : List Event}
    (reachable : Reachable Numbers world) (permits : Permits Numbers world events) :
    world.committed.Precedes (world.run events).committed := by
  induction events generalizing world with
  | nil => exact Tables.Precedes.refl _
  | cons event events induction =>
      have here := (step_transition world event).precedes reachable.orderly reachable.separate
        reachable.dated
      exact here.trans (induction (reachable.step event permits.1) permits.2)

/-! ## What stays for ever -/

end World

namespace Store

theorem relates_of_same_key {α κ : Type} {key : α → κ} {relates : α → α → Prop}
    {earlier later : List α} (distinct : (later.map key).Nodup)
    (sameKey : ∀ row other, relates row other → key other = key row)
    (kept : ∀ row ∈ earlier, ∃ present ∈ later, relates row present) :
    ∀ row ∈ earlier, ∀ present ∈ later, key present = key row → relates row present := by
  intro row member present isPresent equal
  rcases kept row member with ⟨other, isOther, related⟩
  have same : other = present := List.inj_on_of_nodup_map distinct isOther isPresent
    ((sameKey row other related).trans equal.symm)
  rw [← same]
  exact related

theorem Tables.Precedes.ids {earlier later : Tables} (precedes : earlier.Precedes later)
    (kind : Kind) : ∀ id ∈ earlier.ids kind, id ∈ later.ids kind := by
  intro id member
  cases kind with
  | role =>
      rcases List.mem_map.mp member with ⟨role, inTable, rfl⟩
      rcases precedes.roles role inTable with ⟨present, isPresent, same⟩
      exact List.mem_map.mpr ⟨present, isPresent, same.id⟩
  | permission =>
      rcases List.mem_map.mp member with ⟨permission, inTable, rfl⟩
      rcases precedes.permissions permission inTable with ⟨present, isPresent, rfl⟩
      exact List.mem_map_of_mem isPresent
  | grant =>
      rcases List.mem_map.mp member with ⟨grant, inTable, rfl⟩
      rcases precedes.grants grant inTable with ⟨present, isPresent, becomes⟩
      exact List.mem_map.mpr ⟨present, isPresent, becomes.id⟩

end Store

namespace World

/-- Whatever units do and however they are interleaved, what is committed stays committed: a
number never disappears, a role keeps its identifier and its moment of creation, a permission
does not change at all, and a grant keeps everything but its revocation. A grant that is
revoked is never live again, although a unit that began before may still have it as a live
grant when it is committed. -/
theorem committed_for_ever {world : World} {events : List Event}
    (reachable : Reachable Numbers world) (permits : Permits Numbers world events) :
    let later := (world.run events).committed
    (∀ kind, ∀ id ∈ world.committed.ids kind, id ∈ later.ids kind) ∧
      (∀ role ∈ world.committed.roles, ∀ present ∈ later.roles, present.id = role.id →
        present.uuid = role.uuid ∧ present.createdAt = role.createdAt) ∧
      (∀ permission ∈ world.committed.permissions, ∀ present ∈ later.permissions,
        present.id = permission.id → present = permission) ∧
      ∀ grant ∈ world.committed.grants, ∀ present ∈ later.grants, present.id = grant.id →
        present.userId = grant.userId ∧ present.roleId = grant.roleId ∧
          present.permissionId = grant.permissionId ∧ present.createdAt = grant.createdAt ∧
            (grant.isLive = false → present.isLive = false) := by
  intro later
  have precedes : world.committed.Precedes later := reachable.precedes_run permits
  have distinct := ((reachable.run permits).orderly _ (committed_mem_copies _)).distinct
  refine ⟨precedes.ids, ?_, ?_, ?_⟩
  · intro role isCommitted present isPresent sameId
    have same := relates_of_same_key distinct.roles (fun _ _ same => Role.SameRecord.id same)
      precedes.roles role isCommitted present isPresent sameId
    exact ⟨same.uuid, same.createdAt⟩
  · intro permission isCommitted present isPresent sameId
    exact (relates_of_same_key distinct.permissions (fun _ _ equal => congrArg _ equal.symm)
      precedes.permissions permission isCommitted present isPresent sameId).symm
  · intro grant isCommitted present isPresent sameId
    have becomes := relates_of_same_key distinct.grants
      (fun _ _ becomes => Grant.Becomes.id becomes)
      precedes.grants grant isCommitted present isPresent sameId
    refine ⟨becomes.userId, ?_, ?_, ?_, becomes.staysRevoked⟩
    · rw [becomes.sameContent]
    · rw [becomes.sameContent]
    · rw [becomes.sameContent]

/-- A user is given a role. Then one unit begins, and another revokes the grant and is
committed. -/
def revocation : List Event :=
  [.begin "first", .call "first" (.assignRoles 7 [1]), .commit "first", .begin "stale",
    .begin "second", .call "second" (.assignRoles 7 []), .commit "second"]

def belatedness : List Event :=
  [.call "stale" (.grantPermissions 7 [2])]

theorem committed_for_ever_belated :
    let world := (fresh.run stocking).run revocation
    (∃ draft, (world.run belatedness).phaseOf "stale" = .active draft ∧
        (draft.work.liveGrants 7).map (·.id) = [3, 4]) ∧
      ((world.run (belatedness ++ [.commit "stale"])).committed.liveGrants 7).map (·.id) = [4] ∧
      ∀ present ∈ (world.run (belatedness ++ [.commit "stale"])).committed.grants,
        present.id = 3 → present.isLive = false := by
  have reachable : Reachable Numbers ((fresh.run stocking).run revocation) :=
    Reachable.run (Reachable.run (.start fresh.surroundings rfl) (by decide)) (by decide)
  have permits : Permits Numbers ((fresh.run stocking).run revocation)
    (belatedness ++ [.commit "stale"]) := by decide
  have revoked : ∃ grant ∈ ((fresh.run stocking).run revocation).committed.grants,
      grant.id = 3 ∧ grant.isLive = false := by decide
  refine ⟨⟨_, rfl, by decide⟩, by decide, fun present isPresent named => ?_⟩
  rcases revoked with ⟨grant, isCommitted, isNamed, gone⟩
  exact ((committed_for_ever reachable permits).2.2.2 grant isCommitted present isPresent
    (named.trans isNamed.symm)).2.2.2.2 gone

end World
end Entitlement
