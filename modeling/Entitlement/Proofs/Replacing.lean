import Entitlement.Proofs.Histories
import Entitlement.Proofs.Holdings

/-! # Replacing what roles and users have

A call can replace all permissions of a role, or all grants of a user. In the working copy the
role or the user then has what the last such call gave. A commit, however, merges row by row:
rows that were committed since the unit began stay beside those of the unit, and a permission
that was attached already when the unit began is lost if it was detached meanwhile. -/

namespace Entitlement

open Store

/-! ## Calls that write -/

def Call.attachesTo {α : Type} (roleId : Int) : Call α → Bool
  | replacePermissions written _ => written = roleId
  | _ => false

def Call.grantsTo {α : Type} (userId : Int) : Call α → Bool
  | assignRoles written _ | grantPermissions written _ => written = userId
  | _ => false

namespace Turn

def EndsWith {α : Type} (writes : Turn → Bool) (call : Call α) (own : List Turn) : Prop :=
  ∃ earlier supply later, own = earlier ++ ⟨call, supply, false⟩ :: later ∧
    ∀ turn ∈ later, writes turn = false

theorem view_replay {β : Type} (view : Tables → β) {turns : List Turn}
    (same : ∀ turn ∈ turns, ∀ tables, view (turn.perform tables).2 = view tables)
    (tables : Tables) : view (replay tables turns) = view tables := by
  induction turns generalizing tables with
  | nil => rfl
  | cons turn turns induction =>
      rw [replay, List.foldl_cons]
      exact (induction (fun other member => same other (List.mem_cons_of_mem _ member)) _).trans
        (same turn List.mem_cons_self tables)

theorem replay_split (tables : Tables) (earlier later : List Turn) (turn : Turn) :
    replay tables (earlier ++ turn :: later) =
      replay (turn.perform (replay tables earlier)).2 later := by
  rw [replay_append, replay, List.foldl_cons]
  rfl

end Turn

/-! ## Permissions of a role -/

namespace Store

theorem Tables.mem_attachedIds_iff (tables : Tables) (roleId id : Int) :
    id ∈ tables.attachedIds roleId ↔ ⟨roleId, id⟩ ∈ tables.attachments := by
  simp only [attachedIds, List.mem_mergeSort, List.mem_map, List.mem_filter, decide_eq_true_eq]
  constructor
  · intro given
    rcases given with ⟨row, ⟨member, rfl⟩, rfl⟩
    exact member
  · intro member
    exact ⟨_, ⟨member, rfl⟩, rfl⟩

/-! ### Links that were put in the place of others -/

section

variable {roleId : Int} (attachments : List Attachment) {links : List Attachment}
  (own : ∀ link ∈ links, link.roleId = roleId)

include own

theorem filter_replaced :
    (attachments.filter (·.roleId ≠ roleId) ++ links).filter (·.roleId = roleId) = links := by
  have noneKept : (attachments.filter (·.roleId ≠ roleId)).filter (·.roleId = roleId) = [] := by
    simp
  have allNew : links.filter (·.roleId = roleId) = links :=
    List.filter_eq_self.mpr fun link member => decide_eq_true (own link member)
  rw [List.filter_append, noneKept, allNew, List.nil_append]

theorem filter_replaced_ne :
    (attachments.filter (·.roleId ≠ roleId) ++ links).filter (·.roleId ≠ roleId) =
      attachments.filter (·.roleId ≠ roleId) := by
  have noneNew : links.filter (·.roleId ≠ roleId) = [] :=
    List.filter_eq_nil_iff.mpr fun link member => by simp [own link member]
  rw [List.filter_append, List.filter_filter, noneNew, List.append_nil]
  exact List.filter_congr fun row _ => Bool.and_self _

theorem filter_replaced_other {other : Int} (different : other ≠ roleId) :
    (attachments.filter (·.roleId ≠ roleId) ++ links).filter (·.roleId = other) =
      attachments.filter (·.roleId = other) := by
  have noneNew : links.filter (·.roleId = other) = [] :=
    List.filter_eq_nil_iff.mpr fun link member => by simp [own link member, different.symm]
  rw [List.filter_append, List.filter_filter, noneNew, List.append_nil]
  refine List.filter_congr fun row _ => ?_
  by_cases isOther : row.roleId = other
  · simp [isOther, different]
  · simp [isOther]

end

theorem Workspace.Change.attachedIds {α : Type} {workspace later : Workspace} {call : Call α}
    (change : Change workspace call later) {roleId : Int}
    (unwritten : call.attachesTo roleId = false) :
    later.tables.attachedIds roleId = workspace.tables.attachedIds roleId := by
  cases change with
  | replacePermissions written ids =>
      have different : roleId ≠ written := by
        simpa [Call.attachesTo, eq_comm] using unwritten
      have own : ∀ link ∈ ids.eraseDups.map fun id => (⟨written, id⟩ : Attachment),
          link.roleId = written := by
        simp
      simp only [Tables.attachedIds, filter_replaced_other _ own different]
  | none | createRole | updateRole | deleteRole | createPermission | assignRoles
  | grantPermissions => rfl

end Store

theorem Turn.mem_attachedIds_replay {own : List Turn} {roleId : Int} {ids : List Int}
    (last : EndsWith (·.call.attachesTo roleId) (.replacePermissions roleId ids) own)
    (tables : Tables) (id : Int) : id ∈ (replay tables own).attachedIds roleId ↔ id ∈ ids := by
  rcases last with ⟨earlier, supply, later, rfl, unwritten⟩
  rw [replay_split, view_replay (·.attachedIds roleId)]
  · rw [Tables.mem_attachedIds_iff]
    change (⟨roleId, id⟩ : Attachment) ∈ (replay tables earlier).attachments.filter
      (·.roleId ≠ roleId) ++ ids.eraseDups.map (fun id => ⟨roleId, id⟩) ↔ _
    simp [List.mem_eraseDups]
  · intro turn member tables
    rcases turn.change tables with ⟨next, change, performed⟩
    rw [performed]
    exact change.attachedIds (unwritten turn member)

/-- An attachment is as in the working copy if the unit has made or removed it, and else as it
is committed. -/
theorem Store.Tables.mem_attachedIds_merge {committed base work : Tables}
    (distinct : committed.KeysDistinct) (distinctWork : work.KeysDistinct) (roleId id : Int) :
    id ∈ (committed.merge base work).attachedIds roleId ↔
      (id ∈ work.attachedIds roleId ∧ id ∉ base.attachedIds roleId) ∨
        id ∈ committed.attachedIds roleId ∧
          (id ∈ base.attachedIds roleId ↔ id ∈ work.attachedIds roleId) := by
  have keyOf : ∀ (rows : List Attachment) (row : Attachment),
      (row.roleId, row.permissionId) ∈ rows.map (fun row => (row.roleId, row.permissionId)) ↔
        row ∈ rows := by
    intro rows row
    constructor
    · intro member
      rcases List.mem_map.mp member with ⟨⟨_, _⟩, inRows, equal⟩
      cases equal
      exact inRows
    · exact fun member => List.mem_map_of_mem member
  simp only [mem_attachedIds_iff, merge]
  rw [mem_mergeRows_iff distinct.attachments distinctWork.attachments, keyOf, keyOf]
  refine or_congr_right (and_congr_right fun _ => ?_)
  constructor
  · intro given
    exact ⟨given.1, fun inWork => given.2 _ inWork rfl⟩
  · intro same
    refine ⟨same.mp, fun changed inWork equal => ?_⟩
    rcases changed with ⟨_, _⟩
    cases equal
    exact same.mpr inWork

theorem Store.Tables.attachedIds_merge_iff {committed base work : Tables}
    (distinct : committed.KeysDistinct) (distinctWork : work.KeysDistinct) {roleId : Int}
    {ids : List Int} (written : ∀ id, id ∈ work.attachedIds roleId ↔ id ∈ ids) :
    (∀ id, id ∈ (committed.merge base work).attachedIds roleId ↔ id ∈ ids) ↔
      (∀ id ∈ committed.attachedIds roleId, id ∉ base.attachedIds roleId → id ∈ ids) ∧
        ∀ id ∈ ids, id ∈ base.attachedIds roleId → id ∈ committed.attachedIds roleId := by
  simp only [mem_attachedIds_merge distinct distinctWork, written]
  constructor
  · intro replaced
    constructor
    · intro id isCommitted isNew
      by_contra unwritten
      exact unwritten ((replaced id).mp
        (Or.inr ⟨isCommitted, fun isOld => absurd isOld isNew, fun isWritten =>
          absurd isWritten unwritten⟩))
    · intro id isWritten isOld
      rcases (replaced id).mpr isWritten with ⟨-, isNew⟩ | ⟨isCommitted, -⟩
      · exact absurd isOld isNew
      · exact isCommitted
  · intro given id
    constructor
    · intro member
      rcases member with ⟨isWritten, -⟩ | ⟨isCommitted, same⟩
      · exact isWritten
      · by_cases isOld : id ∈ base.attachedIds roleId
        · exact same.mp isOld
        · exact given.1 id isCommitted isOld
    · intro isWritten
      by_cases isOld : id ∈ base.attachedIds roleId
      · exact Or.inr ⟨given.2 id isWritten isOld, fun _ => isWritten, fun _ => isOld⟩
      · exact Or.inl ⟨isWritten, isOld⟩

/-! ## Grants of a user -/

def Grant.gift (grant : Grant) : Option Int × Option Int :=
  (grant.roleId, grant.permissionId)

namespace Store

def Tables.gifts (tables : Tables) (userId : Int) : List (Option Int × Option Int) :=
  (tables.liveGrants userId).map (·.gift)

theorem Supply.map_issue {β ι : Type} {make : ι → Instant → Grant} {view : Grant → β}
    {value : ι → β} (same : ∀ given now id, view { make given now with id } = value given)
    (supply : Supply) (given : List ι) :
    (supply.issue (given.map make)).1.map view = given.map value := by
  induction given generalizing supply with
  | nil => rfl
  | cons head given induction =>
      have rest := induction supply.readClock.2.takeId.2
      rw [List.map_cons, List.map_cons, ← rest, ← same head supply.readClock.1]
      rfl

theorem Supply.filter_issue_eq_nil {ι : Type} {make : ι → Instant → Grant} {wanted : Grant → Bool}
    (none : ∀ given now id, wanted { make given now with id } = false) (supply : Supply)
    (given : List ι) : (supply.issue (given.map make)).1.filter wanted = [] := by
  have all : ∀ grant ∈ (supply.issue (given.map make)).1, wanted grant = false :=
    supply.forall_issue none given
  exact List.filter_eq_nil_iff.mpr fun grant member => by simp [all grant member]

theorem Supply.filter_issue_eq_self {ι : Type} {make : ι → Instant → Grant}
    {wanted : Grant → Bool} (every : ∀ given now id, wanted { make given now with id } = true)
    (supply : Supply) (given : List ι) :
    (supply.issue (given.map make)).1.filter wanted = (supply.issue (given.map make)).1 := by
  have all : ∀ grant ∈ (supply.issue (given.map make)).1, wanted grant = true :=
    supply.forall_issue every given
  exact List.filter_eq_self.mpr all

namespace Workspace

theorem revoke_of_other {userId : Int} {now : Instant} {grant : Grant}
    (other : grant.userId ≠ userId) : revoke userId now grant = grant := by
  simp [revoke, other]

theorem filter_revoke_other {written userId : Int} (different : written ≠ userId)
    (now : Instant) (grants : List Grant) :
    (grants.map (revoke written now)).filter (fun grant => grant.userId = userId && grant.isLive) =
      grants.filter fun grant => grant.userId = userId && grant.isLive := by
  induction grants with
  | nil => rfl
  | cons grant grants induction =>
      rw [List.map_cons, List.filter_cons, List.filter_cons, induction]
      by_cases named : grant.userId = written
      · have notWanted : grant.userId ≠ userId := fun equal => different (named.symm.trans equal)
        have sameUser : (revoke written now grant).userId = grant.userId :=
          (becomes_revoke written now grant).userId
        simp [sameUser, notWanted]
      · rw [revoke_of_other named]

theorem filter_revoke (userId : Int) (now : Instant) (grants : List Grant) :
    (grants.map (revoke userId now)).filter (fun grant => grant.userId = userId && grant.isLive) =
      [] := by
  rw [List.filter_eq_nil_iff]
  intro row member
  rcases List.mem_map.mp member with ⟨grant, -, rfl⟩
  rw [revoke]
  split
  · simp [Grant.isLive]
  · assumption

theorem filter_reassigned (userId : Int) (now : Instant) (grants : List Grant) (supply : Supply)
    (roleIds : List Int) :
    (grants.map (revoke userId now) ++ (supply.issue (roleIds.map (Grant.ofRole userId))).1).filter
        (fun grant => grant.userId = userId && grant.isLive) =
      (supply.issue (roleIds.map (Grant.ofRole userId))).1 := by
  rw [List.filter_append, filter_revoke,
    Supply.filter_issue_eq_self (by simp [Grant.ofRole, Grant.isLive]), List.nil_append]

theorem Change.liveGrants {α : Type} {workspace later : Workspace} {call : Call α}
    (change : Change workspace call later) {userId : Int}
    (unwritten : call.grantsTo userId = false) :
    later.tables.liveGrants userId = workspace.tables.liveGrants userId := by
  cases change with
  | assignRoles written roleIds =>
      have different : written ≠ userId := by simpa [Call.grantsTo] using unwritten
      rw [Tables.liveGrants, List.filter_append, filter_revoke_other different,
        Supply.filter_issue_eq_nil (by simp [Grant.ofRole, different])]
      exact List.append_nil _
  | grantPermissions written ids chosen sub =>
      have different : written ≠ userId := by simpa [Call.grantsTo] using unwritten
      rw [Tables.liveGrants, List.filter_append,
        Supply.filter_issue_eq_nil (by simp [Grant.ofPermission, different])]
      exact List.append_nil _
  | none | createRole | updateRole | deleteRole | replacePermissions | createPermission => rfl

end Workspace
end Store

namespace Turn

theorem grants_assignRoles (userId : Int) (roleIds : List Int) (supply : Supply)
    (tables : Tables) :
    (perform ⟨.assignRoles userId roleIds, supply, false⟩ tables).2.grants =
      tables.grants.map (Workspace.revoke userId supply.readClock.1) ++
        (supply.readClock.2.issue (roleIds.eraseDups.map (Grant.ofRole userId))).1 := by
  have performed := Workspace.outcome_assignRoles userId roleIds ⟨tables, supply⟩
  exact congrArg (·.tables.grants) performed

section

variable {userId : Int} {roleIds : List Int} {earlier later : List Turn}
  (supply : Supply) (unwritten : ∀ turn ∈ later, turn.call.grantsTo userId = false)
  (tables : Tables)

include unwritten in
/-- After the last call that gives a user something, if it replaces all grants, the live grants
of the user are those that it has issued. -/
theorem liveGrants_replay :
    (replay tables (earlier ++ ⟨.assignRoles userId roleIds, supply, false⟩ :: later)).liveGrants
        userId =
      (supply.readClock.2.issue (roleIds.eraseDups.map (Grant.ofRole userId))).1 := by
  rw [replay_split, view_replay (·.liveGrants userId)]
  · rw [Tables.liveGrants, grants_assignRoles]
    exact Workspace.filter_reassigned userId _ _ _ _
  · intro turn member tables
    rcases turn.change tables with ⟨next, change, performed⟩
    rw [performed]
    exact change.liveGrants (unwritten turn member)

end

theorem gifts_replay {own : List Turn} {userId : Int} {roleIds : List Int}
    (last : EndsWith (·.call.grantsTo userId) (.assignRoles userId roleIds) own)
    (tables : Tables) :
    (replay tables own).gifts userId = roleIds.eraseDups.map fun roleId => (some roleId, none) := by
  rcases last with ⟨earlier, supply, later, rfl, unwritten⟩
  rw [Tables.gifts, liveGrants_replay supply unwritten]
  exact Supply.map_issue (fun _ _ _ => rfl) _ _

theorem renewed_replay {own : List Turn} {userId : Int} {roleIds : List Int}
    (last : EndsWith (·.call.grantsTo userId) (.assignRoles userId roleIds) own)
    {tables : Tables} (distinct : ((replay tables own).grants.map (·.id)).Nodup) :
    ∀ grant ∈ (replay tables own).liveGrants userId, grant.id ∉ tables.ids .grant := by
  rcases last with ⟨earlier, supply, later, rfl, unwritten⟩
  intro grant member known
  rw [liveGrants_replay supply unwritten] at member
  -- Calls keep the numbers of grants, so an old number is still taken when the last call issues
  -- its grants, and the calls after it do not take numbers back either.
  have before := (develops_replay tables earlier).grants
  have after := (develops_replay (perform ⟨.assignRoles userId roleIds, supply, false⟩
    (replay tables earlier)).2 later).grants
  rw [replay_split] at distinct
  have distinctHere := after.distinct (fun _ _ becomes => becomes.id) distinct
  rw [grants_assignRoles, List.map_append] at distinctHere
  rcases List.mem_map.mp known with ⟨old, isOld, sameId⟩
  rcases before.kept old isOld with ⟨present, isPresent, becomes⟩
  have revoked : Workspace.revoke userId supply.readClock.1 present ∈
      (replay tables earlier).grants.map (Workspace.revoke userId supply.readClock.1) :=
    List.mem_map_of_mem isPresent
  refine (List.nodup_append.mp distinctHere).2.2 _ (List.mem_map_of_mem revoked) _
    (List.mem_map_of_mem member) ?_
  rw [Workspace.revoke_id, becomes.id, sameId]

end Turn

section

variable {committed base work : Tables} {userId : Int} (develops : base.Develops work)
  (precedes : base.Precedes committed) (distinct : committed.IdsDistinct)
  (distinctWork : work.IdsDistinct)
  (separate : ∀ id ∈ committed.ids .grant, id ∈ work.ids .grant → id ∈ base.ids .grant)
  (renewed : ∀ grant ∈ work.liveGrants userId, grant.id ∉ base.ids .grant)

include develops precedes distinct distinctWork separate renewed

/-- If a unit has renewed all grants of a user, the user has those after a merge, and beside
them the live grants that were committed since the unit began. -/
theorem Store.Tables.mem_liveGrants_merge (grant : Grant) :
    grant ∈ (committed.merge base work).liveGrants userId ↔
      grant ∈ work.liveGrants userId ∨
        grant ∈ committed.liveGrants userId ∧ grant.id ∉ base.ids .grant := by
  simp only [mem_liveGrants_iff, merge] at renewed ⊢
  rw [mem_mergeRows_iff distinct.grants distinctWork.grants]
  constructor
  · intro given
    rcases given with ⟨⟨inWork, -⟩ | ⟨isCommitted, -, unchanged⟩, named, live⟩
    · exact Or.inl ⟨inWork, named, live⟩
    · right
      refine ⟨⟨isCommitted, named, live⟩, fun inBase => ?_⟩
      -- The grant was live when the unit began, so the unit has revoked and thereby changed it.
      rcases List.mem_map.mp inBase with ⟨began, isBegan, sameId⟩
      rcases develops.grants.kept began isBegan with ⟨worked, inWork, change⟩
      have stays := unchanged worked inWork (change.id.trans sameId)
      rcases precedes.grants began isBegan with ⟨present, isPresent, since⟩
      have isGrant : present = grant :=
        List.inj_on_of_nodup_map distinct.grants isPresent isCommitted (since.id.trans sameId)
      rw [isGrant] at since
      have beganLive : began.isLive = true := by
        cases wasLive : began.isLive with
        | true => rfl
        | false =>
            rw [since.staysRevoked wasLive] at live
            cases live
      have distinctBase := develops.grants.distinct (fun _ _ becomes => becomes.id)
        distinctWork.grants
      have isSame : worked = began :=
        List.inj_on_of_nodup_map distinctBase stays isBegan change.id
      rw [isSame] at inWork
      exact renewed began ⟨inWork, since.userId.symm.trans named, beganLive⟩
        (List.mem_map_of_mem isBegan)
  · intro given
    rcases given with ⟨inWork, named, live⟩ | ⟨⟨isCommitted, named, live⟩, notInBase⟩
    · have isNew := renewed grant ⟨inWork, named, live⟩
      exact ⟨Or.inl ⟨inWork, fun inBase => isNew (List.mem_map_of_mem inBase)⟩, named, live⟩
    · refine ⟨Or.inr ⟨isCommitted, fun inBase => absurd inBase notInBase, ?_⟩, named, live⟩
      intro worked inWork sameId
      refine absurd (separate grant.id (List.mem_map_of_mem isCommitted) ?_) notInBase
      exact List.mem_map.mpr ⟨worked, inWork, sameId⟩

theorem Store.Tables.gifts_merge_iff {given : List (Option Int × Option Int)}
    (written : ∀ gift, gift ∈ work.gifts userId ↔ gift ∈ given) :
    (∀ gift, gift ∈ (committed.merge base work).gifts userId ↔ gift ∈ given) ↔
      ∀ grant ∈ committed.liveGrants userId, grant.id ∉ base.ids .grant →
        grant.gift ∈ given := by
  have merged := mem_liveGrants_merge develops precedes distinct distinctWork separate renewed
  constructor
  · intro replaced grant isCommitted isNew
    apply (replaced grant.gift).mp
    exact List.mem_map_of_mem ((merged grant).mpr (Or.inr ⟨isCommitted, isNew⟩))
  · intro among gift
    constructor
    · intro member
      rcases List.mem_map.mp member with ⟨grant, isMerged, rfl⟩
      rcases (merged grant).mp isMerged with inWork | ⟨isCommitted, isNew⟩
      · exact (written grant.gift).mp (List.mem_map_of_mem inWork)
      · exact among grant isCommitted isNew
    · intro isGiven
      rcases List.mem_map.mp ((written gift).mpr isGiven) with ⟨grant, inWork, rfl⟩
      exact List.mem_map_of_mem ((merged grant).mpr (Or.inl inWork))

end

/-! ## Commits -/

namespace World

theorem committed_of_commit {world : World} {unitName : String}
    (commits : ((commit unitName).outcome world).1 = .ok ()) :
    ∃ draft, world.phaseOf unitName = .active draft ∧
      (world.step (.commit unitName)).committed = world.committed.merge draft.base draft.work := by
  rw [step]
  rcases outcome_commit world unitName with
    fails | ⟨draft, active, ⟨key, -, refuses⟩ | ⟨-, publishes⟩⟩
  · rw [fails] at commits
    cases commits
  · rw [refuses] at commits
    cases commits
  · rw [publishes]
    exact ⟨draft, active, rfl⟩

/-- If the last call by which a unit wrote to a role replaced its permissions, its commit makes
these the permissions of the role exactly if all permissions that were attached since the unit
began are among them, and none of them that was attached when it began was detached since. If
the last call by which a unit wrote to a user replaced the grants, its commit makes these the
grants of the user exactly if all that was granted since the unit began is among them too. -/
theorem commit_replaces_iff {world : World} {unitName : String} {events : List Event}
    (reachable : Reachable Numbers world) (begins : ((begin unitName).outcome world).1 = .ok ())
    (permits : Permits Numbers (world.step (.begin unitName)) events)
    (commits : ((commit unitName).outcome (world.run (.begin unitName :: events))).1 = .ok ()) :
    let own := turns unitName (world.step (.begin unitName)) events
    let now := world.run (.begin unitName :: events)
    let later := now.step (.commit unitName)
    (∀ (roleId : Int) (ids : List Int),
      Turn.EndsWith (·.call.attachesTo roleId) (.replacePermissions roleId ids) own →
        ((∀ id, id ∈ later.committed.attachedIds roleId ↔ id ∈ ids) ↔
          (∀ id ∈ now.committed.attachedIds roleId,
            id ∉ world.committed.attachedIds roleId → id ∈ ids) ∧
          ∀ id ∈ ids, id ∈ world.committed.attachedIds roleId →
            id ∈ now.committed.attachedIds roleId)) ∧
      ∀ (userId : Int) (roleIds : List Int),
        Turn.EndsWith (·.call.grantsTo userId) (.assignRoles userId roleIds) own →
          ((∀ gift, gift ∈ later.committed.gifts userId ↔
              gift ∈ roleIds.map fun roleId => (some roleId, none)) ↔
            ∀ grant ∈ now.committed.liveGrants userId, grant.id ∉ world.committed.ids .grant →
              grant.gift ∈ roleIds.map fun roleId => (some roleId, none)) := by
  intro own now later
  have reachableNow : Reachable Numbers now :=
    (reachable.step (.begin unitName) trivial).run permits
  rcases committed_of_commit commits with ⟨draft, active, merged⟩
  have distinct := (reachableNow.orderly _ (committed_mem_copies now)).distinct
  have distinctWork := (reachableNow.orderly _ (work_mem_copies active)).distinct
  have known := reachableNow.separate.known active .grant
  rcases reachableNow.dated unitName draft active with ⟨develops, precedes⟩
  have copies : draft = ⟨world.committed, Turn.replay world.committed own⟩ :=
    draft_of_begin begins active
  subst copies
  have isMerged : later.committed =
    now.committed.merge world.committed (Turn.replay world.committed own) := merged
  rw [isMerged]
  constructor
  · intro roleId ids last
    exact Tables.attachedIds_merge_iff distinct distinctWork
      (Turn.mem_attachedIds_replay last world.committed)
  · intro userId roleIds last
    apply Tables.gifts_merge_iff develops precedes distinct.toIdsDistinct
      distinctWork.toIdsDistinct known (Turn.renewed_replay last distinctWork.grants)
    intro gift
    rw [Turn.gifts_replay last]
    simp [List.mem_eraseDups]

def shelf : List Event :=
  [.insertRole (.fresh "Staff" .staff (.ofNat 1) ⟨0, 0⟩),
    .insertRole (.fresh "Sales" .sales (.ofNat 2) ⟨0, 0⟩),
    .insertPermission (.fresh "Reading roles" .readRole (.ofNat 3) ⟨0, 0⟩),
    .insertPermission (.fresh "Reading users" .readUser (.ofNat 4) ⟨0, 0⟩)]

/-- While one unit replaces the permissions of a role and the grants of a user, another does so
too and is committed. -/
def rivalry : List Event :=
  [.begin "first",
    .call "first" (.replacePermissions 1 [3]),
    .call "first" (.assignRoles 7 [1]),
    .call "second" (.replacePermissions 1 [4]),
    .call "second" (.assignRoles 7 [2]),
    .commit "first"]

theorem commit_replaces_iff_rivalry :
    let now := (fresh.run shelf).run (.begin "second" :: rivalry)
    ((commit "second").outcome now).1 = .ok () ∧
      (¬ ∀ id, id ∈ (now.step (.commit "second")).committed.attachedIds 1 ↔ id ∈ [4]) ∧
      ¬ ∀ gift, gift ∈ (now.step (.commit "second")).committed.gifts 7 ↔
        gift ∈ [2].map fun roleId => (some roleId, none) := by
  have reachable : Reachable Numbers (fresh.run shelf) :=
    Reachable.run (.start fresh.surroundings rfl) (by decide)
  have permits : Permits Numbers ((fresh.run shelf).step (.begin "second")) rivalry := by decide
  have commits : ((commit "second").outcome
      ((fresh.run shelf).run (.begin "second" :: rivalry))).1 = .ok () := by decide
  rcases commit_replaces_iff reachable rfl permits commits with ⟨permissions, grants⟩
  refine ⟨commits, fun replaced => ?_, fun replaced => ?_⟩
  · have among := ((permissions 1 [4] ⟨[], _, _, rfl, by decide⟩).mp replaced).1 3
    simp only [Tables.mem_attachedIds_iff] at among
    exact absurd (among (by decide) (by decide)) (by decide)
  · have among := (grants 7 [2] ⟨[_], _, _, rfl, by decide⟩).mp replaced
    revert among
    decide

def synchronizations : Action World Unit := do
  begin "first"
  begin "second"
  let _ ← atDesk "first"
    (Service.syncPermissions Desk.backend (.ofNat 1) [(Uuid.ofNat 3).text])
  let _ ← atDesk "second"
    (Service.syncPermissions Desk.backend (.ofNat 1) [(Uuid.ofNat 4).text])
  commit "first"
  commit "second"

def assignments : Action World Unit := do
  begin "first"
  begin "second"
  let _ ← atDesk "first" (Service.assignRoles Desk.backend 7 [(Uuid.ofNat 1).text])
  let _ ← atDesk "second" (Service.assignRoles Desk.backend 7 [(Uuid.ofNat 2).text])
  commit "first"
  commit "second"

/-- What only the first unit gave is still there after the commit of the second one. -/
theorem replaced_sets_mix :
    let synchronized := synchronizations.outcome (fresh.run shelf)
    let assigned := assignments.outcome (fresh.run shelf)
    synchronized.1 = .ok () ∧
      3 ∈ synchronized.2.committed.attachedIds 1 ∧ 4 ∈ synchronized.2.committed.attachedIds 1 ∧
      assigned.1 = .ok () ∧
      assigned.2.committed.gifts 7 = [(some 1, none), (some 2, none)] := by
  simp only [Tables.mem_attachedIds_iff]
  decide +kernel

end World
end Entitlement
