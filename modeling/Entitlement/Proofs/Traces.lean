import Entitlement.Proofs.KeptKeys

/-! # What a rolled-back unit leaves behind

Rolling back forgets the working copy, but not the keys that listings offered for the cache, for
the queue in front of the cache belongs to no unit. So two runs are compared: one with a unit
that never commits, and one in which only the worker of the queue gets its time. The worker does
the same in both until it has dealt with what waits in both; whatever it writes after that was
offered by the unit. -/

namespace Entitlement

open Store Cache

/-! ## Queues -/

namespace Cache

structure Memory.LeftBy (offers : List KeyBatch) (cache other : Memory) : Prop where
  mode : cache.mode = other.mode
  keys : ∀ text, cache.get? text = other.get? text ∨
    ∃ batch ∈ offers, ∃ key, (text, key) ∈ batch ∧ cache.get? text = some key

variable {offers : List KeyBatch}

theorem Memory.LeftBy.refl (cache : Memory) : cache.LeftBy offers cache :=
  ⟨rfl, fun _ => Or.inl rfl⟩

theorem Memory.LeftBy.putAll {cache other : Memory} (left : cache.LeftBy offers other)
    {batch : KeyBatch} (offered : batch ∈ offers) : (cache.putAll batch).LeftBy offers other where
  mode := (cache.mode_putAll batch).trans left.mode
  keys := by
    intro text
    rcases cache.get?_putAll batch text with same | ⟨key, member, written⟩
    · rw [same]
      exact left.keys text
    · exact Or.inr ⟨batch, offered, key, member, written⟩

namespace WriteQueue

/-- A queue with its cache is like another one, but for what comes of these batches: they wait
behind what waits in both, or the other queue has nothing left to do. -/
inductive Trails (offers : List KeyBatch) :
    WriteQueue → Memory → WriteQueue → Memory → Prop where
  | behind {queue other : WriteQueue} (cache : Memory) (more : List KeyBatch)
      (waiting : queue.waiting = other.waiting ++ more) (writing : queue.writing = other.writing)
      (timeout : queue.timeout = other.timeout) (offered : ∀ batch ∈ more, batch ∈ offers) :
      Trails offers queue cache other cache
  | alone {queue other : WriteQueue} {cache otherCache : Memory} (idle : other.pending = [])
      (offered : ∀ batch ∈ queue.pending, batch ∈ offers)
      (left : cache.LeftBy offers otherCache) : Trails offers queue cache other otherCache

def Progress.Trails (offers : List KeyBatch) (progress other : Progress Memory) : Prop :=
  WriteQueue.Trails offers progress.queue progress.cache other.queue other.cache

theorem Trails.leftBy {queue other : WriteQueue} {cache otherCache : Memory}
    (trails : Trails offers queue cache other otherCache) : cache.LeftBy offers otherCache := by
  cases trails with
  | behind => exact .refl cache
  | alone _ _ left => exact left

theorem trails_drain {queue other : WriteQueue} (timeout : queue.timeout = other.timeout)
    {more : List KeyBatch} (offered : ∀ batch ∈ more, batch ∈ offers) (budget : Option Nat)
    (waiting : List KeyBatch) (cache : Memory) (notes otherNotes : List Note) :
    (drain Memory.writer queue budget (waiting ++ more) cache notes).Trails offers
      (drain Memory.writer other budget waiting cache otherNotes) := by
  induction waiting generalizing budget cache notes otherNotes with
  | nil =>
      -- The other worker is done. This one goes on, but only with what was offered.
      have holds : Progress.Holds (·.LeftBy offers cache) (· ∈ offers)
          (drain Memory.writer queue budget more cache notes) :=
        holds_drain (fun _ _ left isOffered => left.putAll isOffered) queue budget more cache notes
          (.refl cache) offered
      exact .alone (pending_eq_nil_iff.mpr ⟨rfl, rfl⟩) holds.pending holds.cache
  | cons batch rest induction =>
      -- A write that takes its time ends within the budget of both, or of neither.
      have lasting : ∀ span otherSpan succeeds, span = otherSpan → Progress.Trails offers
          (spendOn Memory.writer queue budget batch (rest ++ more) cache notes span succeeds)
          (spendOn Memory.writer other budget batch rest cache otherNotes otherSpan succeeds) := by
        rintro span _ succeeds rfl
        rw [spendOn, spendOn]
        cases spend? budget span with
        | some left => exact induction _ _ _ _
        | none => exact .behind cache more rfl rfl timeout offered
      rw [List.cons_append, drain, drain]
      cases mode : cache.mode with
      | sound | broken | readOnly =>
          simp only [Memory.writer, mode]
          exact induction _ _ _ _
      | slow milliseconds =>
          simp only [Memory.writer, mode]
          by_cases fits : milliseconds ≤ queue.timeout
          · rw [if_pos fits, if_pos (timeout ▸ fits)]
            exact lasting milliseconds milliseconds true rfl
          · rw [if_neg fits, if_neg (timeout ▸ fits)]
            exact lasting queue.timeout other.timeout false timeout
      | hanging =>
          simp only [Memory.writer, mode]
          exact lasting queue.timeout other.timeout false timeout
      | fatal =>
          simp only [Memory.writer, mode]
          exact .behind cache [] rfl rfl timeout (List.forall_mem_nil _)

variable {queue other : WriteQueue} {cache otherCache : Memory}

theorem Trails.run (trails : Trails offers queue cache other otherCache) (budget : Option Nat) :
    (run Memory.writer queue budget cache).Trails offers
      (run Memory.writer other budget otherCache) := by
  cases trails with
  | behind _ more waiting writing timeout offered =>
      rw [WriteQueue.run, WriteQueue.run, waiting, writing]
      cases other.writing with
      | none => exact trails_drain timeout offered budget _ cache [] []
      | some isWriting =>
          dsimp only
          cases spend? budget isWriting.left with
          | some left => exact trails_drain timeout offered left _ _ _ _
          | none => exact .behind cache more rfl rfl timeout offered
  | alone idle offered left =>
      rcases pending_eq_nil_iff.mp idle with ⟨noneWait, noneWritten⟩
      have holds : Progress.Holds (·.LeftBy offers otherCache) (· ∈ offers)
          (WriteQueue.run Memory.writer queue budget cache) :=
        holds_run (fun _ _ left isOffered => left.putAll isOffered) queue budget cache left offered
      rw [WriteQueue.run.eq_def Memory.writer other, noneWritten, noneWait]
      exact .alone (pending_eq_nil_iff.mpr ⟨rfl, rfl⟩) holds.pending holds.cache

theorem Trails.submit (trails : Trails offers queue cache other otherCache) {batch : KeyBatch}
    (isOffered : batch ∈ offers) :
    Trails offers (queue.submit batch).2 cache other otherCache := by
  rcases queue.submit_cases batch with
    ⟨dropped, -⟩ | ⟨dropped, -, -, -⟩ | ⟨accepted, -, -, -⟩
  · rw [dropped]
    exact trails
  · rw [dropped]
    exact trails
  · rw [accepted]
    cases trails with
    | behind _ more waiting writing timeout offered =>
        refine .behind cache (more ++ [batch]) ?_ writing timeout ?_
        · rw [waiting, List.append_assoc]
        · exact List.forall_mem_append.mpr ⟨offered, List.forall_mem_singleton.mpr isOffered⟩
    | alone idle offered left =>
        refine .alone idle ?_ left
        change ∀ other ∈ _ ++ (queue.waiting ++ [batch]), other ∈ offers
        rw [← List.append_assoc]
        exact List.forall_mem_append.mpr ⟨offered, List.forall_mem_singleton.mpr isOffered⟩

theorem Trails.close (trails : Trails offers queue cache other otherCache) :
    Trails offers queue.close.2 cache other.close.2 otherCache := by
  cases trails with
  | behind _ more waiting writing timeout offered =>
      exact .behind cache more waiting writing timeout offered
  | alone idle offered left => exact .alone idle offered left

end WriteQueue

namespace Station

inductive Trails (offers : List KeyBatch) (station other : Station Memory) : Prop where
  | plain (noQueue : station.queue = none) (noOther : other.queue = none)
      (cache : station.cache = other.cache) : Trails offers station other
  | queued (queue otherQueue : WriteQueue) (isQueue : station.queue = some queue)
      (isOther : other.queue = some otherQueue) (awaited : queue.awaited = otherQueue.awaited)
      (trails : queue.Trails offers station.cache otherQueue other.cache) :
      Trails offers station other

variable {station other : Station Memory}

theorem Trails.refl (station : Station Memory) : station.Trails offers station := by
  cases isQueue : station.queue with
  | none => exact .plain isQueue isQueue rfl
  | some queue =>
      exact .queued queue queue isQueue isQueue rfl
        (.behind station.cache [] (List.append_nil _).symm rfl rfl (List.forall_mem_nil _))

theorem Trails.leftBy (trails : station.Trails offers other) :
    station.cache.LeftBy offers other.cache := by
  cases trails with
  | plain noQueue noOther cache =>
      rw [cache]
      exact .refl _
  | queued queue otherQueue isQueue isOther awaited trails => exact trails.leftBy

theorem Trails.advance (trails : station.Trails offers other) (milliseconds : Nat) :
    (station.advance Memory.writer milliseconds).Trails offers
      (other.advance Memory.writer milliseconds) := by
  cases trails with
  | plain noQueue noOther cache =>
      rw [Station.advance, noQueue, Station.advance, noOther]
      exact .plain noQueue noOther cache
  | queued queue otherQueue isQueue isOther awaited trails =>
      rw [Station.advance, isQueue, Station.advance, isOther]
      refine .queued _ _ rfl rfl ?_ (trails.run (some milliseconds))
      rw [WriteQueue.advance, (WriteQueue.switches_of_run ..).2, awaited, WriteQueue.advance,
        (WriteQueue.switches_of_run ..).2]

theorem Trails.shutdown (trails : station.Trails offers other) :
    (station.shutdown Memory.writer).Trails offers (other.shutdown Memory.writer) := by
  cases trails with
  | plain noQueue noOther cache =>
      rw [Station.shutdown, noQueue, Station.shutdown, noOther]
      exact .plain noQueue noOther cache
  | queued queue otherQueue isQueue isOther awaited trails =>
      rw [Station.shutdown, isQueue, Station.shutdown, isOther]
      dsimp only
      cases isAwaited : otherQueue.awaited with
      | true =>
          rw [isAwaited] at awaited
          rw [WriteQueue.shutdown_of_awaited awaited, WriteQueue.shutdown_of_awaited isAwaited]
          exact .queued _ _ rfl rfl rfl trails.close
      | false =>
          rw [isAwaited] at awaited
          rw [WriteQueue.shutdown_of_not_awaited awaited,
            WriteQueue.shutdown_of_not_awaited isAwaited]
          refine .queued _ _ rfl rfl ?_ (trails.close.run none)
          rw [(WriteQueue.switches_of_run ..).2, (WriteQueue.switches_of_run ..).2]
          rfl

theorem Trails.offer (trails : station.Trails offers other) {batch : KeyBatch}
    (isOffered : batch ∈ offers) : (station.offer batch).2.Trails offers other := by
  cases trails with
  | plain noQueue noOther cache =>
      rw [Station.offer, noQueue]
      exact .plain noQueue noOther cache
  | queued queue otherQueue isQueue isOther awaited trails =>
      rw [Station.offer, isQueue]
      have kept : (queue.submit batch).2.awaited = queue.awaited := by
        rcases queue.submit_cases batch with ⟨fate, -⟩ | ⟨fate, -⟩ | ⟨fate, -⟩ <;> rw [fate]
      exact .queued _ otherQueue rfl isOther (kept.trans awaited) (trails.submit isOffered)

theorem Trails.note (trails : station.Trails offers other) (entry : Note) :
    (station.note entry).Trails offers other := by
  cases trails with
  | plain noQueue noOther cache => exact .plain noQueue noOther cache
  | queued queue otherQueue isQueue isOther awaited trails =>
      exact .queued queue otherQueue isQueue isOther awaited trails

end Station

end Cache

/-! ## One unit and the worker of the queue -/

def Request.offered {α : Type} : Request α → List KeyBatch
  | offerKeys batch => [batch]
  | _ => []

def Job.offered (job : Job) : List KeyBatch :=
  match job.program with
  | .ended _ => []
  | .ask request _ => request.offered

def Traffic.offered (traffic : Traffic) : Move → List KeyBatch
  | .advance place => traffic.underWay[place]?.toList.flatMap (·.offered)
  | _ => []

def Traffic.offers : Traffic → List Move → List KeyBatch
  | _, [] => []
  | traffic, move :: moves => traffic.offered move ++ offers (traffic.move move) moves

/-- A unit begins, ends or is given a task; or a task goes on, where all tasks are of this unit. -/
def Move.isOf (unitName : String) : Move → Bool
  | event (.begin name) | event (.commit name) | event (.rollback name) | start name _ =>
      name == unitName
  | advance _ => true
  | event _ => false

/-- The worker of the queue gets some time, a unit begins or ends, or this unit is given a task
or makes one go on; but this unit is not committed. -/
def Move.IsUncommitted (unitName : String) : Move → Prop
  | event (.begin _) | event (.rollback _) | event (.around (.advance _))
  | event (.around .shutdown) | advance _ => True
  | event (.commit name) => name ≠ unitName
  | start name _ => name = unitName
  | event _ => False

theorem Surroundings.check_congr {surroundings other : Surroundings}
    (failing : surroundings.failing = other.failing) (operation : Operation) :
    surroundings.check operation = other.check operation := by
  rw [check, check, failing]

theorem Desk.surroundings_call {α : Type} (asked : Call α) (desk : Desk) :
    ∃ supply, ((backend.call asked).outcome desk).2.surroundings =
      { desk.surroundings with supply } := by
  change ∃ supply,
    ((within asked.operation (Workspace.perform asked)).outcome desk).2.surroundings = _
  rw [within, Action.outcome_ofOutcome]
  split
  · exact ⟨desk.surroundings.supply, rfl⟩
  · exact ⟨_, rfl⟩
  · exact ⟨desk.surroundings.supply, rfl⟩

namespace World

structure Trails (unitName : String) (offers : List KeyBatch) (world other : World) : Prop where
  committed : world.committed = other.committed
  failing : world.surroundings.failing = other.surroundings.failing
  elsewhere : ∀ name, name ≠ unitName → world.phaseOf name = other.phaseOf name
  station : world.surroundings.station.Trails offers other.surroundings.station

variable {unitName : String} {offers : List KeyBatch} {world other : World}

theorem Trails.refl (world : World) : world.Trails unitName offers world :=
  ⟨rfl, rfl, fun _ _ => rfl, .refl _⟩

theorem Trails.setPhase (trails : world.Trails unitName offers other) (phase : Phase) :
    (world.setPhase unitName phase).Trails unitName offers other :=
  { trails with
    elsewhere := fun name different =>
      (phaseOf_setPhase_other world phase different).trans (trails.elsewhere name different) }

theorem Trails.setPhase_both (trails : world.Trails unitName offers other) (name : String)
    (phase : Phase) :
    (world.setPhase name phase).Trails unitName offers (other.setPhase name phase) :=
  { trails with
    elsewhere := fun another different => by
      rw [phaseOf_setPhase, phaseOf_setPhase, trails.elsewhere another different] }

theorem Trails.step (trails : world.Trails unitName offers other) {event : Event}
    (isOf : (Move.event event).isOf unitName = true)
    (uncommitted : (Move.event event).IsUncommitted unitName) :
    (world.step event).Trails unitName offers other := by
  cases event with
  | begin name =>
      cases eq_of_beq isOf
      rw [World.step]
      rcases outcome_begin world unitName with fails | ⟨-, begins⟩
      · rw [fails]
        exact trails
      · rw [begins]
        exact trails.setPhase _
  | rollback name =>
      cases eq_of_beq isOf
      rw [World.step]
      rcases outcome_rollback world unitName with fails | ⟨draft, -, ends⟩
      · rw [fails]
        exact trails
      · rw [ends]
        exact trails.setPhase _
  | commit name => exact absurd (eq_of_beq isOf) uncommitted
  | call | insertRole | insertPermission | around => cases isOf

theorem Trails.begin_both (trails : world.Trails unitName offers other) {name : String}
    (different : name ≠ unitName) :
    (world.step (.begin name)).Trails unitName offers (other.step (.begin name)) := by
  rw [World.step, World.step, begin, Action.outcome_ofOutcome, Action.outcome_ofOutcome,
    Surroundings.check_congr trails.failing, trails.elsewhere name different, trails.committed]
  split
  · exact trails
  · exact trails.setPhase_both _ _
  · exact trails

theorem Trails.finalize_both (trails : world.Trails unitName offers other) {name : String}
    (different : name ≠ unitName) (operation : Operation) :
    ∃ result later otherLater, (finalize name operation).outcome world = (result, later) ∧
      (finalize name operation).outcome other = (result, otherLater) ∧
      later.Trails unitName offers otherLater := by
  simp only [finalize, Action.outcome_ofOutcome]
  rw [Surroundings.check_congr trails.failing, trails.elsewhere name different]
  split
  · exact ⟨_, world, other, rfl, rfl, trails⟩
  · exact ⟨_, _, _, rfl, rfl, trails.setPhase_both _ _⟩
  · exact ⟨_, world, other, rfl, rfl, trails⟩

theorem Trails.rollback_both (trails : world.Trails unitName offers other) {name : String}
    (different : name ≠ unitName) :
    (world.step (.rollback name)).Trails unitName offers (other.step (.rollback name)) := by
  rcases trails.finalize_both different .rollback with
    ⟨result, later, otherLater, reached, otherReached, ended⟩
  rw [World.step, World.step, rollback, Action.outcome_bind, Action.outcome_bind, reached,
    otherReached]
  cases result <;> exact ended

theorem Trails.commit_both (trails : world.Trails unitName offers other) {name : String}
    (different : name ≠ unitName) :
    (world.step (.commit name)).Trails unitName offers (other.step (.commit name)) := by
  rcases trails.finalize_both different .commit with
    ⟨result, later, otherLater, reached, otherReached, ended⟩
  rw [World.step, World.step, commit, Action.outcome_bind, Action.outcome_bind, reached,
    otherReached]
  cases result with
  | error fault => exact ended
  | ok draft =>
      simp only [Action.outcome_bind, Action.outcome_get, publish, Action.outcome_ofOutcome]
      rw [ended.committed]
      cases Tables.repeatedKey? [] (otherLater.committed.merge draft.base draft.work).roles with
      | some key => exact ended
      | none => exact { ended with committed := rfl }

theorem Trails.step_both (trails : world.Trails unitName offers other) {event : Event}
    (notOf : (Move.event event).isOf unitName = false)
    (uncommitted : (Move.event event).IsUncommitted unitName) :
    (world.step event).Trails unitName offers (other.step event) := by
  cases event with
  | begin name => exact trails.begin_both (ne_of_beq_false notOf)
  | commit name => exact trails.commit_both (ne_of_beq_false notOf)
  | rollback name => exact trails.rollback_both (ne_of_beq_false notOf)
  | around happening =>
      cases happening with
      | advance milliseconds =>
          exact { trails with station := trails.station.advance milliseconds }
      | shutdown => exact { trails with station := trails.station.shutdown }
      | readClock | makeUuid | disable | enableAll | insertUser | offerKeys | countDecision
      | changeCache => exact uncommitted.elim
  | call | insertRole | insertPermission => exact uncommitted.elim

theorem Trails.request (trails : world.Trails unitName offers other) {α : Type}
    (request : Request α) (offered : ∀ batch ∈ request.offered, batch ∈ offers) :
    ((atDesk unitName (request.perform Desk.backend)).outcome world).2.Trails unitName offers
      other := by
  rw [outcome_atDesk]
  cases request with
  | call asked =>
      rcases Desk.surroundings_call asked ⟨world.phaseOf unitName, world.surroundings⟩ with
        ⟨supply, same⟩
      have later := trails.setPhase
        ((Desk.backend.call asked).outcome ⟨world.phaseOf unitName, world.surroundings⟩).2.phase
      refine ⟨later.committed, ?_, later.elsewhere, ?_⟩
      · change Surroundings.failing ((Desk.backend.call asked).outcome _).2.surroundings = _
        rw [same]
        exact later.failing
      · change Cache.Station.Trails _
          (Surroundings.station ((Desk.backend.call asked).outcome _).2.surroundings) _
        rw [same]
        exact later.station
  | offerKeys batch =>
      exact { trails.setPhase _ with
        station := trails.station.offer (offered batch List.mem_cons_self) }
  | countDecision decision =>
      exact { trails.setPhase _ with station := trails.station.note _ }
  | enter | now | freshUuid | userByUuid | cachedKey => exact { trails.setPhase _ with }

end World

namespace Traffic

variable {unitName : String} {offers : List KeyBatch}

structure Trails (unitName : String) (offers : List KeyBatch) (traffic other : Traffic) : Prop where
  world : traffic.world.Trails unitName offers other.world
  own : ∀ job ∈ traffic.underWay, job.unitName = unitName

variable {traffic other : Traffic}

theorem Trails.event (trails : traffic.Trails unitName offers other) {event : Event}
    (isOf : (Move.event event).isOf unitName = true)
    (uncommitted : (Move.event event).IsUncommitted unitName) :
    (traffic.move (.event event)).Trails unitName offers other :=
  ⟨trails.world.step isOf uncommitted, trails.own⟩

theorem Trails.start (trails : traffic.Trails unitName offers other) {α : Type} (task : Task α) :
    (traffic.move (.start unitName task)).Trails unitName offers other := by
  refine ⟨trails.world, fun job member => ?_⟩
  rcases List.mem_append.mp member with old | isNew
  · exact trails.own job old
  · rw [List.mem_singleton.mp isNew]

theorem Trails.advance (trails : traffic.Trails unitName offers other) (place : Nat)
    (offered : ∀ batch ∈ traffic.offered (.advance place), batch ∈ offers) :
    (traffic.move (.advance place)).Trails unitName offers other := by
  rw [Traffic.offered] at offered
  rw [move]
  rcases found : traffic.underWay[place]? with _ | ⟨name, Answer, program⟩
  · exact trails
  · cases trails.own _ (List.mem_of_getElem? found)
    have own : ∀ changed : Job, changed.unitName = name →
        ∀ job ∈ traffic.underWay.set place changed, job.unitName = name := by
      intro changed same job member
      rcases List.mem_or_eq_of_mem_set member with old | rfl
      · exact trails.own job old
      · exact same
    cases program with
    | ended result => exact ⟨trails.world, own _ rfl⟩
    | ask request next =>
        rw [found] at offered
        have offered : ∀ batch ∈ request.offered, batch ∈ offers := by
          simpa [Job.offered] using offered
        exact ⟨trails.world.request request offered, own _ rfl⟩

/-- Whatever a unit does that is not committed, the rest goes on as it would without the unit,
but for the keys that the unit offers for the cache. -/
theorem Trails.run {moves : List Move} (trails : traffic.Trails unitName offers other)
    (uncommitted : ∀ move ∈ moves, move.IsUncommitted unitName)
    (offered : ∀ batch ∈ traffic.offers moves, batch ∈ offers) :
    (traffic.run moves).Trails unitName offers
      (other.run (moves.filter fun move => !move.isOf unitName)) := by
  induction moves generalizing traffic other with
  | nil => exact trails
  | cons move moves induction =>
      rw [Traffic.offers, List.forall_mem_append] at offered
      rcases List.forall_mem_cons.mp uncommitted with ⟨here, later⟩
      -- What the unit does has no counterpart; all else happens on both sides.
      cases isOf : move.isOf unitName with
      | true =>
          rw [List.filter_cons_of_neg (by rw [isOf]; decide)]
          refine induction ?_ later offered.2
          cases move with
          | event event => exact trails.event isOf here
          | start name task =>
              cases here
              exact trails.start task
          | advance place => exact trails.advance place offered.1
      | false =>
          rw [List.filter_cons_of_pos (by rw [isOf]; decide)]
          refine induction ?_ later offered.2
          cases move with
          | event event => exact ⟨trails.world.step_both isOf here, trails.own⟩
          | start name task => exact absurd here (ne_of_beq_false isOf)
          | advance => cases isOf

end Traffic

/-! ## A later update -/

theorem Store.map_fst_changeFirst? {α : Type} (wanted : α → Bool) (change : α → α)
    (rows : List α) :
    (changeFirst? wanted change rows).map Prod.fst = (rows.find? wanted).map change := by
  induction rows with
  | nil => rfl
  | cons row rows induction =>
      rw [changeFirst?, List.find?_cons]
      cases wanted row with
      | true => rfl
      | false =>
          rw [← induction]
          simp [Option.map_map, Function.comp_def]

def Role.settled (role : Role) : RoleKey × RoleInput :=
  (role.key, ⟨role.title, role.description, role.isDefault⟩)

theorem Store.Workspace.settled_updateRole (workspace : Workspace) (role : Role) (uuid : Uuid) :
    ((updateRole role uuid).outcome workspace).1.map Role.settled =
      if workspace.tables.keyInUse role.key (some uuid) then .error (.roleExists role.key.name)
      else if (workspace.tables.roleByUuid? uuid).isSome then .ok role.settled
      else .error (.noRows Operation.updateRole.name) := by
  rw [updateRole, Action.outcome_ofOutcome]
  split
  · rfl
  · dsimp only
    split
    · rename_i missing
      have first := congrArg (Option.map Prod.fst) missing
      rw [map_fst_changeFirst?, Option.map_none, Option.map_eq_none_iff] at first
      rw [Tables.roleByUuid?, first]
      rfl
    · rename_i found
      have first := congrArg (Option.map Prod.fst) found
      rw [map_fst_changeFirst?, Option.map_some, Option.map_eq_some_iff] at first
      rcases first with ⟨present, isFirst, rfl⟩
      rw [Tables.roleByUuid?, isFirst]
      rfl

def Desk.updateReport (desk : Desk) (uuid : Uuid) (input : RoleInput) :
    Except Fault (RoleKey × RoleInput) :=
  ((Service.updateRole backend uuid input).outcome desk).1.map Role.settled

namespace Desk

theorem outcome_call_keyInUse (draft : Draft) (surroundings : Surroundings) (key : RoleKey)
    (exclude : Option Uuid) :
    (backend.call (.keyInUse key exclude)).outcome ⟨.active draft, surroundings⟩ =
      ((surroundings.check .keyInUse).map fun _ => draft.work.keyInUse key exclude,
        ⟨.active draft, surroundings⟩) := by
  change (within .keyInUse (Workspace.perform (.keyInUse key exclude))).outcome _ = _
  rw [within, Action.outcome_ofOutcome]
  rcases World.check_cases surroundings .keyInUse with passes | fails
  · rw [passes]
    rfl
  · rw [fails]
    rfl

theorem settled_call_updateRole (draft : Draft) (surroundings : Surroundings) (role : Role)
    (uuid : Uuid) :
    ((backend.call (.updateRole role uuid)).outcome ⟨.active draft, surroundings⟩).1.map
        Role.settled =
      (surroundings.check .updateRole).bind fun _ =>
        if draft.work.keyInUse role.key (some uuid) then .error (.roleExists role.key.name)
        else if (draft.work.roleByUuid? uuid).isSome then .ok role.settled
        else .error (.noRows Operation.updateRole.name) := by
  change ((within .updateRole (Workspace.perform (.updateRole role uuid))).outcome _).1.map _ = _
  rw [within, Action.outcome_ofOutcome]
  rcases World.check_cases surroundings .updateRole with passes | fails
  · rw [passes]
    exact Workspace.settled_updateRole ⟨draft.work, surroundings.supply⟩ role uuid
  · rw [fails]
    rfl

theorem settled_updateRole_congr (phase : Phase) {surroundings other : Surroundings}
    (failing : surroundings.failing = other.failing) (uuid : Uuid) (input : RoleInput)
    (title : String) (key : RoleKey) :
    let update : Action Desk Role := do
      backend.enter .roles
      if ← backend.call (.keyInUse key (some uuid)) then
        throw (Fault.roleExists key.name)
      let now ← backend.now
      backend.call (.updateRole (Service.requestedRole title key input uuid now) uuid)
    (update.outcome ⟨phase, surroundings⟩).1.map Role.settled =
      (update.outcome ⟨phase, other⟩).1.map Role.settled := by
  have checks := Surroundings.check_congr failing
  cases phase with
  | idle | finalized => rfl
  | active draft =>
      have enters : ∀ surroundings, (backend.enter .roles).outcome ⟨.active draft, surroundings⟩ =
          (.ok (), ⟨.active draft, surroundings⟩) := fun _ => rfl
      simp only [Action.outcome_bind, enters, outcome_call_keyInUse, checks]
      cases other.check .keyInUse with
      | error fault => rfl
      | ok =>
          change Except.map _ (Action.outcome (if _ then _ else _) _).1 =
            Except.map _ (Action.outcome (if _ then _ else _) _).1
          split
          · rfl
          · -- The two moments differ, but nobody looks at them.
            have dated : ∀ surroundings : Surroundings,
                ((do
                  let now ← backend.now
                  backend.call (.updateRole (Service.requestedRole title key input uuid now) uuid) :
                    Action Desk Role).outcome ⟨.active draft, surroundings⟩).1.map Role.settled =
                  (surroundings.check .updateRole).bind fun _ =>
                    if draft.work.keyInUse key (some uuid) then .error (.roleExists key.name)
                    else if (draft.work.roleByUuid? uuid).isSome then
                      .ok (key, ⟨title, input.description, input.isDefault⟩)
                    else .error (.noRows Operation.updateRole.name) := fun surroundings =>
              settled_call_updateRole draft
                { surroundings with supply := surroundings.supply.readClock.2 }
                (Service.requestedRole title key input uuid surroundings.supply.readClock.1) uuid
            exact (dated surroundings).trans (checks _ ▸ (dated other).symm)

end Desk

theorem Desk.updateReport_congr (phase : Phase) {surroundings other : Surroundings} {uuid : Uuid}
    (failing : surroundings.failing = other.failing)
    (cached : surroundings.station.cache.read uuid.text = other.station.cache.read uuid.text)
    (input : RoleInput) : updateReport ⟨phase, surroundings⟩ uuid input =
      updateReport ⟨phase, other⟩ uuid input := by
  have withKey := settled_updateRole_congr phase failing uuid input
  have read : ∀ desk : Desk, (backend.cachedKey uuid.text).outcome desk =
      (desk.surroundings.station.cache.read uuid.text, desk) := fun _ => rfl
  rw [updateReport, updateReport, Service.updateRole]
  simp only [Action.outcome_bind, Action.outcome_ofExcept, read]
  cases Service.validTitle input.title with
  | error fault => rfl
  | ok title =>
      dsimp only
      rw [cached]
      cases other.station.cache.read uuid.text with
      | error fault => rfl
      | ok found =>
          cases found with
          | some key => exact withKey title key
          | none =>
              cases RoleKey.ofTitle title with
              | error fault => rfl
              | ok key => exact withKey title key

namespace World

def updateReport (world : World) (unitName : String) (uuid : Uuid) (input : RoleInput) :
    Except Fault (RoleKey × RoleInput) :=
  ((atDesk unitName (Service.updateRole Desk.backend uuid input)).outcome world).1.map
    Role.settled

theorem updateReport_eq (world : World) (unitName : String) (uuid : Uuid) (input : RoleInput) :
    world.updateReport unitName uuid input =
      Desk.updateReport ⟨world.phaseOf unitName, world.surroundings⟩ uuid input := by
  rw [updateReport, outcome_atDesk, Desk.updateReport]

def caching (world : World) (uuid : Uuid) (key : RoleKey) : World :=
  world.step (.around (.changeCache (world.surroundings.station.cache.put uuid.text key)))

theorem updateReport_congr {world other : World} {unitName : String} {uuid : Uuid}
    (phase : world.phaseOf unitName = other.phaseOf unitName)
    (failing : world.surroundings.failing = other.surroundings.failing)
    (mode : world.surroundings.station.cache.mode = other.surroundings.station.cache.mode)
    (cached : world.surroundings.station.cache.get? uuid.text =
      other.surroundings.station.cache.get? uuid.text) (input : RoleInput) :
    world.updateReport unitName uuid input = other.updateReport unitName uuid input := by
  rw [updateReport_eq, updateReport_eq, phase]
  refine Desk.updateReport_congr _ failing ?_ input
  rw [Cache.Memory.read, Cache.Memory.read, mode, cached]

@[simp] theorem get?_caching (world : World) (uuid : Uuid) (key : RoleKey) :
    (world.caching uuid key).surroundings.station.cache.get? uuid.text = some key := by
  change (world.surroundings.station.cache.put uuid.text key).get? uuid.text = some key
  rw [Cache.Memory.get?_put, if_pos rfl]

end World

namespace Traffic

/-- A unit that is not committed makes no difference to an update in another unit, however the
worker of the queue gets its time. The one exception is a role that a listing of the unit
offered for the cache as a default role: the update may keep the key that was listed, as it does
if that key is cached. -/
theorem uncommitted_unit_leaves_listed_key {world : World} {unitName another : String}
    {moves : List Move} (different : another ≠ unitName)
    (uncommitted : ∀ move ∈ moves, move.IsUncommitted unitName) {uuid : Uuid} {key : RoleKey}
    (agrees : ∀ batch ∈ offers ⟨world, []⟩ moves, batch.Agrees uuid key) (input : RoleInput) :
    let beside := (run ⟨world, []⟩ moves).world
    let without := (run ⟨world, []⟩ (moves.filter fun move => !move.isOf unitName)).world
    beside.updateReport another uuid input = without.updateReport another uuid input ∨
      (∃ batch ∈ offers ⟨world, []⟩ moves, (uuid.text, key) ∈ batch) ∧
        beside.updateReport another uuid input =
          (without.caching uuid key).updateReport another uuid input := by
  intro beside without
  have begun : Trails unitName (offers ⟨world, []⟩ moves) ⟨world, []⟩ ⟨world, []⟩ :=
    ⟨.refl world, fun _ none => by cases none⟩
  have trails : beside.Trails unitName (offers ⟨world, []⟩ moves) without :=
    (begun.run uncommitted fun _ isOffered => isOffered).world
  -- What the two runs consist of does not matter from here on.
  clear_value beside without
  have phase := trails.elsewhere another different
  have left := trails.station.leftBy
  rcases left.keys uuid.text with same | ⟨batch, isOffered, listed, member, isListed⟩
  · exact Or.inl (World.updateReport_congr phase trails.failing left.mode same input)
  · have isKey : listed = key := agrees batch isOffered _ member rfl
    rw [isKey] at member isListed
    refine Or.inr ⟨⟨batch, isOffered, member⟩, ?_⟩
    apply World.updateReport_congr
    · exact phase
    · exact trails.failing
    · exact left.mode
    · rw [isListed, World.get?_caching]

def unlisted : World :=
  attended.step (.around (.changeCache .empty))

def listAndForget : List Move :=
  [.event (.begin "first"), .start "first" .listRoles, .advance 0, .advance 0, .advance 0,
    .event (.rollback "first"), .event (.around (.advance 100)), .event (.begin "second")]

theorem uncommitted_unit_leaves_listed_key_forgotten :
    let beside := (run ⟨unlisted, []⟩ listAndForget).world
    let without := (run ⟨unlisted, []⟩ (listAndForget.filter fun move => !move.isOf "first")).world
    beside.updateReport "second" (.ofNat 1) ⟨"Sales", "", true⟩ =
        .ok (.staff, ⟨"Sales", "", true⟩) ∧
      beside.updateReport "second" (.ofNat 1) ⟨"Sales", "", true⟩ =
        (without.caching (.ofNat 1) .staff).updateReport "second" (.ofNat 1)
          ⟨"Sales", "", true⟩ := by
  intro beside without
  have uncommitted : ∀ move ∈ listAndForget, move.IsUncommitted "first" := by
    simp [listAndForget, Move.IsUncommitted]
  have agrees : ∀ batch ∈ offers ⟨unlisted, []⟩ listAndForget,
      batch.Agrees (.ofNat 1) .staff := by
    unfold KeyBatch.Agrees
    decide +kernel
  have kept : beside.updateReport "second" (.ofNat 1) ⟨"Sales", "", true⟩ =
      .ok (.staff, ⟨"Sales", "", true⟩) := by
    decide +kernel
  have differs : beside.updateReport "second" (.ofNat 1) ⟨"Sales", "", true⟩ ≠
      without.updateReport "second" (.ofNat 1) ⟨"Sales", "", true⟩ := by
    decide +kernel
  have different : "second" ≠ "first" := by decide
  rcases uncommitted_unit_leaves_listed_key different uncommitted agrees ⟨"Sales", "", true⟩ with
    same | ⟨-, cached⟩
  · exact absurd same differs
  · exact ⟨kept, cached⟩

def renameAndForget : List Move :=
  [.event (.begin "first"), .start "first" (.updateRole (.ofNat 1) ⟨"Sales", "", true⟩),
    .advance 0, .advance 0, .advance 0, .advance 0, .advance 0, .start "first" .listRoles,
    .advance 1, .advance 1, .advance 1, .event (.rollback "first"),
    .event (.around (.advance 100)), .event (.begin "second")]

/-- A rollback does not take back what was listed. If a role was listed, an update keeps its key
where it would have changed; and if it was listed after a change that is rolled back, an update
gives it a key that was never committed. -/
theorem listing_outlives_rollback :
    (run ⟨unlisted, []⟩ listAndForget).world.updateReport "second" (.ofNat 1)
        ⟨"Sales", "", true⟩ = .ok (.staff, ⟨"Sales", "", true⟩) ∧
      (run ⟨unlisted, []⟩ (listAndForget.filter fun move =>
        !move.isOf "first")).world.updateReport "second" (.ofNat 1) ⟨"Sales", "", true⟩ =
          .ok (.sales, ⟨"Sales", "", true⟩) ∧
      (run ⟨unlisted, []⟩ renameAndForget).world.updateReport "second" (.ofNat 1)
        ⟨"Staff", "", true⟩ = .ok (.sales, ⟨"Staff", "", true⟩) ∧
      (run ⟨unlisted, []⟩ (renameAndForget.filter fun move =>
        !move.isOf "first")).world.updateReport "second" (.ofNat 1) ⟨"Staff", "", true⟩ =
          .ok (.staff, ⟨"Staff", "", true⟩) := by
  decide +kernel

end Traffic
end Entitlement
