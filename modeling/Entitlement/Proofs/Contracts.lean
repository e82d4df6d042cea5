import Entitlement.Proofs.Traffic

/-! # What tasks may ask for

A contract says what a task may ask for, and what it can rely on in the answers. Every task keeps
a contract that lets it use what it was told: the identifier that was made for a new role, the
cached key of a role that is updated, and the roles whose keys are offered for the cache. So what
requests within a contract preserve is preserved however tasks take turns. -/

namespace Entitlement

open Store

structure Contract where
  may : {α : Type} → Request α → Prop
  tells : {α : Type} → Request α → α → Prop

/-! ## Programs -/

namespace Program

variable {α β : Type} {contract : Contract}

/-- As long as the answers tell what the contract says, a program asks only for what it may, and
if it ends well, something holds of its result. -/
def Obeys (contract : Contract) (ends : α → Prop) : Program α → Prop
  | ended (.ok value) => ends value
  | ended (.error _) => True
  | ask request next =>
      contract.may request ∧ (∀ fault, (next (.error fault)).Obeys contract ends) ∧
        ∀ answer, contract.tells request answer → (next (.ok answer)).Obeys contract ends

variable {ends : α → Prop}

theorem obeys_ask {request : Request β} {next : Except Fault β → Program α} :
    (ask request next).Obeys contract ends ↔
      contract.may request ∧ (∀ fault, (next (.error fault)).Obeys contract ends) ∧
        ∀ answer, contract.tells request answer → (next (.ok answer)).Obeys contract ends := Iff.rfl

@[simp] theorem obeys_pure (value : α) :
    (pure value : Program α).Obeys contract ends ↔ ends value := Iff.rfl

@[simp] theorem obeys_throw (fault : Fault) :
    (throw fault : Program α).Obeys contract ends := True.intro

theorem obeys_bind {ends : β → Prop} (program : Program α) (next : α → Program β) :
    (program >>= next).Obeys contract ends ↔
      program.Obeys contract fun value => (next value).Obeys contract ends := by
  change (program.bind next).Obeys contract ends ↔ _
  induction program with
  | ended result => cases result <;> exact Iff.rfl
  | ask request rest induction => simp only [Program.bind, Obeys, induction]

theorem obeys_ofExcept (result : Except Fault α) :
    (MonadExcept.ofExcept result : Program α).Obeys contract ends ↔
      ∀ value, result = .ok value → ends value := by
  cases result with
  | error fault => simp [MonadExcept.ofExcept]
  | ok value => simp [MonadExcept.ofExcept]

theorem obeys_request {request : Request α} : (Program.request request).Obeys contract ends ↔
    contract.may request ∧ ∀ answer, contract.tells request answer → ends answer := by
  simp [Program.request, Obeys]

theorem Obeys.imp {weaker : α → Prop} {program : Program α}
    (obeys : program.Obeys contract ends) (implies : ∀ value, ends value → weaker value) :
    program.Obeys contract weaker := by
  induction program with
  | ended result =>
      cases result with
      | error fault => exact True.intro
      | ok value => exact implies value obeys
  | ask request rest induction =>
      refine ⟨obeys.1, fun fault => induction _ (obeys.2.1 fault), fun answer isTold => ?_⟩
      exact induction _ (obeys.2.2 answer isTold)

protected theorem Obeys.pure (value : α) :
    (pure value : Program α).Obeys contract fun _ => True :=
  (obeys_pure value).mpr True.intro

protected theorem Obeys.bind {ends : β → Prop} {program : Program α} {next : α → Program β}
    (obeys : program.Obeys contract fun _ => True)
    (goesOn : ∀ value, (next value).Obeys contract ends) :
    (program >>= next).Obeys contract ends :=
  (obeys_bind program next).mpr (obeys.imp fun value _ => goesOn value)

theorem Obeys.ofExcept_bind {ends : β → Prop} {result : Except Fault α} {next : α → Program β}
    (goesOn : ∀ value, (next value).Obeys contract ends) :
    (MonadExcept.ofExcept result >>= next : Program β).Obeys contract ends := by
  rw [obeys_bind, obeys_ofExcept]
  exact fun value _ => goesOn value

theorem obeys_mapM {f : α → Program β} (items : List α)
    (each : ∀ item, (f item).Obeys contract fun _ => True) :
    (items.mapM f).Obeys contract fun _ => True := by
  have loop : ∀ values, (List.mapM.loop f items values).Obeys contract fun _ => True := by
    induction items with
    | nil => exact fun _ => True.intro
    | cons item items induction =>
        intro values
        rw [List.mapM.loop, obeys_bind]
        exact (each item).imp fun value _ => induction (value :: values)
  exact loop []

-- Services are long, and are not to be unfolded where the lemmas above do.
attribute [irreducible] Obeys

end Program

/-! ## Tasks -/

def Request.isPlain {α : Type} : Request α → Bool
  | call (.createRole _) | call (.updateRole _ _) | call (.deleteRole _ _) | offerKeys _ => false
  | _ => true

def Request.isAnonymous {α : Type} : Request α → Bool
  | userByUuid _ => false
  | _ => true

def Task.deletesRoles {α : Type} : Task α → Bool
  | deleteRole _ _ => true
  | _ => false

def Task.looksUpUser {α : Type} : Task α → Bool
  | checkAccess _ _ | effectivePermissions _ => true
  | _ => false

structure Contract.IsFairToAnonymous (contract : Contract) : Prop where
  plain : ∀ {α : Type} (request : Request α), request.isPlain → request.isAnonymous →
    contract.may request
  creates : ∀ role, contract.tells .freshUuid role.uuid → contract.may (.call (.createRole role))
  updates : ∀ uuid role cached, contract.tells (.cachedKey uuid.text) cached →
    (∀ key ∈ cached, role.key = key) → contract.may (.call (.updateRole role uuid))
  offers : ∀ roles, contract.tells (.call .liveRoles) roles →
    contract.may (.offerKeys (Service.defaultKeys roles))

structure Contract.IsFair (contract : Contract) : Prop extends contract.IsFairToAnonymous where
  users : ∀ text, contract.may (.userByUuid text)

namespace Contract.IsFairToAnonymous

variable {α : Type} {contract : Contract} (fair : contract.IsFairToAnonymous)

include fair

theorem enter (area : Area) :
    (Program.backend.enter area).Obeys contract fun _ => True :=
  Program.obeys_request.mpr ⟨fair.plain _ rfl rfl, fun _ _ => True.intro⟩

theorem call {asked : Call α} (plain : (Request.call asked).isPlain = true) :
    (Program.backend.call asked).Obeys contract fun _ => True :=
  Program.obeys_request.mpr ⟨fair.plain _ plain rfl, fun _ _ => True.intro⟩

theorem now : Program.backend.now.Obeys contract fun _ => True :=
  Program.obeys_request.mpr ⟨fair.plain _ rfl rfl, fun _ _ => True.intro⟩

theorem countDecision (decision : Decision) :
    (Program.backend.countDecision decision).Obeys contract fun _ => True :=
  Program.obeys_request.mpr ⟨fair.plain _ rfl rfl, fun _ _ => True.intro⟩

/-! ### Administration of roles -/

theorem createRole (input : RoleInput) :
    (Service.createRole Program.backend input).Obeys contract fun _ => True := by
  refine Program.Obeys.ofExcept_bind fun title => Program.Obeys.ofExcept_bind fun key => ?_
  refine (fair.enter .roles).bind fun _ => (fair.call rfl).bind fun used => ?_
  split
  · exact Program.obeys_throw _
  · refine fair.now.bind fun now => ?_
    -- The role has the identifier that was just made.
    refine (Program.obeys_bind _ _).mpr (Program.obeys_request.mpr ⟨fair.plain _ rfl rfl, ?_⟩)
    intro uuid isMade
    exact Program.obeys_request.mpr ⟨fair.creates _ isMade, fun _ _ => True.intro⟩

theorem listRoles : (Service.listRoles Program.backend).Obeys contract fun _ => True := by
  refine (fair.enter .roles).bind fun _ => ?_
  refine (Program.obeys_bind _ _).mpr (Program.obeys_request.mpr ⟨fair.plain _ rfl rfl, ?_⟩)
  intro roles areTold
  dsimp only
  split
  · exact Program.Obeys.bind
      (Program.obeys_request.mpr ⟨fair.offers roles areTold, fun _ _ => True.intro⟩)
      fun _ => Program.Obeys.pure _
  · exact Program.Obeys.pure _

theorem updateRole (uuid : Uuid) (input : RoleInput) :
    (Service.updateRole Program.backend uuid input).Obeys contract fun _ => True := by
  refine Program.Obeys.ofExcept_bind fun title => ?_
  refine (Program.obeys_bind _ _).mpr (Program.obeys_request.mpr ⟨fair.plain _ rfl rfl, ?_⟩)
  intro cached isTold
  have withKey : ∀ key, (∀ kept ∈ cached, key = kept) → (do
      Program.backend.enter .roles
      if ← Program.backend.call (.keyInUse key (some uuid)) then
        throw (Fault.roleExists key.name)
      let now ← Program.backend.now
      Program.backend.call (.updateRole (Service.requestedRole title key input uuid now) uuid) :
        Program Role).Obeys contract fun _ => True := by
    intro key isKept
    refine (fair.enter .roles).bind fun _ => (fair.call rfl).bind fun used => ?_
    split
    · exact Program.obeys_throw _
    · refine fair.now.bind fun now => ?_
      exact Program.obeys_request.mpr
        ⟨fair.updates uuid _ cached isTold isKept, fun _ _ => True.intro⟩
  cases cached with
  | none => exact Program.Obeys.ofExcept_bind fun key => withKey key fun _ none => by cases none
  | some key => exact withKey key fun kept isCached => Option.some.inj isCached

theorem syncPermissions (uuid : Uuid) (permissionUuids : List String) :
    (Service.syncPermissions Program.backend uuid permissionUuids).Obeys contract
      fun _ => True := by
  refine Program.Obeys.ofExcept_bind fun uuids => (fair.enter .permissions).bind fun _ => ?_
  refine (fair.call rfl).bind fun ids => (fair.enter .roles).bind fun _ => ?_
  exact (fair.call rfl).bind fun role => (fair.call rfl).bind fun _ => fair.call rfl

/-! ### Giving roles and permissions -/

theorem assignUserRole (userId : Int) :
    (Service.assignUserRole Program.backend userId).Obeys contract fun _ => True := by
  refine (fair.enter .roles).bind fun _ => Program.Obeys.bind ?_ fun role => ?_
  · refine (fair.call rfl).bind fun found => ?_
    cases found with
    | none => exact Program.obeys_throw _
    | some role => exact Program.Obeys.pure _
  · exact (fair.enter .grants).bind fun _ => (fair.call rfl).bind fun _ => Program.Obeys.pure _

theorem assignRoles (userId : Int) (roleUuids : List String) :
    (Service.assignRoles Program.backend userId roleUuids).Obeys contract fun _ => True := by
  refine Program.Obeys.ofExcept_bind fun uuids => (fair.enter .roles).bind fun _ => ?_
  refine (Program.obeys_mapM uuids fun uuid => fair.call rfl).bind fun roles => ?_
  exact (fair.enter .grants).bind fun _ => (fair.call rfl).bind fun _ => Program.Obeys.pure _

theorem grantPermissions (userId : Int) (permissionUuids : List String) :
    (Service.grantPermissions Program.backend userId permissionUuids).Obeys contract
      fun _ => True := by
  refine Program.Obeys.ofExcept_bind fun uuids => (fair.enter .permissions).bind fun _ => ?_
  refine (fair.call rfl).bind fun ids => (fair.enter .grants).bind fun _ => ?_
  exact (fair.call rfl).bind fun _ => Program.Obeys.pure _

/-! ### Seeding -/

theorem seedPermissions (keys : List PermissionKey) (index : Service.PermissionIndex)
    (created : Nat) : (Service.seedPermissions Program.backend index created keys).Obeys contract
      fun _ => True := by
  induction keys generalizing index created with
  | nil => exact Program.Obeys.pure _
  | cons key keys induction =>
      rw [Service.seedPermissions]
      split
      · exact induction index created
      · refine fair.now.bind fun now => Program.Obeys.bind ?_ fun uuid => ?_
        · exact Program.obeys_request.mpr ⟨fair.plain _ rfl rfl, fun _ _ => True.intro⟩
        · exact (fair.call rfl).bind fun permission => induction _ _

theorem seedRole (index : Service.PermissionIndex) (definition : Service.RoleDefinition) :
    (Service.seedRole Program.backend index definition).Obeys contract fun _ => True := by
  refine (fair.call rfl).bind fun found => ?_
  split
  · exact Program.Obeys.pure _
  · refine fair.now.bind fun now => ?_
    refine (Program.obeys_bind _ _).mpr (Program.obeys_request.mpr ⟨fair.plain _ rfl rfl, ?_⟩)
    intro uuid isMade
    refine Program.Obeys.bind ?_ fun role => (fair.call rfl).bind fun _ => Program.Obeys.pure _
    exact Program.obeys_request.mpr ⟨fair.creates _ isMade, fun _ _ => True.intro⟩

theorem seedRoles (definitions : List Service.RoleDefinition) (index : Service.PermissionIndex)
    (created : Nat) : (Service.seedRoles Program.backend index created definitions).Obeys contract
      fun _ => True := by
  induction definitions generalizing created with
  | nil => exact Program.Obeys.pure _
  | cons definition definitions induction =>
      exact (fair.seedRole index definition).bind fun isNew => induction _

theorem seed : (Service.seed Program.backend).Obeys contract fun _ => True := by
  refine (fair.enter .permissions).bind fun _ => (fair.call rfl).bind fun permissions => ?_
  refine (fair.seedPermissions _ _ _).bind fun result => (fair.enter .roles).bind fun _ => ?_
  exact (fair.seedRoles _ _ _).bind fun _ => Program.Obeys.pure _

end Contract.IsFairToAnonymous

namespace Contract.IsFair

variable {contract : Contract} (fair : contract.IsFair)

include fair

theorem activeUser (text : String) :
    (Service.activeUser Program.backend text).Obeys contract fun _ => True := by
  refine Program.Obeys.bind ?_ fun _ => Program.Obeys.ofExcept_bind fun _ => Program.Obeys.pure _
  exact Program.obeys_request.mpr ⟨fair.users text, fun _ _ => True.intro⟩

theorem checkAccess (text : String) (required : List PermissionKey) :
    (Service.checkAccess Program.backend text required).Obeys contract fun _ => True := by
  have later := fair.toIsFairToAnonymous
  refine (fair.activeUser text).bind fun user => (later.enter .roles).bind fun _ => ?_
  refine (later.call rfl).bind fun roleKeys => ?_
  split
  · exact (later.countDecision _).bind fun _ => Program.Obeys.pure _
  · refine (later.enter .permissions).bind fun _ => (later.call rfl).bind fun effective => ?_
    exact (later.countDecision _).bind fun _ => Program.Obeys.pure _

theorem effectivePermissions (text : String) :
    (Service.effectivePermissions Program.backend text).Obeys contract fun _ => True := by
  have later := fair.toIsFairToAnonymous
  exact (fair.activeUser text).bind fun user => (later.enter _).bind fun _ => later.call rfl

end Contract.IsFair

theorem Task.obeys_of_anonymous {α : Type} {contract : Contract}
    (fair : contract.IsFairToAnonymous) (task : Task α) (anonymous : task.looksUpUser = false)
    (deletes : task.deletesRoles = true →
      ∀ uuid deletedBy, contract.may (.call (.deleteRole uuid deletedBy))) :
    (task.perform Program.backend).Obeys contract fun _ => True := by
  cases task with
  | createRole input => exact fair.createRole input
  | listRoles => exact fair.listRoles
  | updateRole uuid input => exact fair.updateRole uuid input
  | deleteRole uuid deletedBy =>
      refine (fair.enter .roles).bind fun _ => ?_
      exact Program.obeys_request.mpr ⟨deletes rfl uuid deletedBy, fun _ _ => True.intro⟩
  | syncPermissions uuid permissionUuids => exact fair.syncPermissions uuid permissionUuids
  | checkAccess | effectivePermissions => cases anonymous
  | assignUserRole userId => exact fair.assignUserRole userId
  | assignRoles userId roleUuids => exact fair.assignRoles userId roleUuids
  | grantPermissions userId permissionUuids => exact fair.grantPermissions userId permissionUuids
  | seed => exact fair.seed
  | getRole | getPermissions | listPermissions | createPermission =>
      exact (fair.enter _).bind fun _ => fair.call rfl

theorem Task.obeys {α : Type} {contract : Contract} (fair : contract.IsFair) (task : Task α)
    (deletes : task.deletesRoles = true →
      ∀ uuid deletedBy, contract.may (.call (.deleteRole uuid deletedBy))) :
    (task.perform Program.backend).Obeys contract fun _ => True := by
  cases looksUp : task.looksUpUser with
  | false => exact task.obeys_of_anonymous fair.toIsFairToAnonymous looksUp deletes
  | true =>
      cases task with
      | checkAccess text required => exact fair.checkAccess text required
      | effectivePermissions text => exact fair.effectivePermissions text
      | _ => cases looksUp

/-! ## Tasks that take turns -/

theorem World.holds_request {invariant : World → Prop} {allowed : Event → Prop}
    (steps : ∀ {world event}, invariant world → allowed event → invariant (world.step event))
    {world : World} (holds : invariant world) {unitName : String} {α : Type} {request : Request α}
    (each : ∀ event ∈ request.events unitName, allowed event) :
    invariant ((atDesk unitName (request.perform Desk.backend)).outcome world).2 := by
  rw [← run_events]
  generalize request.events unitName = events at each
  induction events generalizing world with
  | nil => exact holds
  | cons event events induction =>
      rcases List.forall_mem_cons.mp each with ⟨here, later⟩
      exact induction (steps holds here) later

namespace Traffic

structure Upholds (invariant : World → Prop) (contract : String → Contract)
    (traffic : Traffic) : Prop where
  holds : invariant traffic.world
  obeyed : ∀ job ∈ traffic.underWay, job.program.Obeys (contract job.unitName) fun _ => True

def Preserves (invariant : World → Prop) (contract : String → Contract) : Prop :=
  ∀ (world : World) (unitName : String) {α : Type} (request : Request α), invariant world →
    (contract unitName).may request →
      let (answer, later) :=
        (World.atDesk unitName (request.perform Desk.backend)).outcome world
      invariant later ∧ ∀ value, answer = .ok value → (contract unitName).tells request value

variable {invariant : World → Prop} {contract : String → Contract} {traffic : Traffic}

theorem Upholds.advance (preserves : Preserves invariant contract)
    (upholds : traffic.Upholds invariant contract) (place : Nat) :
    (traffic.move (.advance place)).Upholds invariant contract := by
  rw [move]
  rcases found : traffic.underWay[place]? with _ | ⟨unitName, Answer, program⟩
  · exact upholds
  · have obeys := upholds.obeyed _ (List.mem_of_getElem? found)
    have others : ∀ changed : Job,
        changed.program.Obeys (contract changed.unitName) (fun _ => True) →
        ∀ job ∈ traffic.underWay.set place changed,
          job.program.Obeys (contract job.unitName) fun _ => True := by
      intro changed kept job member
      rcases List.mem_or_eq_of_mem_set member with old | rfl
      · exact upholds.obeyed job old
      · exact kept
    cases program with
    | ended result => exact ⟨upholds.holds, others _ obeys⟩
    | ask request next =>
        have obeys := Program.obeys_ask.mp obeys
        have preserved := preserves traffic.world unitName request upholds.holds obeys.1
        rcases reached : (World.atDesk unitName (request.perform Desk.backend)).outcome
          traffic.world with ⟨answer, later⟩
        rw [reached] at preserved
        simp only [Job.advance, reached]
        refine ⟨preserved.1, others _ ?_⟩
        cases answer with
        | error fault => exact obeys.2.1 fault
        | ok value => exact obeys.2.2 value (preserved.2 value rfl)

theorem Upholds.event (upholds : traffic.Upholds invariant contract) {event : Event}
    (preserved : invariant (traffic.world.step event)) :
    (traffic.move (.event event)).Upholds invariant contract :=
  ⟨preserved, upholds.obeyed⟩

theorem Upholds.start (upholds : traffic.Upholds invariant contract) {α : Type}
    (unitName : String) (task : Task α)
    (obeys : (task.perform Program.backend).Obeys (contract unitName) fun _ => True) :
    (traffic.move (.start unitName task)).Upholds invariant contract := by
  refine ⟨upholds.holds, fun job member => ?_⟩
  rcases List.mem_append.mp member with old | isNew
  · exact upholds.obeyed job old
  · cases List.mem_singleton.mp isNew
    exact obeys

/-- If every task keeps the contract, whatever requests within the contract and the other events
preserve holds after any number of moves. -/
theorem Upholds.run (fair : ∀ unitName, (contract unitName).IsFair)
    (preserves : Preserves invariant contract) {moves : List Move}
    (upholds : traffic.Upholds invariant contract)
    (steps : ∀ event, Move.event event ∈ moves →
      ∀ world, invariant world → invariant (world.step event))
    (deletes : ∀ {α : Type} (unitName : String) (task : Task α), Move.start unitName task ∈ moves →
      task.deletesRoles = true →
        ∀ uuid deletedBy, (contract unitName).may (.call (.deleteRole uuid deletedBy))) :
    (traffic.run moves).Upholds invariant contract := by
  induction moves generalizing traffic with
  | nil => exact upholds
  | cons move moves induction =>
      refine induction ?_ (fun event member => steps event (List.mem_cons_of_mem move member))
        fun unitName task member => deletes unitName task (List.mem_cons_of_mem move member)
      cases move with
      | event event => exact upholds.event (steps event List.mem_cons_self _ upholds.holds)
      | start unitName task =>
          exact upholds.start unitName task
            (task.obeys (fair unitName) (deletes unitName task List.mem_cons_self))
      | advance place => exact upholds.advance preserves place

end Traffic
end Entitlement
