import Entitlement.Database.Desk
import Entitlement.Service.Access
import Entitlement.Service.Seeding

/-! # Orderly work on the database

Services send their statements within the unit of work that they are given. They never end it,
and they give up as soon as the database refuses a statement: no refusal is passed over. -/

namespace Entitlement
namespace Database

/-! ## Statements in a row -/

namespace Link

def Refuses (link : Link) (statement : Statement) : Prop :=
  ∃ state, (link.exchange statement).1 = .refused state

def sendAll (link : Link) (statements : List Statement) : Link :=
  { link with sent := link.sent ++ statements }

def Accepts (link : Link) : List Statement → Prop
  | [] => True
  | statement :: rest => ¬link.Refuses statement ∧ (link.sendAll [statement]).Accepts rest

variable {link : Link} {statement : Statement} {sent others : List Statement}

@[simp] theorem sendAll_nil : link.sendAll [] = link := by
  simp [sendAll]

@[simp] theorem sendAll_sendAll :
    (link.sendAll sent).sendAll others = link.sendAll (sent ++ others) := by
  simp [sendAll]

theorem exchange_snd : (link.exchange statement).2 = link.sendAll [statement] := rfl

theorem accepts_append :
    link.Accepts (sent ++ others) ↔ link.Accepts sent ∧ (link.sendAll sent).Accepts others := by
  induction sent generalizing link with
  | nil => simp [Accepts]
  | cons statement sent induction => simp [Accepts, induction, and_assoc]

theorem accepts_singleton : link.Accepts [statement] ↔ ¬link.Refuses statement := by
  simp [Accepts]

end Link

/-! ## Orderly actions -/

/-- What an orderly action does within a transaction. The transaction stays as it is, the
statements do not end it, and at most the last of them is refused, which the action fails for. -/
structure Transaction.Sends {α : Type} (before : Transaction) (sent : List Statement)
    (result : Except Fault α) (after : Transaction) : Prop where
  after_eq : after = { before with link := before.link.sendAll sent }
  inside : ∀ statement ∈ sent, statement.isBoundary = false
  opening : before.link.Accepts sent.dropLast
  accepted : ∀ value, result = .ok value → before.link.Accepts sent

def Orderly {σ α : Type} (view : σ → Transaction) (action : Action σ α) : Prop :=
  ∀ state, ∃ sent, (view state).Sends sent (action.outcome state).1 (view (action.outcome state).2)

namespace Orderly

variable {σ α β : Type} {view : σ → Transaction}

theorem of_silent {action : Action σ α}
    (silent : ∀ state, view (action.outcome state).2 = view state) : Orderly view action :=
  fun state => ⟨[], by simp [silent], by simp, trivial, fun _ _ => trivial⟩

theorem pure (value : α) : Orderly view (Pure.pure value : Action σ α) := of_silent fun _ => rfl

theorem throw (fault : Fault) : Orderly view (throwThe Fault fault : Action σ α) :=
  of_silent fun _ => rfl

theorem ofExcept (result : Except Fault α) :
    Orderly view (MonadExcept.ofExcept result : Action σ α) :=
  of_silent fun state => by rw [Action.outcome_ofExcept]

theorem bind {action : Action σ α} {next : α → Action σ β} (first : Orderly view action)
    (second : ∀ value, Orderly view (next value)) : Orderly view (action >>= next) := by
  intro state
  rcases first state with ⟨sent, sends⟩
  rw [Action.outcome_bind]
  rcases reached : action.outcome state with ⟨fault | value, later⟩
  · rw [reached] at sends
    exact ⟨sent, sends.after_eq, sends.inside, sends.opening, by simp⟩
  · rw [reached] at sends
    rcases second value later with ⟨others, otherSends⟩
    have isLater : (view later).link = (view state).link.sendAll sent := by rw [sends.after_eq]
    have accepted := sends.accepted value rfl
    refine ⟨sent ++ others, ?_, ?_, ?_, ?_⟩
    · rw [otherSends.after_eq, isLater, sends.after_eq, Link.sendAll_sendAll]
    · exact List.forall_mem_append.mpr ⟨sends.inside, otherSends.inside⟩
    · rw [List.dropLast_append]
      split
      · exact sends.opening
      · rw [Link.accepts_append, ← isLater]
        exact ⟨accepted, otherSends.opening⟩
    · intro result isResult
      rw [Link.accepts_append, ← isLater]
      exact ⟨accepted, otherSends.accepted result isResult⟩

theorem ite {condition : Prop} [Decidable condition] {action other : Action σ α}
    (first : Orderly view action) (second : Orderly view other) :
    Orderly view (if condition then action else other) := by
  split
  · exact first
  · exact second

end Orderly

/-! ## Calls -/

namespace Transaction

variable {α : Type}

structure Composes (property : {α : Type} → Action Transaction α → Prop) : Prop where
  pure : ∀ {α : Type} (value : α), property (Pure.pure value : Action Transaction α)
  throw : ∀ {α : Type} (fault : Fault), property (throwThe Fault fault : Action Transaction α)
  bind : ∀ {α β : Type} {action : Action Transaction α} {next : α → Action Transaction β},
    property action → (∀ value, property (next value)) → property (action >>= next)
  ask : ∀ (operation : Operation) {statement : Statement} (repeated : Fault),
    statement.isBoundary = false → property (ask operation statement repeated)

namespace Composes

variable {property : {α : Type} → Action Transaction α → Prop}

theorem either {condition : Prop} [Decidable condition] {action other : Action Transaction α}
    (first : property action) (second : property other) :
    property (if condition then action else other) := by
  split
  · exact first
  · exact second

variable (composes : Composes property)

include composes

theorem askPlainly (operation : Operation) {statement : Statement}
    (inside : statement.isBoundary = false) :
    property (Transaction.askPlainly operation statement) :=
  composes.ask operation _ inside

theorem orFail (operation : Operation) (value? : Option α) :
    property (Transaction.orFail operation value?) := by
  cases value? with
  | none => exact composes.throw _
  | some value => exact composes.pure value

theorem readFirst (operation : Operation) (read? : Row → Option α) (answer : Answer) :
    property (Transaction.readFirst operation read? answer) := by
  rw [Transaction.readFirst]
  split
  · exact composes.pure none
  · rw [map_eq_pure_bind]
    exact composes.bind (composes.orFail operation _) fun _ => composes.pure _

theorem roleByUuid (uuid : Uuid) : property (Transaction.roleByUuid uuid) := by
  refine composes.bind (composes.askPlainly _ rfl) fun answer =>
    composes.bind (composes.readFirst _ _ _) fun role? => ?_
  cases role? with
  | none => exact composes.throw _
  | some role => exact composes.pure role

theorem updateRole (role : Role) (uuid : Uuid) : property (Transaction.updateRole role uuid) := by
  refine composes.bind (composes.ask _ _ rfl) fun answer =>
    composes.bind (composes.readFirst _ _ _) fun role? => ?_
  cases role? with
  | none => exact composes.throw _
  | some role => exact composes.pure role

theorem perform (call : Call α) : property (Transaction.perform call) := by
  have asked (operation : Operation) {statement : Statement}
      (inside : statement.isBoundary = false) := composes.askPlainly operation inside
  cases call with
  | createRole role => exact composes.bind (composes.ask _ _ rfl) fun _ => composes.orFail _ _
  | roleByUuid uuid => exact composes.roleByUuid uuid
  | liveRoles => exact composes.bind (asked _ rfl) fun _ => composes.orFail _ _
  | updateRole role uuid => exact composes.updateRole role uuid
  | deleteRole uuid deletedBy =>
      exact composes.bind (asked _ rfl) fun _ => either (composes.throw _) (composes.pure ())
  | keyInUse key exclude => exact composes.bind (asked _ rfl) fun _ => composes.orFail _ _
  | roleByKey key => exact composes.bind (asked _ rfl) fun _ => composes.readFirst _ _ _
  | roleWithPermissions uuid =>
      exact composes.bind (composes.roleByUuid uuid) fun _ => composes.bind (asked _ rfl) fun _ =>
        composes.bind (composes.orFail _ _) fun _ => composes.pure _
  | replacePermissions roleId permissionIds =>
      exact composes.bind (asked _ rfl) fun _ =>
        either (composes.bind (asked _ rfl) fun _ => composes.pure ()) (composes.pure ())
  | roleKeysOf userId | permissionKeysOf userId =>
      exact composes.bind (asked _ rfl) fun _ =>
        composes.bind (composes.orFail _ _) fun _ => composes.pure _
  | livePermissions => exact composes.bind (asked _ rfl) fun _ => composes.orFail _ _
  | permissionIds uuids =>
      exact either (composes.pure [])
        (composes.bind (asked _ rfl) fun _ => composes.orFail _ _)
  | createPermission permission =>
      exact composes.bind (asked _ rfl) fun _ => composes.orFail _ _
  | assignRoles userId roleIds =>
      exact composes.bind (asked _ rfl) fun _ =>
        either (composes.bind (asked _ rfl) fun _ => composes.pure ()) (composes.pure ())
  | grantPermissions userId permissionIds =>
      exact either (composes.bind (asked _ rfl) fun _ => composes.pure ()) (composes.pure ())
  | grantsOf userId => exact composes.bind (asked _ rfl) fun _ => composes.orFail _ _

end Composes

theorem sends_of_exchange {stage : Stage} {link later : Link} {statement : Statement}
    {answer : Answer} (inside : statement.isBoundary = false)
    (answered : link.exchange statement = (answer, later)) {result : Except Fault α}
    (fails : (∃ state, answer = .refused state) → ∃ fault, result = .error fault) :
    Sends ⟨stage, link⟩ [statement] result ⟨stage, later⟩ where
  after_eq := by rw [← Link.exchange_snd, answered]
  inside := by simpa using inside
  opening := trivial
  accepted := by
    rintro value rfl
    rw [Link.accepts_singleton, Link.Refuses, answered]
    exact fun refuses => nomatch fails refuses

theorem orderly_ask (operation : Operation) {statement : Statement} (repeated : Fault)
    (inside : statement.isBoundary = false) : Orderly id (ask operation statement repeated) := by
  intro transaction
  rw [ask, Action.outcome_ofOutcome]
  split
  · rcases answered : transaction.link.exchange statement with ⟨rows | count | state, link⟩
    all_goals exact ⟨[statement], sends_of_exchange inside answered (by simp)⟩
  · exact ⟨[], by simp, by simp, trivial, by simp⟩

theorem orderly_perform (call : Call α) : Orderly id (perform call) := by
  have composes : Composes fun action => Orderly id action := {
    pure := .pure
    throw := .throw
    bind := .bind
    ask := orderly_ask }
  exact composes.perform call

end Transaction

namespace Link

theorem orderly_ask (stage : Stage) (operation : Operation) {statement : Statement}
    (inside : statement.isBoundary = false) :
    Orderly (Transaction.mk stage) (ask operation statement) := by
  intro link
  rw [ask, Action.outcome_ofOutcome]
  split
  · rcases answered : link.exchange statement with ⟨rows | count | state, later⟩
    all_goals exact ⟨[statement], Transaction.sends_of_exchange inside answered (by simp)⟩
  · exact ⟨[], by simp, by simp, trivial, by simp⟩

theorem orderly_userByUuid (stage : Stage) (text : String) :
    Orderly (Transaction.mk stage) (userByUuid text) := by
  rw [userByUuid]
  split
  · exact .throw _
  · refine .bind (orderly_ask stage _ rfl) fun answer => ?_
    split
    · exact .throw _
    · split
      · exact .pure _
      · exact .throw _

end Link

/-! ## Services -/

namespace Desk

def transaction (desk : Desk) : Transaction := ⟨desk.stage, desk.shared.link⟩

variable {α : Type}

theorem orderly_enter (area : Area) : Orderly transaction (backend.enter area) :=
  .of_silent fun _ => rfl

theorem orderly_call (call : Call α) : Orderly transaction (backend.call call) :=
  fun desk => Transaction.orderly_perform call desk.transaction

theorem orderly_now : Orderly transaction backend.now := .of_silent fun _ => rfl

theorem orderly_freshUuid : Orderly transaction backend.freshUuid := .of_silent fun _ => rfl

theorem orderly_offerKeys (batch : KeyBatch) : Orderly transaction (backend.offerKeys batch) :=
  .of_silent fun _ => rfl

theorem orderly_countDecision (decision : Decision) :
    Orderly transaction (backend.countDecision decision) :=
  .of_silent fun _ => rfl

theorem orderly_userByUuid (text : String) : Orderly transaction (backend.userByUuid text) :=
  fun desk => Link.orderly_userByUuid desk.stage text desk.shared.link

theorem orderly_listRoles : Orderly transaction (Service.listRoles backend) :=
  .bind (orderly_enter _) fun _ => .bind (orderly_call _) fun _ =>
    .ite (.bind (orderly_offerKeys _) fun _ => .pure _) (.pure _)

theorem orderly_listPermissions : Orderly transaction (Service.listPermissions backend) :=
  .bind (orderly_enter _) fun _ => orderly_call _

theorem orderly_syncPermissions (uuid : Uuid) (permissionUuids : List String) :
    Orderly transaction (Service.syncPermissions backend uuid permissionUuids) :=
  .bind (.ofExcept _) fun _ => .bind (orderly_enter _) fun _ => .bind (orderly_call _) fun _ =>
    .bind (orderly_enter _) fun _ => .bind (orderly_call _) fun _ =>
      .bind (orderly_call _) fun _ => orderly_call _

theorem orderly_assignUserRole (userId : Int) :
    Orderly transaction (Service.assignUserRole backend userId) := by
  have userRole : Orderly transaction (Service.userRole backend) := by
    refine .bind (orderly_call _) fun role? => ?_
    cases role? with
    | none => exact .throw _
    | some role => exact .pure role
  exact .bind (orderly_enter _) fun _ => .bind userRole fun _ => .bind (orderly_enter _) fun _ =>
    .bind (orderly_call _) fun _ => .pure _

theorem orderly_checkAccess (userUuid : String) (required : List PermissionKey) :
    Orderly transaction (Service.checkAccess backend userUuid required) := by
  have activeUser : Orderly transaction (Service.activeUser backend userUuid) :=
    .bind (orderly_userByUuid _) fun _ => .bind (.ofExcept _) fun _ => .pure _
  have count (decision : Decision) :
      Orderly transaction (do backend.countDecision decision; return decision) :=
    .bind (orderly_countDecision _) fun _ => .pure _
  exact .bind activeUser fun user => .bind (orderly_enter _) fun _ =>
    .bind (orderly_call _) fun roleKeys => .ite (.bind (.pure _) count)
      (.bind (orderly_enter _) fun _ => .bind (orderly_call _) fun _ => .bind (.pure _) count)

theorem orderly_seedPermissions (index : Service.PermissionIndex) (created : Nat)
    (keys : List PermissionKey) :
    Orderly transaction (Service.seedPermissions backend index created keys) := by
  induction keys generalizing index created with
  | nil => exact .pure _
  | cons key keys induction =>
      exact .ite (induction _ _)
        (.bind orderly_now fun _ => .bind orderly_freshUuid fun _ => .bind (orderly_call _) fun _ =>
          induction _ _)

theorem orderly_seedRole (index : Service.PermissionIndex) (definition : Service.RoleDefinition) :
    Orderly transaction (Service.seedRole backend index definition) :=
  .bind (orderly_call _) fun _ => .ite (.pure _)
    (.bind orderly_now fun _ => .bind orderly_freshUuid fun _ => .bind (orderly_call _) fun _ =>
      .bind (orderly_call _) fun _ => .pure _)

theorem orderly_seedRoles (index : Service.PermissionIndex) (created : Nat)
    (definitions : List Service.RoleDefinition) :
    Orderly transaction (Service.seedRoles backend index created definitions) := by
  induction definitions generalizing created with
  | nil => exact .pure _
  | cons definition definitions induction =>
      exact .bind (orderly_seedRole _ _) fun _ => induction _

theorem orderly_seed : Orderly transaction (Service.seed backend) :=
  .bind (orderly_enter _) fun _ => .bind (orderly_call _) fun _ =>
    .bind (orderly_seedPermissions _ _ _) fun _ => .bind (orderly_enter _) fun _ =>
      .bind (orderly_seedRoles _ _ _) fun _ => .pure _

end Desk
end Database
end Entitlement
