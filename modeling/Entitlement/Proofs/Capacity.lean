import Entitlement.Proofs.Discipline

/-! # Numbers of connections

How many connections there are matters only where one is taken: when a unit of work begins and
when a user is looked up. Where one is free, more of them make no difference. -/

namespace Entitlement

/-! ## Changes that do not matter -/

namespace Action

variable {σ τ α β : Type}

/-- A change of the state does not matter to an action: it ends in the same result, and leaves the
changed state that it would have left. -/
def Disregards (change : σ → σ) (state : σ) (action : Action σ α) : Prop :=
  action.outcome (change state) = ((action.outcome state).1, change (action.outcome state).2)

namespace Disregards

variable {change : σ → σ} {state : σ} {action : Action σ α}

theorem pure (value : α) : (Pure.pure value : Action σ α).Disregards change state := rfl

theorem throw (fault : Fault) : (throwThe Fault fault : Action σ α).Disregards change state := rfl

theorem bind {next : α → Action σ β} (first : action.Disregards change state)
    (second : ∀ value later, action.outcome state = (.ok value, later) →
      (next value).Disregards change later) : (action >>= next).Disregards change state := by
  rw [Disregards, outcome_bind, outcome_bind, first]
  rcases reached : action.outcome state with ⟨fault | value, later⟩
  · rfl
  · exact second value later reached

theorem tryCatch {recover : Fault → Action σ α} (first : action.Disregards change state)
    (second : ∀ fault later, action.outcome state = (.error fault, later) →
      (recover fault).Disregards change later) :
    (MonadExcept.tryCatch action recover).Disregards change state := by
  rw [Disregards, outcome_tryCatch, outcome_tryCatch, first]
  rcases reached : action.outcome state with ⟨fault | value, later⟩
  · exact second fault later reached
  · rfl

theorem onPart {part : τ → σ} {replace : τ → σ → τ} {whole : τ} {changeWhole : τ → τ}
    (disregards : action.Disregards change (part whole))
    (parts : part (changeWhole whole) = change (part whole))
    (replaces : ∀ changed, replace (changeWhole whole) (change changed) =
      changeWhole (replace whole changed)) :
    (Action.onPart part replace action).Disregards changeWhole whole := by
  rw [Disregards, Action.onPart, outcome_ofOutcome, outcome_ofOutcome, parts, disregards]
  exact congrArg (Prod.mk _) (replaces _)

end Disregards
end Action

namespace Database

variable {α : Type}

/-! ## More connections -/

def Link.resize (capacity : Nat) (link : Link) : Link := { link with capacity }

def Transaction.resize (capacity : Nat) (transaction : Transaction) : Transaction :=
  { transaction with link := transaction.link.resize capacity }

def Shared.resize (capacity : Nat) (shared : Shared) : Shared :=
  { shared with link := shared.link.resize capacity }

def Desk.resize (capacity : Nat) (desk : Desk) : Desk :=
  { desk with shared := desk.shared.resize capacity }

variable {capacity : Nat}

theorem Link.isFree_resize {link : Link} (free : link.isFree) (more : link.capacity ≤ capacity) :
    (link.resize capacity).isFree := by
  simp only [isFree, decide_eq_true_eq] at free ⊢
  exact Nat.lt_of_lt_of_le free more

@[simp] theorem Link.exchange_resize (link : Link) (statement : Statement) :
    (link.resize capacity).exchange statement =
      ((link.exchange statement).1, (link.exchange statement).2.resize capacity) := rfl

namespace Transaction

@[simp] theorem stage_resize (transaction : Transaction) :
    (transaction.resize capacity).stage = transaction.stage := rfl

@[simp] theorem link_resize (transaction : Transaction) :
    (transaction.resize capacity).link = transaction.link.resize capacity := rfl

theorem disregards_ask (operation : Operation) (statement : Statement) (repeated : Fault)
    (transaction : Transaction) :
    (ask operation statement repeated).Disregards (resize capacity) transaction := by
  simp only [Action.Disregards, ask, Action.outcome_ofOutcome, stage_resize,
    link_resize, Link.exchange_resize]
  by_cases active : transaction.stage = .active
  · simp only [active, if_true]
    cases (transaction.link.exchange statement).1 <;> rfl
  · simp only [active, if_false]

theorem disregards_perform (call : Call α) (transaction : Transaction) :
    (perform call).Disregards (resize capacity) transaction := by
  have composes : Composes fun action =>
      ∀ transaction, action.Disregards (resize capacity) transaction := {
    pure := fun value _ => .pure value
    throw := fun fault _ => .throw fault
    bind := fun first second transaction =>
      (first transaction).bind fun value later _ => second value later
    ask := fun operation statement repeated _ => disregards_ask operation statement repeated }
  exact composes.perform call transaction

theorem disregards_begin {transaction : Transaction} (free : transaction.link.isFree)
    (more : transaction.link.capacity ≤ capacity) :
    begin.Disregards (resize capacity) transaction := by
  have freeAgain : (transaction.link.resize capacity).isFree := Link.isFree_resize free more
  simp only [Action.Disregards, begin, Action.outcome_ofOutcome, stage_resize, link_resize,
    Link.exchange_resize, free, freeAgain, and_true]
  by_cases idle : transaction.stage = .idle
  · simp only [idle, if_true]
    cases (transaction.link.exchange .begin).1 <;> rfl
  · simp only [idle, if_false]

theorem disregards_finalize (operation : Operation) (statement : Statement)
    (transaction : Transaction) :
    (finalize operation statement).Disregards (resize capacity) transaction := by
  simp only [Action.Disregards, finalize, Action.outcome_ofOutcome, stage_resize,
    link_resize, Link.exchange_resize]
  by_cases active : transaction.stage = .active
  · simp only [active, if_true]
    cases (transaction.link.exchange statement).1 <;> rfl
  · simp only [active, if_false]

end Transaction

namespace Link

theorem disregards_ask (operation : Operation) (statement : Statement) {link : Link}
    (free : link.isFree) (more : link.capacity ≤ capacity) :
    (ask operation statement).Disregards (resize capacity) link := by
  have freeAgain : (link.resize capacity).isFree := isFree_resize free more
  simp only [Action.Disregards, ask, Action.outcome_ofOutcome, exchange_resize, free, freeAgain,
    if_true]
  cases (link.exchange statement).1 <;> rfl

theorem disregards_userByUuid {text : String} {link : Link}
    (free : ∀ uuid, Uuid.read text = .ok uuid → link.isFree) (more : link.capacity ≤ capacity) :
    (userByUuid text).Disregards (resize capacity) link := by
  rw [userByUuid]
  cases reads : Uuid.read text with
  | error misspelling => exact .throw _
  | ok uuid =>
      refine .bind (disregards_ask _ _ (free uuid reads) more) fun answer later _ => ?_
      split
      · exact .throw _
      · split
        · exact .pure _
        · exact .throw _

end Link

/-! ## Units of work -/

namespace Desk

theorem disregards_onTransaction {action : Action Transaction α} {desk : Desk}
    (disregards : action.Disregards (Transaction.resize capacity) ⟨desk.stage, desk.shared.link⟩) :
    (onTransaction action).Disregards (resize capacity) desk := by
  rw [onTransaction]
  exact .onPart disregards rfl fun _ => rfl

theorem disregards_userByUuid {text : String} {desk : Desk}
    (free : ∀ uuid, Uuid.read text = .ok uuid → desk.shared.link.isFree)
    (more : desk.shared.link.capacity ≤ capacity) :
    (backend.userByUuid text).Disregards (resize capacity) desk := by
  change (onLink (Link.userByUuid text)).Disregards (resize capacity) desk
  rw [onLink]
  exact .onPart (Link.disregards_userByUuid free more) rfl fun _ => rfl

end Desk

end Database

open Database

namespace Command

theorem disregards_inUnit {α : Type} {capacity : Nat} {action : Action Desk α} {start : Shared}
    (free : start.link.isFree) (more : start.link.capacity ≤ capacity)
    (disregards : ¬start.link.Refuses .begin →
      action.Disregards (Desk.resize capacity) start.begun) :
    (inUnit action).Disregards (Shared.resize capacity) start := by
  have begins : (Desk.onTransaction Transaction.begin).Disregards (Desk.resize capacity)
      ⟨.idle, start⟩ := Desk.disregards_onTransaction (Transaction.disregards_begin free more)
  have ends (operation : Operation) (statement : Statement) (desk : Desk) :
      (Desk.onTransaction (Transaction.finalize operation statement)).Disregards
        (Desk.resize capacity) desk :=
    Desk.disregards_onTransaction (Transaction.disregards_finalize operation statement _)
  rw [inUnit]
  refine .onPart (.bind begins fun _ begun reached => ?_) rfl fun _ => rfl
  have isBegun : begun = start.begun ∧ ¬start.link.Refuses .begin := by
    by_cases refuses : start.link.Refuses .begin
    · rw [outcome_begin_of_refuses free refuses] at reached
      cases reached
    · rw [outcome_begin free refuses] at reached
      cases reached
      exact ⟨rfl, refuses⟩
  rcases isBegun with ⟨rfl, accepts⟩
  refine .bind (.tryCatch (disregards accepts) fun fault desk _ => ?_) fun value desk _ => ?_
  · exact .bind (.tryCatch (ends _ _ desk) fun _ _ _ => .pure ()) fun _ _ _ => .throw fault
  · exact .bind (ends _ _ desk) fun _ _ _ => .pure value

end Command
end Entitlement
