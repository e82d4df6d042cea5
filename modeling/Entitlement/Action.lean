import Entitlement.Fault
import Entitlement.Operation

/-! # Actions

An action changes a state and ends in a result or in a fault. What it changed
before it ended in a fault stays changed. -/

namespace Entitlement

abbrev Action (σ : Type) := ExceptT Fault (StateM σ)

def Operation.failure (operation : Operation) : Fault := .server operation.name

namespace Action

variable {σ τ α β : Type}

def outcome (action : Action σ α) (state : σ) : Except Fault α × σ :=
  (action.run.run state)

def ofOutcome (result : σ → Except Fault α × σ) : Action σ α :=
  ExceptT.mk (m := StateM σ) fun state => result state

@[simp] theorem outcome_ofOutcome (result : σ → Except Fault α × σ) (state : σ) :
    (ofOutcome result).outcome state = result state := rfl

def onPart (part : τ → σ) (replace : τ → σ → τ) (action : Action σ α) : Action τ α :=
  ofOutcome fun whole =>
    let (result, changed) := action.outcome (part whole)
    (result, replace whole changed)

def reading (read : σ → Except Fault α) : Action σ α :=
  ofOutcome fun state => (read state, state)

/-! ## Outcomes of composed actions -/

@[simp] theorem outcome_reading (read : σ → Except Fault α) (state : σ) :
    (reading read).outcome state = (read state, state) := rfl

@[simp] theorem outcome_pure (value : α) (state : σ) :
    (pure value : Action σ α).outcome state = (.ok value, state) := rfl

@[simp] theorem outcome_get (state : σ) :
    (get : Action σ σ).outcome state = (.ok state, state) := rfl

@[simp] theorem outcome_ofExcept (result : Except Fault α) (state : σ) :
    (MonadExcept.ofExcept result : Action σ α).outcome state = (result, state) := by
  cases result <;> rfl

/-- An action goes on from where the first part of it got to, unless that part ended in
a fault. -/
theorem outcome_bind (action : Action σ α) (next : α → Action σ β) (state : σ) :
    (action >>= next).outcome state =
      match action.outcome state with
      | (.ok value, later) => (next value).outcome later
      | (.error fault, later) => (.error fault, later) := by
  rw [outcome, ExceptT.run_bind, StateT.run_bind]
  rcases reached : action.outcome state with ⟨result, later⟩
  rw [outcome] at reached
  rw [reached]
  cases result <;> rfl

end Action
end Entitlement
