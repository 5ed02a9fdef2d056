import Vivarium.Fault

/-!
# Attempts

An attempt is a computation over a state that may stop with a fault. The state outlives the fault, so
what was done before it stays done. `Attempt.outcome` shows an attempt as a function of the state,
and there is one lemma for each way to build an attempt that tells the outcome.
-/

namespace Vivarium

/-- A computation over a state that may stop with a fault. -/
abbrev Attempt (σ : Type) := EStateM Fault σ

namespace Attempt

variable {σ τ α β : Type}

/-- Run a computation that cannot touch the state. -/
def ofExcept : Except Fault α → Attempt σ α
  | .ok a => pure a
  | .error fault => throw fault

instance : MonadLift (Except Fault) (Attempt σ) := ⟨ofExcept⟩

/-- Run an attempt on a part of the state. `split` takes the part out and tells how to put one
back. -/
@[inline] def onPart (split : σ → τ × (τ → σ)) (attempt : Attempt τ α) : Attempt σ α := fun state =>
  let (part, restore) := split state
  match attempt part with
  | .ok a part => .ok a (restore part)
  | .error fault part => .error fault (restore part)

/-- The value or fault that an attempt comes to, and the state that it leaves. -/
def outcome (attempt : Attempt σ α) (state : σ) : Except Fault α × σ :=
  match attempt state with
  | .ok a state => (.ok a, state)
  | .error fault state => (.error fault, state)

/-- A value is reached at once. -/
@[simp] theorem outcome_pure (a : α) (state : σ) :
    outcome (pure a) state = (.ok a, state) := rfl

/-- A fault is reached at once. -/
@[simp] theorem outcome_throw (fault : Fault) (state : σ) :
    outcome (throw fault : Attempt σ α) state = (.error fault, state) := rfl

/-- The second of two attempts goes on from the value and state of the first, unless that stops. -/
theorem outcome_bind (first : Attempt σ α) (next : α → Attempt σ β) (state : σ) :
    outcome (first >>= next) state =
      match outcome first state with
      | (.ok a, state) => outcome (next a) state
      | (.error fault, state) => (.error fault, state) := by
  simp only [outcome, bind, EStateM.bind]
  cases first state <;> rfl

/-- Go on from an attempt that comes to a value. -/
theorem outcome_bind_of_ok {first : Attempt σ α} {state next : σ} {a : α}
    (h : outcome first state = (.ok a, next)) (rest : α → Attempt σ β) :
    outcome (first >>= rest) state = outcome (rest a) next := by
  rw [outcome_bind, h]

/-- Nothing follows an attempt that stops with a fault. -/
theorem outcome_bind_of_error {first : Attempt σ α} {state next : σ} {fault : Fault}
    (h : outcome first state = (.error fault, next)) (rest : α → Attempt σ β) :
    outcome (first >>= rest) state = (.error fault, next) := by
  rw [outcome_bind, h]

/-- Reading the state gives it and leaves it. -/
@[simp] theorem outcome_get (state : σ) :
    outcome (get : Attempt σ σ) state = (.ok state, state) := rfl

/-- A change of the state is all that happens. -/
@[simp] theorem outcome_modify (change : σ → σ) (state : σ) :
    outcome (modify change : Attempt σ PUnit) state = (.ok ⟨⟩, change state) := rfl

/-- A computation without a state leaves it alone. -/
@[simp] theorem outcome_ofExcept (result : Except Fault α) (state : σ) :
    outcome (liftM result : Attempt σ α) state = (result, state) := by
  cases result <;> rfl

/-- An attempt on a part leaves the state with that part replaced. -/
@[simp] theorem outcome_onPart (split : σ → τ × (τ → σ)) (attempt : Attempt τ α) (state : σ) :
    outcome (onPart split attempt) state =
      ((outcome attempt (split state).1).1, (split state).2 (outcome attempt (split state).1).2) := by
  simp only [outcome, onPart]
  cases attempt (split state).1 <;> rfl

end Attempt

end Vivarium
