import Vivarium.Attempt

/-!
# What attempts keep and when they succeed

A property of states is kept by an attempt that leads from states with the property to states with
it, whether the attempt comes to a value or stops with a fault. Attempts built from parts that keep
a property keep it. An attempt succeeds from the states with a property if it comes to a value from
each of them, and attempts built from parts that succeed one after the other succeed.
-/

namespace Vivarium

/-- Two computations in a row come to a value if the first one does and the second does after it. -/
theorem bind_eq_ok_iff {α β : Type} {first : Except Fault α} {next : α → Except Fault β} {b : β} :
    (first >>= next) = .ok b ↔ ∃ a, first = .ok a ∧ next a = .ok b := by
  cases first with
  | error fault => simp [bind, Except.bind]
  | ok a => simp [bind, Except.bind]

/-- Computations in a row come to the list of what each of them comes to. -/
theorem mapM_eq_ok {α β : Type} {compute : α → Except Fault β} {result : α → β} {items : List α}
    (h : ∀ a ∈ items, compute a = .ok (result a)) :
    items.mapM compute = .ok (items.map result) := by
  induction items with
  | nil => rfl
  | cons a items ih =>
    rw [List.forall_mem_cons] at h
    rw [List.mapM_cons, h.1, ih h.2]
    rfl

/-- What computations in a row come to is the list of what each of them comes to. -/
theorem eq_map_of_mapM {α β : Type} {compute : α → Except Fault β} {result : α → β}
    {items : List α} {list : List β}
    (h : ∀ a ∈ items, ∀ b, compute a = .ok b → b = result a)
    (succeeds : items.mapM compute = .ok list) : list = items.map result := by
  induction items generalizing list with
  | nil => exact (Except.ok.inj succeeds).symm
  | cons a items ih =>
    rw [List.forall_mem_cons] at h
    rw [List.mapM_cons] at succeeds
    obtain ⟨b, first, succeeds⟩ := bind_eq_ok_iff.mp succeeds
    obtain ⟨bs, rest, list_eq⟩ := bind_eq_ok_iff.mp succeeds
    rw [← Except.ok.inj list_eq, h.1 b first, ih h.2 rest, List.map_cons]

namespace Attempt

variable {σ τ α β : Type}

/-- A fault is handed to its handler, along with the state that it left. -/
theorem outcome_tryCatch (attempt : Attempt σ α) (handler : Fault → Attempt σ α) (state : σ) :
    outcome (tryCatch attempt handler) state =
      match outcome attempt state with
      | (.ok a, state) => (.ok a, state)
      | (.error fault, state) => outcome (handler fault) state := by
  simp only [outcome, tryCatch, tryCatchThe, MonadExceptOf.tryCatch]
  delta EStateM.tryCatch
  cases attempt state <;> rfl

/-- Attempts that come to the same and leave the same, from every state, are the same. -/
theorem ext_outcome {first second : Attempt σ α}
    (h : ∀ state, outcome first state = outcome second state) : first = second := by
  funext state
  have same := h state
  simp only [outcome] at same
  generalize first state = left at same
  generalize second state = right at same
  cases left <;> cases right <;> simp_all

/-- Two attempts in a row come to a value if the first one does and the second does after it. -/
theorem outcome_bind_eq_ok_iff {first : Attempt σ α} {next : α → Attempt σ β} {state final : σ}
    {b : β} :
    outcome (first >>= next) state = (.ok b, final) ↔
      ∃ a middle, outcome first state = (.ok a, middle) ∧
        outcome (next a) middle = (.ok b, final) := by
  rw [outcome_bind]
  rcases outcome first state with ⟨result, middle⟩
  cases result with
  | error fault => simp
  | ok a => simp [and_assoc]

/-- Whether an attempt leaves a property of the state as it is, whatever the attempt comes to. -/
def Keeps (inv : σ → Prop) (attempt : Attempt σ α) : Prop :=
  ∀ state, inv state → inv (attempt.outcome state).2

variable {inv : σ → Prop}

/-- A value reached at once leaves everything as it is. -/
theorem keeps_pure (a : α) : Keeps inv (pure a : Attempt σ α) := fun _ h => h

/-- A fault reached at once leaves everything as it is. -/
theorem keeps_throw (fault : Fault) : Keeps inv (throw fault : Attempt σ α) := fun _ h => h

/-- Reading the state leaves everything as it is. -/
theorem keeps_get : Keeps inv (get : Attempt σ σ) := fun _ h => h

/-- A computation without a state leaves everything as it is. -/
theorem keeps_ofExcept (result : Except Fault α) : Keeps inv (liftM result : Attempt σ α) := by
  intro state h
  rw [outcome_ofExcept]
  exact h

/-- What both of two attempts keep, they keep together. What is known of the value of the first one
can be used for the second one. -/
theorem Keeps.bind_of {first : Attempt σ α} {next : α → Attempt σ β} {known : α → Prop}
    (h : Keeps inv first)
    (hk : ∀ state a after, inv state → outcome first state = (.ok a, after) → known a)
    (h' : ∀ a, known a → Keeps inv (next a)) : Keeps inv (first >>= next) := by
  intro state hs
  have middle := h state hs
  rw [outcome_bind]
  rcases hf : outcome first state with ⟨result, left⟩
  rw [hf] at middle
  cases result with
  | error fault => exact middle
  | ok a => exact h' a (hk state a left hs hf) left middle

/-- What both of two attempts keep, they keep together. -/
theorem Keeps.bind {first : Attempt σ α} {next : α → Attempt σ β} (h : Keeps inv first)
    (h' : ∀ a, Keeps inv (next a)) : Keeps inv (first >>= next) :=
  h.bind_of (fun _ _ _ _ _ => trivial) fun a _ => h' a

/-- What an attempt and its handler keep is kept when the handler takes over. -/
theorem Keeps.tryCatch {attempt : Attempt σ α} {handler : Fault → Attempt σ α}
    (h : Keeps inv attempt) (h' : ∀ fault, Keeps inv (handler fault)) :
    Keeps inv (tryCatch attempt handler) := by
  intro state hs
  have middle := h state hs
  rw [outcome_tryCatch]
  generalize outcome attempt state = attempted at *
  obtain ⟨result, left⟩ := attempted
  cases result with
  | error fault => exact h' fault left middle
  | ok a => exact middle

/-- Whether an attempt comes to a value from every state with a property. The value and the state
that it leaves have another property. -/
def Succeeds (before : σ → Prop) (attempt : Attempt σ α) (after : α → σ → Prop) : Prop :=
  ∀ state, before state → ∃ a final, outcome attempt state = (.ok a, final) ∧ after a final

variable {before : σ → Prop} {middle : α → σ → Prop}

/-- A value reached at once is a success. -/
theorem succeeds_pure {a : α} {after : α → σ → Prop} (h : ∀ state, before state → after a state) :
    Succeeds before (pure a) after :=
  fun state hs => ⟨a, state, rfl, h state hs⟩

/-- Reading the state succeeds. -/
theorem succeeds_get :
    Succeeds before (get : Attempt σ σ) fun read state => before state ∧ read = state :=
  fun state hs => ⟨state, state, rfl, hs, rfl⟩

/-- A change of the state succeeds. -/
theorem succeeds_modify {change : σ → σ} {after : σ → Prop}
    (h : ∀ state, before state → after (change state)) :
    Succeeds before (modify change : Attempt σ PUnit) fun _ => after :=
  fun state hs => ⟨⟨⟩, change state, rfl, h state hs⟩

/-- Two attempts in a row succeed if the second one does wherever the first one leads. -/
theorem Succeeds.bind {first : Attempt σ α} {next : α → Attempt σ β} {after : β → σ → Prop}
    (h : Succeeds before first middle) (h' : ∀ a, Succeeds (middle a) (next a) after) :
    Succeeds before (first >>= next) after := by
  intro state hs
  obtain ⟨a, left, hf, hm⟩ := h state hs
  rw [outcome_bind_of_ok hf]
  exact h' a left hm

/-- A success is one from fewer states and with less known of what comes of it. -/
theorem Succeeds.mono {attempt : Attempt σ α} {start : σ → Prop} {after : α → σ → Prop}
    (h : Succeeds before attempt middle) (hb : ∀ state, start state → before state)
    (ha : ∀ a state, middle a state → after a state) : Succeeds start attempt after := by
  intro state hs
  obtain ⟨a, left, outcome, hm⟩ := h state (hb state hs)
  exact ⟨a, left, outcome, ha a left hm⟩

end Attempt

end Vivarium
