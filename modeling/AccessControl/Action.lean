/-!
# Actions

An action reads and changes a state and may fail. What it changed before it failed stays changed, so
an action that fails half way through can be told from one that did nothing; undoing is the business
of whoever runs it. `Action.attempt` is the special case of a step that changes the state only if it
succeeds.
-/

namespace AccessControl

/-- Computations that read and change a state `σ` and may fail with an `ε`. -/
abbrev Action (σ ε : Type) := ExceptT ε (StateM σ)

namespace Action

variable {σ τ ε δ α β : Type}

/-- The result of an action and the state that it leaves. -/
def run (action : Action σ ε α) (state : σ) : Except ε α × σ :=
  StateT.run (ExceptT.run action) state

/-- The action with a given result and final state for every initial state. -/
def ofStep (step : σ → Except ε α × σ) : Action σ ε α :=
  ExceptT.mk step

/-- Reads the state. -/
def read (view : σ → Except ε α) : Action σ ε α :=
  ofStep fun state => (view state, state)

/-- Changes the state, which cannot fail. -/
def change (step : σ → α × σ) : Action σ ε α :=
  ofStep fun state => (.ok (step state).1, (step state).2)

/-- Changes the state if the step succeeds, and leaves it as it is otherwise. -/
def attempt (step : σ → Except ε (α × σ)) : Action σ ε α :=
  ofStep fun state =>
    match step state with
    | .ok (value, state) => (.ok value, state)
    | .error error => (.error error, state)

/-- The action with its errors renamed. -/
def mapError (rename : ε → δ) (action : Action σ ε α) : Action σ δ α :=
  ofStep fun state =>
    let (result, state) := action.run state
    (result.mapError rename, state)

/-- An action on a part of the state. -/
def within (part : τ → σ) (update : τ → σ → τ) (action : Action σ ε α) : Action τ ε α :=
  ofStep fun state =>
    let (result, inner) := action.run (part state)
    (result, update state inner)

/-! ### Runs -/

@[simp] theorem run_ofStep (step : σ → Except ε α × σ) (state : σ) :
    (ofStep step).run state = step state := rfl

@[simp] theorem run_pure (value : α) (state : σ) :
    run (pure value : Action σ ε α) state = (.ok value, state) := rfl

@[simp] theorem run_throw (error : ε) (state : σ) :
    run (throw error : Action σ ε α) state = (.error error, state) := rfl

@[simp] theorem run_read (view : σ → Except ε α) (state : σ) :
    (read view).run state = (view state, state) := rfl

@[simp] theorem run_change (step : σ → α × σ) (state : σ) :
    (change step : Action σ ε α).run state = (.ok (step state).1, (step state).2) := rfl

theorem run_attempt (step : σ → Except ε (α × σ)) (state : σ) :
    (attempt step).run state =
      match step state with
      | .ok (value, state) => (.ok value, state)
      | .error error => (.error error, state) := rfl

@[simp] theorem run_mapError (rename : ε → δ) (action : Action σ ε α) (state : σ) :
    (action.mapError rename).run state =
      ((action.run state).1.mapError rename, (action.run state).2) := rfl

@[simp] theorem run_within (part : τ → σ) (update : τ → σ → τ) (action : Action σ ε α)
    (state : τ) :
    (action.within part update).run state =
      ((action.run (part state)).1, update state (action.run (part state)).2) := rfl

/-- A sequence of actions stops at the first one that fails. -/
theorem run_bind (action : Action σ ε α) (next : α → Action σ ε β) (state : σ) :
    (action >>= next).run state =
      match action.run state with
      | (.ok value, state) => (next value).run state
      | (.error error, state) => (.error error, state) := by
  show StateT.run (ExceptT.run (action >>= next)) state = _
  rw [ExceptT.run_bind]
  simp only [StateT.run_bind, run]
  rcases h : StateT.run (ExceptT.run action) state with ⟨result, after⟩
  cases result <;> rfl

end Action

end AccessControl
