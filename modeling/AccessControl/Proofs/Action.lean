import AccessControl.Action

/-!
# Runs of actions

What is known of an action that succeeded: each of its steps did, and the next one started from the
state that the step left. The lemmas take a successful run apart from the front, so that no proof
unfolds how actions are made of states and errors.

Of any run, successful or not, `Action.Preserves` says that it keeps what holds of the state.
-/

namespace AccessControl

section

variable {ε δ α β : Type}

theorem bind_eq_ok_iff {result : Except ε α} {next : α → Except ε β} {value : β} :
    result >>= next = .ok value ↔ ∃ first, result = .ok first ∧ next first = .ok value := by
  cases result with
  | ok first =>
    constructor
    · intro h
      exact ⟨first, rfl, h⟩
    · rintro ⟨_, ⟨⟩, h⟩
      exact h
  | error error =>
    constructor
    · intro h
      cases h
    · rintro ⟨_, h, _⟩
      cases h

theorem mapError_eq_ok_iff {rename : ε → δ} {result : Except ε α} {value : α} :
    result.mapError rename = .ok value ↔ result = .ok value := by
  cases result with
  | ok found =>
    constructor <;>
    · intro h
      cases h
      rfl
  | error error =>
    constructor <;>
    · intro h
      cases h

theorem mapError_eq_error_iff {rename : ε → δ} {result : Except ε α} {error : δ} :
    result.mapError rename = .error error ↔
      ∃ cause, result = .error cause ∧ rename cause = error := by
  cases result with
  | ok found =>
    constructor
    · intro h
      cases h
    · rintro ⟨cause, h, -⟩
      cases h
  | error cause =>
    constructor
    · intro h
      cases h
      exact ⟨cause, rfl, rfl⟩
    · rintro ⟨other, h, h'⟩
      cases h
      cases h'
      rfl

theorem toOption_eq_some_iff {result : Except ε α} {value : α} :
    result.toOption = some value ↔ result = .ok value := by
  cases result <;> simp [Except.toOption]

theorem pure_eq_ok_iff {first second : α} :
    (pure first : Except ε α) = .ok second ↔ first = second :=
  ⟨Except.ok.inj, congrArg _⟩

/-- What a list of results is made of. -/
theorem exists_of_mapM_eq_ok {view : α → Except ε β} {items : List α} {values : List β}
    (h : items.mapM view = .ok values) :
    ∀ value ∈ values, ∃ item ∈ items, view item = .ok value := by
  induction items generalizing values with
  | nil =>
    cases h
    intro value hvalue
    cases hvalue
  | cons item rest ih =>
    rw [List.mapM_cons] at h
    simp only [bind_eq_ok_iff, pure_eq_ok_iff] at h
    obtain ⟨first, hfirst, others, hothers, rfl⟩ := h
    intro value hvalue
    rcases List.mem_cons.mp hvalue with rfl | hvalue
    · exact ⟨item, List.mem_cons_self .., hfirst⟩
    · obtain ⟨found, hfound, hview⟩ := ih hothers value hvalue
      exact ⟨found, List.mem_cons_of_mem _ hfound, hview⟩

/-- What a list of results is, if each of them is known. -/
theorem mapM_eq_ok_map {view : α → Except ε β} {value : α → β} {items : List α}
    (h : ∀ item ∈ items, view item = .ok (value item)) :
    items.mapM view = .ok (items.map value) := by
  induction items with
  | nil => rfl
  | cons item rest ih =>
    obtain ⟨hitem, hrest⟩ := List.forall_mem_cons.mp h
    rw [List.mapM_cons, hitem, ih hrest]
    rfl

end

namespace Action

variable {σ τ ε δ α β : Type} {state final : σ} {value : α}

theorem run_bind_eq_ok_iff {action : Action σ ε β} {next : β → Action σ ε α} :
    (action >>= next).run state = (.ok value, final) ↔
      ∃ first middle, action.run state = (.ok first, middle) ∧
        (next first).run middle = (.ok value, final) := by
  rw [run_bind]
  rcases action.run state with ⟨result, middle⟩
  cases result with
  | ok first =>
    constructor
    · intro h
      exact ⟨first, middle, rfl, h⟩
    · rintro ⟨_, _, ⟨⟩, h⟩
      exact h
  | error error => simp

theorem run_pure_eq_ok_iff {first : α} :
    (pure first : Action σ ε α).run state = (.ok value, final) ↔ first = value ∧ state = final := by
  rw [run_pure, Prod.mk.injEq, Except.ok.injEq]

theorem run_throw_ne_ok {error : ε} :
    (throw error : Action σ ε α).run state ≠ (.ok value, final) := by
  simp

theorem run_read_eq_ok_iff {view : σ → Except ε α} :
    (read view).run state = (.ok value, final) ↔ view state = .ok value ∧ state = final := by
  rw [run_read, Prod.mk.injEq]

theorem run_attempt_eq_ok_iff {step : σ → Except ε (α × σ)} :
    (attempt step).run state = (.ok value, final) ↔ step state = .ok (value, final) := by
  rw [run_attempt]
  split <;> simp_all

theorem run_mapError_eq_ok_iff {rename : ε → δ} {action : Action σ ε α} :
    (action.mapError rename).run state = (.ok value, final) ↔
      action.run state = (.ok value, final) := by
  rw [run_mapError, Prod.mk.injEq, mapError_eq_ok_iff, ← Prod.mk.injEq]

theorem run_within_eq_ok_iff {part : σ → τ} {update : σ → τ → σ} {action : Action τ ε α} :
    (action.within part update).run state = (.ok value, final) ↔
      ∃ inner, action.run (part state) = (.ok value, inner) ∧ update state inner = final := by
  rw [run_within, Prod.mk.injEq]
  constructor
  · rintro ⟨h, h'⟩
    exact ⟨(action.run (part state)).2, by rw [← h], h'⟩
  · rintro ⟨inner, h, h'⟩
    rw [h]
    exact ⟨rfl, h'⟩

theorem exists_run_eq_ok {action : Action σ ε α} (h : (action.run state).1.isOk = true) :
    ∃ value, action.run state = (.ok value, (action.run state).2) := by
  rcases hrun : action.run state with ⟨result, final⟩
  rw [hrun] at h
  cases result with
  | error error => cases h
  | ok value => exact ⟨value, rfl⟩

/-! ### What runs keep -/

/-- An action that keeps what holds of the state, whether it succeeds or fails. -/
def Preserves (holds : σ → Prop) (action : Action σ ε α) : Prop :=
  ∀ state, holds state → holds (action.run state).2

variable {holds : σ → Prop}

theorem preserves_pure (value : α) : (pure value : Action σ ε α).Preserves holds :=
  fun _ h => h

theorem preserves_throw (error : ε) : (throw error : Action σ ε α).Preserves holds :=
  fun _ h => h

theorem preserves_read (view : σ → Except ε α) : (read view).Preserves holds :=
  fun _ h => h

theorem preserves_attempt {step : σ → Except ε (α × σ)}
    (h : ∀ state value final, holds state → step state = .ok (value, final) → holds final) :
    (attempt step).Preserves holds := by
  intro state hstate
  rw [run_attempt]
  split
  · exact h _ _ _ hstate (by assumption)
  · exact hstate

theorem Preserves.mapError {action : Action σ ε α} (h : action.Preserves holds) (rename : ε → δ) :
    (action.mapError rename).Preserves holds :=
  h

theorem Preserves.within {action : Action σ ε α} {part : τ → σ} {update : τ → σ → τ}
    {holds' : τ → Prop} (h : action.Preserves holds)
    (hpart : ∀ state, holds' state → holds (part state))
    (hupdate : ∀ state inner, holds' state → holds inner → holds' (update state inner)) :
    (action.within part update).Preserves holds' :=
  fun state hstate => hupdate _ _ hstate (h _ (hpart state hstate))

theorem Preserves.bind {action : Action σ ε β} {next : β → Action σ ε α}
    (h : action.Preserves holds) (hnext : ∀ value, (next value).Preserves holds) :
    (action >>= next).Preserves holds := by
  intro state hstate
  have hmiddle := h state hstate
  rw [run_bind]
  split
  · rename_i value middle hrun
    rw [hrun] at hmiddle
    exact hnext value middle hmiddle
  · rename_i error middle hrun
    rw [hrun] at hmiddle
    exact hmiddle

end Action

end AccessControl
