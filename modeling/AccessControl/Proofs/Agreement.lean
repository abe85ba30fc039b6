import AccessControl.Proofs.Action

/-!
# Actions that agree

Two runs of a program are compared through a relation between their states. `Action.Agrees` says
that two actions, run on states that are alike, give back the same result, be it a value or an
error, and leave states that are alike again. It is kept by everything that actions are put together
with, so that of a large action it is shown part by part, in the order in which the action is
written down.
-/

namespace AccessControl.Action

variable {σ σ' τ τ' ε δ α β : Type}

/-- On states that are alike, two actions have the same result and leave states that are alike. -/
def Agrees (alike : σ → τ → Prop) (first : Action σ ε α) (second : Action τ ε α) : Prop :=
  ∀ state state', alike state state' →
    (first.run state).1 = (second.run state').1 ∧ alike (first.run state).2 (second.run state').2

variable {alike : σ → τ → Prop}

theorem agrees_refl (action : Action σ ε α) : Agrees Eq action action := by
  rintro state _ rfl
  exact ⟨rfl, rfl⟩

theorem agrees_pure (value : α) :
    Agrees alike (pure value : Action σ ε α) (pure value : Action τ ε α) :=
  fun _ _ h => ⟨rfl, h⟩

theorem agrees_read {view : σ → Except ε α} {view' : τ → Except ε α}
    (h : ∀ state state', alike state state' → view state = view' state') :
    Agrees alike (read view) (read view') :=
  fun _ _ hstate => ⟨h _ _ hstate, hstate⟩

theorem Agrees.mapError {first : Action σ ε α} {second : Action τ ε α}
    (h : Agrees alike first second) (rename : ε → δ) :
    Agrees alike (first.mapError rename) (second.mapError rename) := by
  intro state state' hstate
  obtain ⟨hresult, hfinal⟩ := h state state' hstate
  rw [run_mapError, run_mapError]
  exact ⟨congrArg (Except.mapError rename) hresult, hfinal⟩

/-- Actions that agree on parts of the states agree on the states. -/
theorem Agrees.within {first : Action σ ε α} {second : Action τ ε α} {part : σ' → σ}
    {part' : τ' → τ} {update : σ' → σ → σ'} {update' : τ' → τ → τ'} {alike' : σ' → τ' → Prop}
    (h : Agrees alike first second)
    (hpart : ∀ state state', alike' state state' → alike (part state) (part' state'))
    (hupdate : ∀ state state' inner inner', alike' state state' → alike inner inner' →
      alike' (update state inner) (update' state' inner')) :
    Agrees alike' (first.within part update) (second.within part' update') := by
  intro state state' hstate
  obtain ⟨hresult, hfinal⟩ := h _ _ (hpart state state' hstate)
  rw [run_within, run_within]
  exact ⟨hresult, hupdate _ _ _ _ hstate hfinal⟩

/-- Sequences agree on states if their first parts agree and their second parts do on what the first
ones lead to. -/
theorem Agrees.bind_of_run {first : Action σ ε β} {second : Action τ ε β}
    {next : β → Action σ ε α} {next' : β → Action τ ε α} (h : Agrees alike first second)
    {state : σ} {state' : τ} (hstate : alike state state')
    (hnext : ∀ value middle middle', first.run state = (.ok value, middle) →
      second.run state' = (.ok value, middle') → alike middle middle' →
      ((next value).run middle).1 = ((next' value).run middle').1 ∧
        alike ((next value).run middle).2 ((next' value).run middle').2) :
    ((first >>= next).run state).1 = ((second >>= next').run state').1 ∧
      alike ((first >>= next).run state).2 ((second >>= next').run state').2 := by
  obtain ⟨hresult, hmiddle⟩ := h state state' hstate
  rw [run_bind, run_bind]
  rcases hfirst : first.run state with ⟨result, middle⟩
  rcases hsecond : second.run state' with ⟨result', middle'⟩
  rw [hfirst, hsecond] at hresult hmiddle
  obtain rfl : result = result' := hresult
  cases result with
  | error error => exact ⟨rfl, hmiddle⟩
  | ok value => exact hnext value middle middle' hfirst hsecond hmiddle

theorem Agrees.bind {first : Action σ ε β} {second : Action τ ε β} {next : β → Action σ ε α}
    {next' : β → Action τ ε α} (h : Agrees alike first second)
    (hnext : ∀ value, Agrees alike (next value) (next' value)) :
    Agrees alike (first >>= next) (second >>= next') :=
  fun _ _ hstate => h.bind_of_run hstate fun value _ _ _ _ hmiddle => hnext value _ _ hmiddle

end AccessControl.Action
