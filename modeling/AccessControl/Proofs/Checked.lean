import AccessControl.Proofs.Action

/-!
# Checks in order

A request can be wrong in many ways at once, and one error is reported. `Checked` says of a list of
checks which one it is: the error of the first check that fails. What it is for a check to fail with
an error is a relation that is given, so the checks can fail in any combination; the check that is
reported fails with no other error than the one reported.

The lemmas follow a program: a step that either fails or goes on is a check (`Checked.of_iff` and
`Checked.guard`), and where the program goes on with the result of a part, the checks of what it
does next come after those of the part (`Checked.bind`).
-/

namespace AccessControl

/-- The result of some checks: the error of the first one that fails, or a value if none does. -/
inductive Checked {κ ε α : Type} (Fails : κ → ε → Prop) : List κ → Except ε α → Prop where
  | passed {value : α} : Checked Fails [] (.ok value)
  | fails {check : κ} {checks : List κ} {error : ε} :
    (∀ other, Fails check other ↔ error = other) → Checked Fails (check :: checks) (.error error)
  | passes {check : κ} {checks : List κ} {result : Except ε α} :
    (∀ error, ¬ Fails check error) → Checked Fails checks result →
    Checked Fails (check :: checks) result

namespace Checked

variable {κ ε α β : Type} {Fails : κ → ε → Prop} {check : κ} {checks front back : List κ}

/-- A step that fails if a check does. -/
theorem of_iff {result : Except ε α} (h : ∀ other, Fails check other ↔ result = .error other) :
    Checked Fails [check] result := by
  cases result with
  | error error =>
    refine .fails fun other => ?_
    rw [h, Except.error.injEq]
  | ok value =>
    refine .passes (fun other hfails => ?_) .passed
    cases (h other).mp hfails

/-- A step that is taken only if a condition does not hold. -/
theorem guard {p : Prop} [Decidable p] {failure : ε} {next : Except ε α}
    (h : ∀ other, Fails check other ↔ p ∧ failure = other)
    (hnext : ¬ p → Checked Fails checks next) :
    Checked Fails (check :: checks) (if p then .error failure else next) := by
  split
  · rename_i hp
    refine .fails fun other => ?_
    rw [h, and_iff_right hp]
  · rename_i hp
    exact .passes (fun other hfails => hp ((h other).mp hfails).1) (hnext hp)

/-- What a program does with the result of a part is checked after the part. -/
theorem bind {first : Except ε α} {next : α → Except ε β} (hfirst : Checked Fails front first)
    (hnext : ∀ value, first = .ok value → Checked Fails back (next value)) :
    Checked Fails (front ++ back) (first >>= next) := by
  induction hfirst with
  | passed => exact hnext _ rfl
  | fails h => exact .fails h
  | passes h _ ih => exact .passes h (ih hnext)

/-- If an error is not that of one of the first checks, they do not fail. -/
theorem passes_of_append {error : ε} (h : Checked Fails (front ++ back) (.error error : Except ε α))
    (hfront : ∀ check ∈ front, ¬ Fails check error) :
    ∀ check ∈ front, ∀ other, ¬ Fails check other := by
  induction front with
  | nil => exact List.forall_mem_nil _
  | cons check front ih =>
    rw [List.forall_mem_cons] at hfront
    cases h with
    | fails h => exact absurd ((h error).mpr rfl) hfront.1
    | passes h hrest => exact List.forall_mem_cons.mpr ⟨h, ih hrest hfront.2⟩

end Checked

end AccessControl
