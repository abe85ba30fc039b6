/-!
# Rounding to 53 binary digits

A binary64 has 53 binary digits and a binary exponent, and the whole numbers among them stay below
`2 ^ 1024`. `nearest` rounds a whole number to 53 digits, to the neighbour with an even last digit
when it lies halfway; `fits` tells whether the result is still a binary64. `nearest_of_lt` says that
numbers of at most 53 digits are kept, and `two_mul_dist_roundTo_le` that no number moves by more
than half a unit.
-/

namespace AccessControl.Binary64

/-- The multiple of `unit` nearest to `n`; of two equally near the one with the even quotient. -/
def roundTo (unit n : Nat) : Nat :=
  let below := n / unit
  let rest := n % unit
  if 2 * rest < unit ∨ (2 * rest = unit ∧ below % 2 = 0) then below * unit
  else (below + 1) * unit

/-- The number of 53 binary digits, and zeros after them, nearest to `n`. -/
def nearest (n : Nat) : Nat :=
  roundTo (1 <<< (n.log2 - 52)) n

/-- Whether a whole number is finite once it is rounded. -/
def fits (n : Nat) : Bool :=
  nearest n < 1 <<< 1024

/-! ### Laws -/

theorem dvd_roundTo (unit n : Nat) : unit ∣ roundTo unit n := by
  unfold roundTo
  dsimp only
  split <;> exact Nat.dvd_mul_left unit _

/-- Rounding moves a number by at most half a unit, up or down. -/
theorem two_mul_dist_roundTo_le {unit : Nat} (hunit : 0 < unit) (n : Nat) :
    2 * (n - roundTo unit n) ≤ unit ∧ 2 * (roundTo unit n - n) ≤ unit := by
  have hn : n / unit * unit + n % unit = n := Nat.div_add_mod' n unit
  have hrest := Nat.mod_lt n hunit
  unfold roundTo
  dsimp only
  split
  · omega
  · rw [Nat.add_mul, Nat.one_mul]
    omega

@[simp] theorem roundTo_one (n : Nat) : roundTo 1 n = n := by
  simp [roundTo, Nat.mod_one]

/-- A number of at most 53 binary digits is kept. -/
theorem nearest_of_lt {n : Nat} (h : n < 0x20000000000000) : nearest n = n := by
  have hlog : n.log2 - 52 = 0 := by
    rcases Nat.eq_zero_or_pos n with rfl | hn
    · decide
    · have := (Nat.log2_lt (k := 53) (Nat.ne_of_gt hn)).2 h
      omega
  rw [nearest, hlog]
  exact roundTo_one n

end AccessControl.Binary64
