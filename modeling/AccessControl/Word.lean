/-!
# Words of 64 bits

Heights, counts and identifiers are unsigned words. Their sums are checked or saturate; neither
wraps around. `toNat_addSaturating` and `add?_eq_some_iff` state both in terms of the numbers.
-/

namespace AccessControl.Word

/-- The least number that a signed word holds. -/
def minSigned : Int := -9223372036854775808

/-- The largest number that a signed word holds. -/
def maxSigned : Int := 9223372036854775807

/-- The largest word. -/
def max : UInt64 := 0xffffffffffffffff

/-- The sum of two words, if it fits. -/
def add? (x y : UInt64) : Option UInt64 :=
  if x.toNat + y.toNat < UInt64.size then some (x + y) else none

/-- The sum of two words, or the largest word if it does not fit. -/
def addSaturating (x y : UInt64) : UInt64 :=
  (add? x y).getD max

theorem add?_eq_some_iff {x y z : UInt64} : add? x y = some z ↔ x.toNat + y.toNat = z.toNat := by
  have := z.toNat_lt
  unfold add?
  split
  · rename_i h
    rw [Option.some.injEq, ← UInt64.toNat_inj, UInt64.toNat_add, Nat.mod_eq_of_lt h]
  · rename_i h
    simp only [UInt64.size] at h
    constructor
    · simp
    · omega

theorem toNat_addSaturating (x y : UInt64) :
    (addSaturating x y).toNat = min (x.toNat + y.toNat) (UInt64.size - 1) := by
  unfold addSaturating add?
  split
  · rename_i h
    rw [Option.getD_some, UInt64.toNat_add, Nat.mod_eq_of_lt h]
    omega
  · rename_i h
    rw [Option.getD_none, show max.toNat = UInt64.size - 1 from rfl]
    omega

end AccessControl.Word
