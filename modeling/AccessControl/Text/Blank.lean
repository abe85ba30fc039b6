/-!
# Blank characters

The characters with the property White_Space, and texts without blanks at their ends.
-/

namespace AccessControl.Text

/-- Whether a character has the property White_Space. -/
def isBlank (c : Char) : Bool :=
  let n := c.toNat
  (0x09 ≤ n && n ≤ 0x0d) || n == 0x20 || n == 0x85 || n == 0xa0 || n == 0x1680 ||
    (0x2000 ≤ n && n ≤ 0x200a) || n == 0x2028 || n == 0x2029 || n == 0x202f || n == 0x205f ||
    n == 0x3000

/-- The characters from the first one that is not blank on. -/
def trimStart (chars : List Char) : List Char :=
  chars.dropWhile isBlank

/-- The characters without blanks at either end. -/
def trim (chars : List Char) : List Char :=
  (trimStart (trimStart chars).reverse).reverse

/-- Every blank of ASCII is one here. -/
theorem isBlank_of_isWhitespace {c : Char} (h : c.isWhitespace) : isBlank c := by
  simp only [Char.isWhitespace, Bool.or_eq_true, decide_eq_true_eq] at h
  rcases h with ((rfl | rfl) | rfl) | rfl <;> decide

end AccessControl.Text
