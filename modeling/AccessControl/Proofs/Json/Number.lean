import AccessControl.Json.Parser
import AccessControl.Json.Printer
import Mathlib.Data.List.Basic

/-!
# Numbers are read back

The digits of a number end where the rest of the document begins, since no digit and nothing that
continues a number follows one (`Settles`). Then `number?` undoes `signedDigits` in front of the
rest, and the same for numbers with an exponent.
-/

namespace AccessControl

namespace Radix

/-- A numeral has no leading zero. -/
theorem head?_digits_ne_zero {base value : Nat} (hbase : 2 ≤ base) :
    (digits base value).head? ≠ some 0 := by
  induction value using Nat.strongRecOn with
  | ind value ih =>
    rcases Nat.eq_zero_or_pos value with rfl | hvalue
    · simp
    · rw [digits_of_pos hbase hvalue]
      rcases Nat.eq_zero_or_pos (value / base) with hzero | hpos
      · -- A number below the base is its own digit.
        have hlt : value < base := by
          rcases Nat.div_eq_zero_iff.mp hzero with h | h <;> omega
        rw [hzero, digits_zero, Nat.mod_eq_of_lt hlt]
        simpa using Nat.ne_of_gt hvalue
      · have hne : digits base (value / base) ≠ [] := by
          rw [digits_of_pos hbase hpos]
          simp
        rw [List.head?_append, List.head?_eq_some_head hne, Option.some_or,
          ← List.head?_eq_some_head hne]
        exact ih _ (Nat.div_lt_self hvalue (by omega))

end Radix

namespace Json

/-! ### Digits -/

/-- The octet of a decimal digit. -/
theorem toNat_digit {digit : Nat} (h : digit < 10) :
    (UInt8.ofNat (0x30 + digit)).toNat = 0x30 + digit := by
  rw [UInt8.toNat_ofNat']
  omega

theorem isDigit_iff {b : UInt8} : isDigit b = true ↔ 0x30 ≤ b.toNat ∧ b.toNat ≤ 0x39 := by
  rw [isDigit, Bool.and_eq_true, decide_eq_true_eq, decide_eq_true_eq, UInt8.le_iff_toNat_le,
    UInt8.le_iff_toNat_le]
  rfl

theorem isDigit_of_mem_digits {n : Nat} {b : UInt8} (h : b ∈ digits n) : isDigit b = true := by
  rw [digits] at h
  split at h
  · rw [List.mem_singleton] at h
    subst h
    decide
  · obtain ⟨digit, hdigit, rfl⟩ := List.mem_map.mp h
    have hlt := Radix.lt_of_mem_digits (by decide) hdigit
    rw [isDigit_iff, toNat_digit hlt]
    omega

theorem digits_ne_nil (n : Nat) : digits n ≠ [] := by
  rw [digits]
  split
  · simp
  · rw [Radix.digits_of_pos (by decide) (by omega)]
    simp

/-- Digits are not read as others than they are: a zero stands first only if it stands alone. -/
theorem length_digits_of_head? {n : Nat} (h : (digits n).head? = some 0x30) :
    (digits n).length = 1 := by
  unfold digits at h ⊢
  split
  · rfl
  · rename_i hn
    rw [if_neg hn] at h
    rw [List.head?_map, Option.map_eq_some_iff] at h
    obtain ⟨digit, hhead, hdigit⟩ := h
    have hlt := Radix.lt_of_mem_digits (by decide) (List.mem_of_mem_head? hhead)
    have hnat := congrArg UInt8.toNat hdigit
    rw [toNat_digit hlt] at hnat
    obtain rfl : digit = 0 := Nat.add_left_cancel (n := 0x30) hnat
    exact absurd hhead (Radix.head?_digits_ne_zero (by decide))

theorem digitsValue_map {numerals : List Nat} (h : ∀ digit ∈ numerals, digit < 10) :
    digitsValue (numerals.map fun digit => UInt8.ofNat (0x30 + digit)) =
      Radix.value 10 numerals := by
  rw [digitsValue, Radix.value, List.foldl_map]
  refine List.foldl_ext _ _ _ fun value digit hdigit => ?_
  rw [toNat_digit (h digit hdigit), Nat.add_sub_cancel_left]

/-- The digits of a number write the number. -/
theorem digitsValue_digits (n : Nat) : digitsValue (digits n) = n := by
  rw [digits]
  split
  · rename_i h
    rw [h]
    rfl
  · rw [digitsValue_map fun digit => Radix.lt_of_mem_digits (by decide),
      Radix.value_digits (by decide)]

/-! ### Numbers in front of a rest -/

/-- What can follow a number in a document: nothing, or an octet that does not continue it. -/
def Settles (rest : Bytes) : Prop :=
  ∀ b ∈ rest.head?, isDigit b = false ∧ b ≠ 0x2e ∧ b ≠ 0x65 ∧ b ≠ 0x45

theorem settles_nil : Settles [] := by
  rintro b ⟨⟩

theorem settles_cons {b : UInt8} {rest : Bytes}
    (h : isDigit b = false ∧ b ≠ 0x2e ∧ b ≠ 0x65 ∧ b ≠ 0x45) : Settles (b :: rest) := by
  rintro _ ⟨⟩
  exact h

theorem takeWhile_digits_append {n : Nat} {rest : Bytes}
    (h : ∀ b ∈ rest.head?, isDigit b = false) :
    (digits n ++ rest).takeWhile isDigit = digits n ∧
      (digits n ++ rest).dropWhile isDigit = rest := by
  have hall : ∀ b ∈ digits n, isDigit b = true := fun b => isDigit_of_mem_digits
  rw [List.takeWhile_append_of_pos hall, List.dropWhile_append_of_pos hall]
  cases rest with
  | nil => simp
  | cons b rest =>
    have hb : isDigit b = false := h b rfl
    simp [hb]

theorem fraction?_of_settles {rest : Bytes} (h : Settles rest) :
    fraction? rest = some ([], rest) := by
  cases rest with
  | nil => rfl
  | cons b rest =>
    have hb := (h b rfl).2.1
    rw [fraction?]
    rintro rest' ⟨rfl, -⟩
    exact hb rfl

theorem exponent?_of_settles {rest : Bytes} (h : Settles rest) :
    exponent? rest = some (none, rest) := by
  cases rest with
  | nil => rfl
  | cons b rest =>
    obtain ⟨-, -, he, hE⟩ := h b rfl
    unfold exponent?
    simp [he, hE]

theorem isEmpty_digits (n : Nat) : (digits n).isEmpty = false := by
  rw [List.isEmpty_eq_false_iff]
  exact digits_ne_nil n

/-- Digits begin with a digit. -/
theorem digits_append_ne_cons {b : UInt8} (hb : isDigit b = false) (n : Nat) (rest tail : Bytes) :
    digits n ++ rest ≠ b :: tail := by
  obtain ⟨first, others, hdigits⟩ := List.exists_cons_of_ne_nil (digits_ne_nil n)
  have hfirst : isDigit first = true := by
    refine isDigit_of_mem_digits (n := n) ?_
    rw [hdigits]
    exact List.mem_cons_self ..
  rw [hdigits]
  rintro ⟨⟩
  rw [hb] at hfirst
  cases hfirst

/-- The exponent of a number is read back. -/
theorem exponent?_signedDigits {exponent : Int} {rest : Bytes} (h : Settles rest) :
    exponent? (0x65 :: signedDigits exponent ++ rest) = some (some exponent, rest) := by
  have hrest : ∀ b ∈ rest.head?, isDigit b = false := fun b hb => (h b hb).1
  rw [signedDigits]
  split
  · have hnatAbs : -(exponent.natAbs : Int) = exponent := by omega
    simp only [List.cons_append, exponent?, true_or, if_true, takeWhile_digits_append hrest,
      isEmpty_digits, Bool.false_eq_true, if_false, digitsValue_digits, hnatAbs]
  · have hnatAbs : (exponent.natAbs : Int) = exponent := by omega
    have hminus := digits_append_ne_cons (b := 0x2d) rfl exponent.natAbs rest
    have hplus := digits_append_ne_cons (b := 0x2b) rfl exponent.natAbs rest
    rw [List.cons_append, exponent?]
    · simp only [true_or, if_true, takeWhile_digits_append hrest, isEmpty_digits,
        Bool.false_eq_true, if_false, digitsValue_digits, hnatAbs]
    · exact hminus
    · exact hplus

/-- The digits of a number are read back in front of what comes after them. -/
theorem unsigned?_digits_append (negative : Bool) (n : Nat) {rest rest' : Bytes}
    {exponent : Option Int} (hrest : ∀ b ∈ rest.head?, isDigit b = false)
    (hfraction : fraction? rest = some ([], rest))
    (hexponent : exponent? rest = some (exponent, rest')) :
    unsigned? negative (digits n ++ rest) =
      some (if exponent.isNone && !(negative && n == 0) then
        .integer (if negative then -n else n)
      else .decimal negative n (exponent.getD 0), rest') := by
  have hzero : ((digits n).head? == some 0x30 && (digits n).length != 1) = false := by
    rw [Bool.and_eq_false_iff, beq_eq_false_iff_ne, bne_eq_false_iff_eq]
    by_cases h : (digits n).head? = some 0x30
    · exact .inr (length_digits_of_head? h)
    · exact .inl h
  simp only [unsigned?, takeWhile_digits_append hrest, isEmpty_digits, hzero, Bool.or_self,
    Bool.false_eq_true, if_false, hfraction, hexponent, Option.bind_eq_bind, Option.bind_some,
    digitsValue_digits, List.isEmpty_nil, Bool.true_and, List.append_nil, List.length_nil]
  split <;> simp

/-- Without a sign in front, a number is not negative. -/
theorem number?_digits_append (n : Nat) (rest : Bytes) :
    number? (digits n ++ rest) = unsigned? false (digits n ++ rest) := by
  rw [number?]
  exact digits_append_ne_cons rfl n rest

/-- **An integer is read back** in front of what does not continue it. -/
theorem number?_signedDigits {n : Int} {rest : Bytes} (h : Settles rest) :
    number? (signedDigits n ++ rest) = some (.integer n, rest) := by
  have hrest : ∀ b ∈ rest.head?, isDigit b = false := fun b hb => (h b hb).1
  have hunsigned := fun negative => unsigned?_digits_append negative n.natAbs hrest
    (fraction?_of_settles h) (exponent?_of_settles h)
  rw [signedDigits]
  split
  · rename_i hneg
    have hne : n.natAbs ≠ 0 := by omega
    have hvalue : -(n.natAbs : Int) = n := by omega
    rw [List.cons_append, number?, hunsigned, hvalue]
    simp [hne]
  · have hvalue : (n.natAbs : Int) = n := by omega
    rw [number?_digits_append, hunsigned, hvalue]
    simp

/-- **A number with an exponent is read back** in front of what does not continue it. -/
theorem number?_decimal {negative : Bool} {significand : Nat} {exponent : Int} {rest : Bytes}
    (h : Settles rest) :
    number? ((if negative then [0x2d] else []) ++ digits significand ++
      0x65 :: signedDigits exponent ++ rest) =
      some (.decimal negative significand exponent, rest) := by
  have hexponent : exponent? (0x65 :: signedDigits exponent ++ rest) = some (some exponent, rest) :=
    exponent?_signedDigits h
  have hunsigned := fun negative => unsigned?_digits_append negative significand
    (by rintro b ⟨⟩; rfl) rfl hexponent
  rw [List.append_assoc, List.append_assoc]
  cases negative with
  | true =>
    rw [if_pos rfl, List.cons_append, number?, List.nil_append, hunsigned]
    simp
  | false =>
    rw [if_neg Bool.false_ne_true, List.nil_append, number?_digits_append, hunsigned]
    simp

end Json

end AccessControl
