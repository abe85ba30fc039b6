import AccessControl.Toml.Parser
import Mathlib.Algebra.Group.Nat.Defs

/-!
# Integers are read back

An integer is written in decimal digits, with a sign if it is negative. `integer?_toString` says
that these are read as the integer again, in front of a character that does not continue a word, if
the integer is one of the format. A number has no leading zero, so its digits are no text of another
base.
-/

namespace AccessControl.Toml

variable {word rest : List Char} {c : Char}

/-! ### Digits -/

/-- The number of a decimal digit. -/
theorem digit?_of_isDigit (h : c.isDigit = true) :
    digits?.digit? 10 c = some (c.toNat - '0'.toNat) := by
  have hrange : 0x30 ≤ c.toNat ∧ c.toNat ≤ 0x39 := by
    rw [Char.isDigit, Bool.and_eq_true, decide_eq_true_eq, decide_eq_true_eq] at h
    exact ⟨h.1, h.2⟩
  have hzero : '0'.toNat = 0x30 := rfl
  have hlt : c.toNat - 0x30 < 10 := by omega
  rw [digits?.digit?, Hex.digitValue?, if_pos hrange, hzero, Option.filter_some,
    if_pos (decide_eq_true hlt)]

/-- Decimal digits without underscores are read one by one. -/
theorem digits?_of_isDigit (hne : word ≠ []) (h : ∀ c ∈ word, c.isDigit = true) :
    digits? 10 word = some (word.map fun c => c.toNat - '0'.toNat) := by
  induction word with
  | nil => exact absurd rfl hne
  | cons c word ih =>
    obtain ⟨hc, hword⟩ := List.forall_mem_cons.mp h
    match word, ih, hword with
    | [], _, _ => simp [digits?, digit?_of_isDigit hc]
    | next :: word, ih, hword =>
      have hnext : next ≠ '_' := by
        rintro rfl
        cases (List.forall_mem_cons.mp hword).1
      rw [digits?, digit?_of_isDigit hc, ih (List.cons_ne_nil _ _) hword]
      · rfl
      · exact List.cons_ne_nil _ _
      · rintro tail ⟨⟩
        exact hnext rfl

/-- A number has no leading zero. -/
theorem head?_toDigits_ne_zero {n : Nat} (h : 0 < n) : (Nat.toDigits 10 n).head? ≠ some '0' := by
  induction n using Nat.strongRecOn with
  | ind n ih =>
    rcases Nat.lt_or_ge n 10 with hlt | hge
    · rw [Nat.toDigits_of_lt_base hlt, List.head?_singleton, ne_eq, Option.some.injEq,
        Nat.digitChar_eq_zero]
      omega
    · obtain ⟨first, others, hdigits⟩ :=
        List.exists_cons_of_ne_nil (@Nat.toDigits_ne_nil (n / 10) 10)
      have hquotient := ih (n / 10) (by omega) (by omega)
      rw [Nat.toDigits_of_base_le (by decide) hge, hdigits]
      rwa [hdigits] at hquotient

theorem length_toDigits_of_head? {n : Nat} (h : (Nat.toDigits 10 n).head? = some '0') :
    (Nat.toDigits 10 n).length = 1 := by
  rcases Nat.eq_zero_or_pos n with rfl | hn
  · rfl
  · exact absurd h (head?_toDigits_ne_zero hn)

/-- The digits of a number write the number. -/
theorem decimal?_toDigits (n : Nat) :
    integerOf?.decimal? (Nat.toDigits 10 n) = some (n : Int) := by
  have hdigit : ∀ c ∈ Nat.toDigits 10 n, c.isDigit = true := fun c =>
    Nat.isDigit_of_mem_toDigits (by decide) (by decide)
  have hzero : ¬ ((Nat.toDigits 10 n).head? = some '0' ∧ (Nat.toDigits 10 n).length ≠ 1) :=
    fun h => h.2 (length_toDigits_of_head? h.1)
  have hvalue : ((Nat.toDigits 10 n).map fun c => c.toNat - '0'.toNat).foldl
      (fun n digit => n * 10 + digit) 0 = n := by
    rw [List.foldl_map]
    simp only [Nat.mul_comm _ 10]
    rw [← Nat.ofDigitChars_eq_foldl, Nat.ofDigitChars_ten_toDigits]
  rw [integerOf?.decimal?, if_neg hzero, integerOf?.magnitude?,
    digits?_of_isDigit Nat.toDigits_ne_nil hdigit, Option.map_some, hvalue]

/-! ### Words -/

/-- Decimal digits are no text of another base. -/
theorem integerOf?_of_isDigit (h : ∀ c ∈ word, c.isDigit = true) :
    integerOf? word =
      (integerOf?.decimal? word).bind fun n => if fitsInteger n then some n else none := by
  unfold integerOf?
  split
  case h_6 => rfl
  case h_4 | h_5 => cases h _ (List.mem_cons_self ..)
  all_goals cases h _ (List.mem_cons_of_mem _ (List.mem_cons_self ..))

theorem toList_toString (n : Int) :
    (toString n).toList =
      if n < 0 then '-' :: Nat.toDigits 10 n.natAbs else Nat.toDigits 10 n.natAbs := by
  rw [Int.toString_eq_repr, Int.repr_eq_if]
  by_cases hn : n < 0
  · have hnatAbs : (-n).toNat = n.natAbs := by omega
    rw [if_neg (by omega), if_pos hn, String.toList_append, Nat.toList_repr, hnatAbs]
    rfl
  · have hnatAbs : n.toNat = n.natAbs := by omega
    rw [if_pos (by omega), if_neg hn, Nat.toList_repr, hnatAbs]

/-- The word of an integer is read as the integer. -/
theorem integerOf?_toString {n : Int} (h : fitsInteger n = true) :
    integerOf? (toString n).toList = some n := by
  rw [toList_toString]
  split
  · have hnatAbs : -(n.natAbs : Int) = n := by omega
    simp only [integerOf?, decimal?_toDigits, Option.map_some, hnatAbs]
    exact if_pos h
  · have hnatAbs : (n.natAbs : Int) = n := by omega
    rw [integerOf?_of_isDigit fun c => Nat.isDigit_of_mem_toDigits (by decide) (by decide),
      decimal?_toDigits, Option.bind_some, hnatAbs]
    exact if_pos h

theorem takeWhile_append_eq {p : Char → Bool} (h : ∀ c ∈ word, p c = true)
    (hrest : ∀ c ∈ rest.head?, p c = false) : (word ++ rest).takeWhile p = word := by
  rw [List.takeWhile_append_of_pos h]
  cases rest with
  | nil => simp
  | cons c rest => simp [hrest c rfl]

/-- A character that continues a word of digits, underscores and a sign or base. -/
def isOfWord (c : Char) : Bool :=
  c.isAlphanum || c == '_' || c == '+' || c == '-'

theorem isOfWord_of_mem_toString {n : Int} (h : c ∈ (toString n).toList) : isOfWord c = true := by
  have hdigit : ∀ c ∈ Nat.toDigits 10 n.natAbs, isOfWord c = true := by
    intro c hc
    have := Nat.isDigit_of_mem_toDigits (by decide) (by decide) hc
    simp [isOfWord, Char.isAlphanum, this]
  rw [toList_toString] at h
  split at h
  · rcases List.mem_cons.mp h with rfl | h
    · rfl
    · exact hdigit c h
  · exact hdigit c h

theorem toList_toString_ne_nil (n : Int) : (toString n).toList ≠ [] := by
  rw [toList_toString]
  split
  · exact List.cons_ne_nil _ _
  · exact Nat.toDigits_ne_nil

/-- **An integer is read back** in front of a character that does not continue its word. -/
theorem integer?_toString {n : Int} (h : fitsInteger n = true)
    (hrest : ∀ c ∈ rest.head?, isOfWord c = false) :
    integer? ((toString n).toList ++ rest) = some (n, rest) := by
  have hrun : ((toString n).toList ++ rest).takeWhile isOfWord = (toString n).toList :=
    takeWhile_append_eq (fun c => isOfWord_of_mem_toString) hrest
  unfold isOfWord at hrun
  rw [integer?, hrun, integerOf?_toString h, Option.map_some, List.drop_left]

end AccessControl.Toml
