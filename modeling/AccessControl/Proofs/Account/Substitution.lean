import AccessControl.Proofs.Account.Address

/-!
# One wrong character in an address is found

A text that is read as an address stays in form if one of its digits is replaced by another one, so
it is the checksum that decides about it (`Address.IsFormed.exists_replaced`). One digit in place of
another changes the remainder wherever it stands, in the account or in the checksum itself, so the
text is refused for its checksum: `Address.ofText_eq_invalidChecksum_of_replaced`.

A digit may be written in either case, but only in the case of the other letters: a text in which
the cases are mixed is refused before its checksum is looked at.
-/

namespace AccessControl.Address

variable {source : String} {front back : List Char} {c wrong : Char}

/-- A character is a digit of Bech32, written in the case of a text. A text without letters is in
both cases. -/
def IsDigitInCaseOf (source : String) (c : Char) : Prop :=
  (lowerCase source = source ∧ c ∈ Bech32.alphabet) ∨
    (upperCase source = source ∧ c ∈ Bech32.alphabet.map Char.toUpper)

/-! ### Digits in one case -/

theorem toLower_of_mem_alphabet (h : c ∈ Bech32.alphabet) : c.toLower = c := by
  obtain ⟨value, rfl, -⟩ := Bech32.exists_digit_of_mem_alphabet h
  exact Bech32.toLower_digit value

theorem IsDigitInCaseOf.exists_digit (h : IsDigitInCaseOf source c) :
    ∃ value : UInt8, c.toLower = Bech32.digit value ∧ value.toNat < 2 ^ 5 := by
  rcases h with ⟨-, hmem⟩ | ⟨-, hmem⟩
  · rw [toLower_of_mem_alphabet hmem]
    exact Bech32.exists_digit_of_mem_alphabet hmem
  · obtain ⟨digit, hdigit, rfl⟩ := List.mem_map.mp hmem
    rw [Char.toLower_toUpper_eq_toLower, toLower_of_mem_alphabet hdigit]
    exact Bech32.exists_digit_of_mem_alphabet hdigit

theorem lowerCase_eq_self_iff : lowerCase source = source ↔ ∀ c ∈ source.toList, c.toLower = c := by
  rw [← String.toList_inj, toList_lowerCase]
  conv_lhs => rhs; rw [← List.map_id source.toList]
  exact List.map_inj_left

theorem upperCase_eq_self_iff : upperCase source = source ↔ ∀ c ∈ source.toList, c.toUpper = c := by
  rw [← String.toList_inj, toList_upperCase]
  conv_lhs => rhs; rw [← List.map_id source.toList]
  exact List.map_inj_left

/-- In one case, characters that are the same letter are the same. -/
theorem IsDigitInCaseOf.eq_of_toLower_eq (h : IsDigitInCaseOf source wrong)
    (hmem : c ∈ source.toList) (hlower : wrong.toLower = c.toLower) : wrong = c := by
  rcases h with ⟨hsource, hwrong⟩ | ⟨hsource, hwrong⟩
  · rw [← lowerCase_eq_self_iff.mp hsource c hmem, ← hlower, toLower_of_mem_alphabet hwrong]
  · obtain ⟨digit, hdigit, rfl⟩ := List.mem_map.mp hwrong
    have hc := upperCase_eq_self_iff.mp hsource c hmem
    rw [← hc, ← c.toUpper_toLower_eq_toUpper, ← hlower, Char.toLower_toUpper_eq_toLower,
      Char.toUpper_toLower_eq_toUpper]

/-- A text stays in one case. -/
theorem isMixed_replaced (h : IsDigitInCaseOf (String.ofList (front ++ c :: back)) wrong) :
    isMixed (String.ofList (front ++ wrong :: back)) = false := by
  have hreplaced : ∀ {change : Char → Char},
      (∀ d ∈ (String.ofList (front ++ c :: back)).toList, change d = d) → change wrong = wrong →
      ∀ d ∈ (String.ofList (front ++ wrong :: back)).toList, change d = d := by
    intro change hsource hwrong
    simp only [String.toList_ofList, List.forall_mem_append, List.forall_mem_cons] at hsource ⊢
    exact ⟨hsource.1, hwrong, hsource.2.2⟩
  rcases h with ⟨hsource, hwrong⟩ | ⟨hsource, hwrong⟩
  · have hlower := hreplaced (lowerCase_eq_self_iff.mp hsource) (toLower_of_mem_alphabet hwrong)
    rw [← lowerCase_eq_self_iff.mpr hlower]
    exact isMixed_lowerCase _
  · obtain ⟨digit, -, rfl⟩ := List.mem_map.mp hwrong
    have hupper := hreplaced (upperCase_eq_self_iff.mp hsource) digit.toUpper_toUpper_eq_toUpper
    rw [← upperCase_eq_self_iff.mpr hupper]
    exact isMixed_upperCase _

/-! ### Replacing a digit -/

theorem eq_one_of_toLower_eq (h : c.toLower = '1') : c = '1' := by
  have halpha : c.isAlpha = false := by
    rw [← Char.isLower_toLower_eq_isAlpha, h]
    rfl
  have hupper : ¬ c.isUpper = true := by
    intro hupper
    simp [Char.isAlpha, hupper] at halpha
  rwa [Char.toLower_eq_of_not_isUpper hupper] at h

/-- The size of a text in form, which does not depend on which digits it has. -/
theorem utf8ByteSize_of_toList_eq {readable : String} {values : List UInt8}
    (h : (lowerCase source).toList = readable.toList ++ '1' :: values.map Bech32.digit) :
    source.utf8ByteSize = readable.utf8ByteSize + 1 + values.length := by
  have hlower : lowerCase source = readable ++ "1" ++ String.ofList (values.map Bech32.digit) := by
    rw [← String.toList_inj, h]
    simp
  rw [← utf8ByteSize_lowerCase, hlower, String.utf8ByteSize_append, String.utf8ByteSize_append,
    utf8ByteSize_map_digit]
  rfl

/-- What comes after the last separator are digits. -/
theorem exists_of_append_eq {readable : List Char} {values : List UInt8}
    (h : front ++ c :: back = readable ++ '1' :: values.map Bech32.digit)
    (hlast : '1' ∉ c :: back) :
    ∃ before value after, values = before ++ value :: after ∧
      front = readable ++ '1' :: before.map Bech32.digit ∧ c = Bech32.digit value ∧
      back = after.map Bech32.digit := by
  rcases List.append_eq_append_iff.mp h with ⟨between, -, hback⟩ | ⟨between, hfront, hdigits⟩
  · rw [hback] at hlast
    exact absurd (List.mem_append_right _ List.mem_cons_self) hlast
  · cases between with
    | nil =>
      obtain ⟨rfl, -⟩ := List.cons.inj hdigits
      exact absurd List.mem_cons_self hlast
    | cons separator digits =>
      rw [List.cons_append, List.cons.injEq] at hdigits
      obtain ⟨rfl, hdigits⟩ := hdigits
      obtain ⟨before, others, rfl, rfl, hothers⟩ := List.map_eq_append_iff.mp hdigits
      obtain ⟨value, after, rfl, rfl, rfl⟩ := List.map_eq_cons_iff.mp hothers
      exact ⟨before, value, after, rfl, hfront, rfl, rfl⟩

/-- With one digit replaced by another, a text stays in form. -/
theorem IsFormed.exists_replaced {readable : String} {values : List UInt8}
    (h : IsFormed (String.ofList (front ++ c :: back)) readable values) (hlast : '1' ∉ c :: back)
    (hwrong : IsDigitInCaseOf (String.ofList (front ++ c :: back)) wrong) :
    ∃ before value other after, values = before ++ value :: after ∧
      c.toLower = Bech32.digit value ∧ wrong.toLower = Bech32.digit other ∧
      IsFormed (String.ofList (front ++ wrong :: back)) readable (before ++ other :: after) := by
  have htoList := h.toList_eq
  rw [toList_lowerCase, String.toList_ofList, List.map_append, List.map_cons] at htoList
  have hlowered : '1' ∉ c.toLower :: back.map Char.toLower := by
    rw [← List.map_cons]
    intro hmem
    obtain ⟨d, hd, hone⟩ := List.mem_map.mp hmem
    exact hlast (eq_one_of_toLower_eq hone ▸ hd)
  obtain ⟨before, value, after, rfl, hfront, hc, hback⟩ := exists_of_append_eq htoList hlowered
  obtain ⟨other, hother, hfit⟩ := hwrong.exists_digit
  have hchars : (lowerCase (String.ofList (front ++ wrong :: back))).toList =
      readable.toList ++ '1' :: (before ++ other :: after).map Bech32.digit := by
    rw [toList_lowerCase, String.toList_ofList, List.map_append, List.map_cons, hfront, hother,
      hback]
    simp
  refine ⟨before, value, other, after, rfl, hc, hother, ?_⟩
  constructor
  case size_le =>
    have hsize := h.size_le
    rw [utf8ByteSize_of_toList_eq h.toList_eq] at hsize
    rw [utf8ByteSize_of_toList_eq hchars]
    simpa using hsize
  case isMixed_eq => exact isMixed_replaced hwrong
  case toList_eq => exact hchars
  case readable_ne_nil => exact h.readable_ne_nil
  case readable_isReadable => exact h.readable_isReadable
  case values_fit =>
    have hvalues := h.values_fit
    rw [Regroup.fit_append_iff, Regroup.fit_cons_iff] at hvalues ⊢
    exact ⟨hvalues.1, hfit, hvalues.2.2⟩
  case checksumLength_le => simpa using h.checksumLength_le

/-- **An address with one wrong digit is refused for its checksum**, wherever the digit stands after
the last separator. -/
theorem ofText_eq_invalidChecksum_of_replaced {address : Address}
    (hread : ofText (String.ofList (front ++ c :: back)) = .ok address) (hlast : '1' ∉ c :: back)
    (hwrong : IsDigitInCaseOf (String.ofList (front ++ c :: back)) wrong) (hne : wrong ≠ c) :
    ofText (String.ofList (front ++ wrong :: back)) = .error .invalidChecksum := by
  obtain ⟨hmixed, htext, hcanonical⟩ := ofText_eq_ok_iff.mp hread
  obtain ⟨payload, -, hformed⟩ := hcanonical.exists_isFormed hmixed htext
  obtain ⟨before, value, other, after, hvalues, hvalue, hother, hreplaced⟩ :=
    hformed.exists_replaced hlast hwrong
  have hone :
      Bech32.remainder (Bech32.expand address.readable ++ (before ++ value :: after)) = 1 := by
    rw [← hvalues]
    exact (Bech32.remainder_append_eq_one_iff (Bech32.length_checksum _ _)
      (Bech32.fit_checksum _ _)).mpr rfl
  have hdiffer : other ≠ value := by
    rintro rfl
    exact hne (hwrong.eq_of_toLower_eq (by simp) (hother.trans hvalue.symm))
  rw [hreplaced.ofText_eq, if_pos]
  intro h
  rw [← hone, ← List.append_assoc, ← List.append_assoc] at h
  exact hdiffer (Bech32.remainder_append_cons_inj h)

/-- The last digit of an address in upper case, and the first digit of one in lower case whose
human-readable part holds a separator. -/
theorem ofText_eq_invalidChecksum_of_replaced_ends :
    (ofText "A12UEL5L" = .ok ⟨"a", [], "a12uel5l"⟩ ∧ '1' ∉ ['L'] ∧
      IsDigitInCaseOf "A12UEL5L" 'M' ∧ 'M' ≠ 'L' ∧
      ofText "A12UEL5M" = .error .invalidChecksum) ∧
    (ofText "a11qrlswv4xnzk" = .ok ⟨"a1", [0, 255, 7], "a11qrlswv4xnzk"⟩ ∧
      '1' ∉ "qrlswv4xnzk".toList ∧ IsDigitInCaseOf "a11qrlswv4xnzk" '0' ∧ '0' ≠ 'q' ∧
      ofText "a110rlswv4xnzk" = .error .invalidChecksum) := by
  have hupper : ofText "A12UEL5L" = .ok ⟨"a", [], "a12uel5l"⟩ := by decide +kernel
  have hlower : ofText "a11qrlswv4xnzk" = .ok ⟨"a1", [0, 255, 7], "a11qrlswv4xnzk"⟩ := by
    decide +kernel
  have hlast : '1' ∉ "qrlswv4xnzk".toList := by decide
  have hdigit : IsDigitInCaseOf "A12UEL5L" 'M' := .inr ⟨by decide +kernel, by decide +kernel⟩
  have hnumeral : IsDigitInCaseOf "a11qrlswv4xnzk" '0' :=
    .inl ⟨by decide +kernel, by decide +kernel⟩
  exact ⟨⟨hupper, by decide, hdigit, by decide,
      @ofText_eq_invalidChecksum_of_replaced "A12UEL5".toList [] _ _ _ hupper (by decide) hdigit
        (by decide)⟩,
    ⟨hlower, hlast, hnumeral, by decide,
      @ofText_eq_invalidChecksum_of_replaced "a11".toList "rlswv4xnzk".toList _ _ _ hlower hlast
        hnumeral (by decide)⟩⟩

end AccessControl.Address
