import AccessControl.Proofs.Time.Date
import AccessControl.Time.Text
import AccessControl.Time.Timestamp
import Mathlib.Algebra.Group.Nat.Defs

/-!
# Instants are read back

The text of an instant says what a clock shows in it: date and time of any instant of the calendar,
the digits of its fraction, and second `60` for a leap second at the end of a minute. A leap second
after any other second looks like the next second, and is read as such (`Instant.civil`,
`Instant.parse?_text`). So there is a text that writes an instant exactly if a clock can show it
(`Instant.exists_parse?_eq_some_iff`).

Every number of the text ends in front of a character that is no digit, so a reader takes exactly
its digits (`digits?_paddedDigits`), and no reader skips anything.
-/

namespace AccessControl

open Text

/-! ### Padded digits -/

theorem toList_paddedDigits (width n : Nat) :
    (paddedDigits width n).toList =
      List.replicate (width - (Nat.toDigits 10 n).length) '0' ++ Nat.toDigits 10 n := by
  have hdigits : (toString n).toList = Nat.toDigits 10 n := Nat.toList_repr
  rw [paddedDigits, String.toList_append, String.toList_ofList, ← String.length_toList, hdigits]

theorem isDigit_of_mem_paddedDigits (width n : Nat) {c : Char}
    (h : c ∈ (paddedDigits width n).toList) : c.isDigit = true := by
  rw [toList_paddedDigits, List.mem_append] at h
  rcases h with hpadding | hdigit
  · rw [List.eq_of_mem_replicate hpadding]
    rfl
  · exact Nat.isDigit_of_mem_toDigits (by decide) (by decide) hdigit

/-- A number that fits is filled up to exactly the width. -/
theorem length_paddedDigits {width n : Nat} (hwidth : 0 < width) (h : n < 10 ^ width) :
    (paddedDigits width n).toList.length = width := by
  have hle := (Nat.length_toDigits_le_iff (by decide) hwidth).mpr h
  rw [toList_paddedDigits, List.length_append, List.length_replicate]
  omega

theorem paddedDigits_ne_nil (width n : Nat) : (paddedDigits width n).toList ≠ [] := by
  rw [toList_paddedDigits]
  intro h
  exact Nat.toDigits_ne_nil (List.append_eq_nil_iff.mp h).2

namespace Instant

theorem digitsValue_eq (digits : List Char) :
    digitsValue digits = Nat.ofDigitChars 10 digits 0 := by
  rw [digitsValue, Nat.ofDigitChars_eq_foldl]
  congr 1
  funext value c
  rw [Nat.mul_comm]
  rfl

/-- Padding does not change the number. -/
theorem digitsValue_paddedDigits (width n : Nat) :
    digitsValue (paddedDigits width n).toList = n := by
  rw [digitsValue_eq, toList_paddedDigits, Nat.ofDigitChars_append, Nat.ofDigitChars_replicate_zero,
    Nat.mul_zero, Nat.ofDigitChars_ten_toDigits]

/-! ### Numbers in front of a rest -/

/-- What can follow a number: nothing, or a character that is no digit. -/
def Stops (rest : List Char) : Prop :=
  ∀ c ∈ rest.head?, c.isDigit = false

theorem stops_cons {c : Char} {rest : List Char} (h : c.isDigit = false) : Stops (c :: rest) := by
  rintro _ ⟨⟩
  exact h

theorem takeWhile_isDigit_append {digits rest : List Char} (hrest : Stops rest)
    (h : ∀ c ∈ digits, c.isDigit = true) :
    (digits ++ rest).takeWhile Char.isDigit = digits := by
  rw [List.takeWhile_append_of_pos h]
  cases rest with
  | nil => simp
  | cons c rest => simp [hrest c rfl]

/-- **A number is read back** in front of a character that is no digit, unless it has more digits
than may be taken. -/
theorem digits?_paddedDigits {atMost : Option Nat} {width n : Nat} {rest : List Char}
    (hrest : Stops rest) (hcount : ∀ count ∈ atMost, (paddedDigits width n).toList.length ≤ count) :
    digits? atMost ((paddedDigits width n).toList ++ rest) = some (n, rest) := by
  have hrun := takeWhile_isDigit_append hrest fun c hc =>
    isDigit_of_mem_paddedDigits width n hc
  have hempty : (paddedDigits width n).toList.isEmpty = false := by
    rw [List.isEmpty_eq_false_iff]
    exact paddedDigits_ne_nil width n
  unfold digits?
  cases atMost with
  | none =>
    simp only [hrun, hempty, Bool.false_eq_true, if_false, digitsValue_paddedDigits,
      List.drop_left]
  | some count =>
    simp only [hrun, List.take_of_length_le (hcount count rfl), hempty, Bool.false_eq_true,
      if_false, digitsValue_paddedDigits, List.drop_left]

theorem isBlank_of_isDigit {c : Char} (h : c.isDigit = true) : isBlank c = false := by
  have hrange : 48 ≤ c.toNat ∧ c.toNat ≤ 57 := by
    rw [Char.isDigit, Bool.and_eq_true, decide_eq_true_eq, decide_eq_true_eq] at h
    exact ⟨h.1, h.2⟩
  simp only [isBlank, Bool.or_eq_false_iff, Bool.and_eq_false_iff, decide_eq_false_iff_not,
    beq_eq_false_iff_ne]
  omega

/-- A number does not start with a blank. -/
theorem trimStart_paddedDigits (width n : Nat) (rest : List Char) :
    trimStart ((paddedDigits width n).toList ++ rest) = (paddedDigits width n).toList ++ rest := by
  obtain ⟨c, digits, hdigits⟩ := List.exists_cons_of_ne_nil (paddedDigits_ne_nil width n)
  have hdigit : c.isDigit = true := by
    refine isDigit_of_mem_paddedDigits width n ?_
    rw [hdigits]
    exact List.mem_cons_self ..
  rw [hdigits, List.cons_append, trimStart, List.dropWhile_cons_of_neg]
  rw [isBlank_of_isDigit hdigit]
  exact Bool.false_ne_true

theorem part?_paddedDigits {n : Nat} {rest : List Char} (h : n < 100) (hrest : Stops rest) :
    part? ((paddedDigits 2 n).toList ++ rest) = some (n, rest) := by
  rw [part?, trimStart_paddedDigits]
  refine digits?_paddedDigits hrest ?_
  rintro _ ⟨⟩
  exact Nat.le_of_eq (length_paddedDigits (by decide) h)

/-- Digits begin with a digit. -/
theorem paddedDigits_append_ne_cons {c : Char} (hc : c.isDigit = false) (width n : Nat)
    (rest tail : List Char) : (paddedDigits width n).toList ++ rest ≠ c :: tail := by
  obtain ⟨first, others, hdigits⟩ := List.exists_cons_of_ne_nil (paddedDigits_ne_nil width n)
  have hfirst : first.isDigit = true := by
    refine isDigit_of_mem_paddedDigits width n ?_
    rw [hdigits]
    exact List.mem_cons_self ..
  rw [hdigits]
  rintro ⟨⟩
  rw [hc] at hfirst
  cases hfirst

/-- The year of a date is read back. -/
theorem year?_yearText (year : Int) {rest : List Char} (hrest : Stops rest) :
    year? ((Date.yearText year).toList ++ rest) = some (year, rest) := by
  have hsigned : digits? none ((paddedDigits 4 year.natAbs).toList ++ rest) =
      some (year.natAbs, rest) := digits?_paddedDigits hrest (by rintro _ ⟨⟩)
  by_cases hfour : 0 ≤ year ∧ year ≤ 9999
  · rw [Date.yearText, if_pos hfour, year?]
    have hread : digits? (some 4) ((paddedDigits 4 year.toNat).toList ++ rest) =
        some (year.toNat, rest) := by
      refine digits?_paddedDigits hrest ?_
      rintro _ ⟨⟩
      exact Nat.le_of_eq (length_paddedDigits (by decide) (by omega))
    rw [trimStart_paddedDigits]
    split
    · rename_i h
      exact absurd h (paddedDigits_append_ne_cons (by decide) _ _ _ _)
    · rename_i h
      exact absurd h (paddedDigits_append_ne_cons (by decide) _ _ _ _)
    · simp only [hread, Option.map_some, Int.toNat_of_nonneg hfour.1]
  · rw [Date.yearText, if_neg hfour, year?]
    by_cases hneg : year < 0
    · have htrim : trimStart (("-" ++ paddedDigits 4 year.natAbs).toList ++ rest) =
          '-' :: ((paddedDigits 4 year.natAbs).toList ++ rest) := by
        rw [String.toList_append]
        rfl
      have hvalue : -(year.natAbs : Int) = year := by omega
      simp only [hneg, if_true, htrim, hsigned, Option.map_some, hvalue]
    · have htrim : trimStart (("+" ++ paddedDigits 4 year.natAbs).toList ++ rest) =
          '+' :: ((paddedDigits 4 year.natAbs).toList ++ rest) := by
        rw [String.toList_append]
        rfl
      have hvalue : (year.natAbs : Int) = year := by omega
      simp only [hneg, if_false, htrim, hsigned, Option.map_some, hvalue]

/-- What can follow the fraction: what can follow a number, but no point. -/
theorem fraction?_fractionText {nano : Nat} {rest : List Char} (h : nano < 1000000000)
    (hrest : Stops rest) (hpoint : rest.head? ≠ some '.') :
    fraction? ((fractionText nano).toList ++ rest) = some (nano, rest) := by
  -- The digits of any number of places are read as their part of nine.
  have hplaces : ∀ places n, 0 < places → places ≤ 9 → n < 10 ^ places →
      fraction? (("." ++ paddedDigits places n).toList ++ rest) =
        some (n * Nat.pow 10 (9 - places), rest) := by
    intro places n hpos hle hn
    have hlength := length_paddedDigits hpos hn
    have hrun := takeWhile_isDigit_append hrest fun c hc =>
      isDigit_of_mem_paddedDigits places n hc
    have hempty : (paddedDigits places n).toList.isEmpty = false := by
      rw [List.isEmpty_eq_false_iff]
      exact paddedDigits_ne_nil places n
    have hcons : ("." ++ paddedDigits places n).toList ++ rest =
        '.' :: ((paddedDigits places n).toList ++ rest) := by
      rw [String.toList_append]
      rfl
    rw [hcons, fraction?]
    have hkept := List.take_of_length_le (Nat.le_trans (Nat.le_of_eq hlength) hle)
    have hdrop : ((paddedDigits places n).toList ++ rest).drop places = rest :=
      List.drop_left' hlength
    simp only [hrun, hempty, Bool.false_eq_true, if_false, hkept, digitsValue_paddedDigits, hlength,
      hdrop]
  unfold fractionText
  split
  · rename_i hzero
    rw [hzero]
    cases rest with
    | nil => rfl
    | cons c rest =>
      rw [fraction?]
      · rfl
      · rintro rest' ⟨rfl, -⟩
        exact hpoint rfl
  · split
    · rw [hplaces 3 _ (by decide) (by decide) (by omega)]
      have hpow : Nat.pow 10 (9 - 3) = 1000000 := rfl
      rw [hpow, Nat.div_mul_cancel (Nat.dvd_of_mod_eq_zero ‹_›)]
    · split
      · rw [hplaces 6 _ (by decide) (by decide) (by omega)]
        have hpow : Nat.pow 10 (9 - 6) = 1000 := rfl
        rw [hpow, Nat.div_mul_cancel (Nat.dvd_of_mod_eq_zero ‹_›)]
      · rw [hplaces 9 _ (by decide) (by decide) (by omega)]
        have hpow : Nat.pow 10 (9 - 9) = 1 := rfl
        rw [hpow, Nat.mul_one]

/-! ### What a clock shows -/

/-- Whether a clock can show an instant: a leap second follows the last second of a minute only. -/
def IsCivil (t : Instant) : Prop :=
  t.isLeap = true → t.second % 60 = 59

instance (t : Instant) : Decidable t.IsCivil :=
  inferInstanceAs (Decidable (t.isLeap = true → t.second % 60 = 59))

/-- The last second of the calendar is the last one of its minute. -/
theorem second_lt_of_not_isCivil {t : Instant} (h : ¬ t.IsCivil) :
    1000000000 ≤ t.nano ∧ t.second % 60 ≠ 59 ∧ t.second + 1 ≤ 8210266876799 := by
  have hle := t.second_le
  obtain ⟨hleap, hlast⟩ := Classical.not_imp.mp h
  exact ⟨of_decide_eq_true hleap, hlast, by omega⟩

/-- The instant that a clock shows. It is the same one, unless it lies in a leap second that no
clock has; this looks like the second after it. -/
def civil (t : Instant) : Instant :=
  if h : t.IsCivil then t
  else
    ⟨t.second + 1, t.nano - 1000000000, Int.le_trans t.second_ge (Int.le_add_one (Int.le_refl _)),
      (second_lt_of_not_isCivil h).2.2, Nat.lt_of_le_of_lt (Nat.sub_le _ _) t.nano_lt⟩

theorem civil_of_isCivil {t : Instant} (h : t.IsCivil) : t.civil = t :=
  dif_pos h

theorem second_civil {t : Instant} (h : ¬ t.IsCivil) : t.civil.second = t.second + 1 := by
  rw [civil, dif_neg h]

theorem nano_civil {t : Instant} (h : ¬ t.IsCivil) : t.civil.nano = t.nano - 1000000000 := by
  rw [civil, dif_neg h]

theorem civil_eq_self_iff {t : Instant} : t.civil = t ↔ t.IsCivil := by
  constructor
  · intro h
    refine Decidable.byContradiction fun hcivil => ?_
    have hsecond := second_civil hcivil
    rw [h] at hsecond
    omega
  · exact civil_of_isCivil

theorem isLeap_civil_of_not_isCivil {t : Instant} (h : ¬ t.IsCivil) : t.civil.isLeap = false := by
  have hnano := t.nano_lt
  refine decide_eq_false ?_
  rw [nano_civil h]
  omega

theorem isCivil_civil (t : Instant) : t.civil.IsCivil := by
  by_cases h : t.IsCivil
  · rwa [civil_of_isCivil h]
  · intro hleap
    rw [isLeap_civil_of_not_isCivil h] at hleap
    cases hleap

/-! ### Instants -/

theorem stops_fractionText (nano : Nat) : Stops ((fractionText nano).toList ++ ['Z']) := by
  have hpoint : ∀ digits : String, Stops (("." ++ digits).toList ++ ['Z']) := by
    intro digits
    rw [String.toList_append]
    exact stops_cons rfl
  unfold fractionText
  split
  · exact stops_cons rfl
  · split
    · exact hpoint _
    · split <;> exact hpoint _

/-- An instant is made of its parts. -/
theorem ofParts?_eq_some (t : Instant) : ofParts? t.second t.nano = some t := by
  rw [ofParts?, dif_pos ⟨t.second_ge, t.second_le, t.nano_lt⟩]

/-- Every instant lies on a date of the calendar. -/
theorem isValid_date (t : Instant) : t.date.isValid = true := by
  have hge := t.second_ge
  have hle := t.second_le
  exact Date.isValid_ofDays (by omega) (by omega)

theorem date_lt (t : Instant) : t.date.month < 100 ∧ t.date.day < 100 := by
  have hvalid := t.isValid_date
  simp only [Date.isValid, Bool.and_eq_true, decide_eq_true_eq] at hvalid
  have hdays : Date.daysInMonth t.date.year t.date.month ≤ 31 := by
    unfold Date.daysInMonth
    split
    · split <;> omega
    · split <;> omega
  omega

theorem secondOfDay_lt (t : Instant) : t.secondOfDay < 86400 := by
  unfold secondOfDay
  omega

/-- The second of the minute as it is written, `60` within a leap second. -/
def writtenSecond (t : Instant) : Nat :=
  t.secondOfDay % 60 + (if t.isLeap then 1 else 0)

theorem writtenSecond_le (t : Instant) : t.writtenSecond ≤ 60 := by
  unfold writtenSecond
  split <;> omega

theorem toList_text_document (t : Instant) :
    (t.text .document).toList =
      (Date.yearText t.date.year).toList ++ '-' :: ((paddedDigits 2 t.date.month).toList ++
        '-' :: ((paddedDigits 2 t.date.day).toList ++
        'T' :: ((paddedDigits 2 (t.secondOfDay / 3600)).toList ++
        ':' :: ((paddedDigits 2 (t.secondOfDay / 60 % 60)).toList ++
        ':' :: ((paddedDigits 2 t.writtenSecond).toList ++
        ((fractionText (t.nano % 1000000000)).toList ++ ['Z'])))))) := by
  simp [text, Date.text, InstantStyle.document, writtenSecond]

/-- **A clock shows the same in both.** -/
theorem text_civil (t : Instant) (style : InstantStyle) : t.civil.text style = t.text style := by
  by_cases h : t.IsCivil
  · rw [civil_of_isCivil h]
  · obtain ⟨hnano, hlast, -⟩ := second_lt_of_not_isCivil h
    have hlt := t.nano_lt
    have hsecond := second_civil h
    -- The next second is still in the same minute.
    have hdate : t.civil.date = t.date := by
      rw [date, date, hsecond]
      congr 1
      omega
    have hday : t.civil.secondOfDay = t.secondOfDay + 1 := by
      unfold secondOfDay
      omega
    have hminute : t.secondOfDay % 60 < 59 := by
      unfold secondOfDay
      omega
    have hfraction : t.civil.nano % 1000000000 = t.nano % 1000000000 := by
      rw [nano_civil h]
      omega
    have hwritten : t.civil.writtenSecond = t.writtenSecond := by
      unfold writtenSecond
      rw [isLeap_civil_of_not_isCivil h, isLeap, decide_eq_true hnano, hday,
        if_neg Bool.false_ne_true, if_pos rfl]
      omega
    have hhour : t.civil.secondOfDay / 3600 = t.secondOfDay / 3600 := by omega
    have hminutes : t.civil.secondOfDay / 60 % 60 = t.secondOfDay / 60 % 60 := by omega
    unfold writtenSecond at hwritten
    unfold text
    simp only [hdate, hhour, hminutes, hwritten, hfraction]

/-- The parts that are read make the instant again; second `60` stands for the leap second. -/
theorem ofParts?_written {t : Instant} (hcivil : t.IsCivil) :
    (if t.writtenSecond = 60 then
      ofParts? (t.date.toDays * 86400 + (t.secondOfDay / 3600 : Nat) * 3600 +
        (t.secondOfDay / 60 % 60 : Nat) * 60 - 0 + 59) (1000000000 + t.nano % 1000000000)
    else
      ofParts? (t.date.toDays * 86400 + (t.secondOfDay / 3600 : Nat) * 3600 +
        (t.secondOfDay / 60 % 60 : Nat) * 60 - 0 + t.writtenSecond) (t.nano % 1000000000)) =
      some t := by
  have hnano := t.nano_lt
  have hdays : t.date.toDays = t.second / 86400 := Date.toDays_ofDays _
  have hday : (t.secondOfDay : Int) = t.second % 86400 := Int.toNat_of_nonneg (by omega)
  by_cases hleap : 1000000000 ≤ t.nano
  · have hlast := hcivil (decide_eq_true hleap)
    have hwritten : t.writtenSecond = t.secondOfDay % 60 + 1 := by
      rw [writtenSecond, isLeap, decide_eq_true hleap, if_pos rfl]
    rw [if_pos (by omega), ← ofParts?_eq_some t]
    congr 1 <;> omega
  · have hwritten : t.writtenSecond = t.secondOfDay % 60 := by
      rw [writtenSecond, isLeap, decide_eq_false hleap, if_neg Bool.false_ne_true, Nat.add_zero]
    rw [if_neg (by omega), ← ofParts?_eq_some t]
    congr 1 <;> omega

theorem afterMark?_cons {mark : Char} (h : isBlank mark = false) (rest : List Char) :
    afterMark? mark (mark :: rest) = some rest := by
  simp [afterMark?, trimStart, h]

/-- The text of an instant that a clock can show writes this instant. -/
theorem parse?_text_of_isCivil {t : Instant} (hcivil : t.IsCivil) :
    parse? (t.text .document) = some t := by
  obtain ⟨hmonth, hday⟩ := t.date_lt
  have hsecond := t.secondOfDay_lt
  have hwritten := t.writtenSecond_le
  have hzone : zone? (trimStart ['Z']) = some (0, []) := by decide
  have hrest : (trimStart []).isEmpty = true := rfl
  have hvalid : Date.isValid ⟨t.date.year, t.date.month, t.date.day⟩ = true := t.isValid_date
  rw [parse?, toList_text_document]
  -- One reader after the other takes its part and hands on the rest.
  refine Option.bind_eq_some_iff.mpr ⟨_, year?_yearText _ (stops_cons rfl), ?_⟩
  refine Option.bind_eq_some_iff.mpr ⟨_, afterMark?_cons (by decide) _, ?_⟩
  refine Option.bind_eq_some_iff.mpr ⟨_, part?_paddedDigits hmonth (stops_cons rfl), ?_⟩
  refine Option.bind_eq_some_iff.mpr ⟨_, afterMark?_cons (by decide) _, ?_⟩
  refine Option.bind_eq_some_iff.mpr ⟨_, part?_paddedDigits hday (stops_cons rfl), ?_⟩
  simp only [true_or, if_true]
  refine Option.bind_eq_some_iff.mpr ⟨_, rfl, ?_⟩
  refine Option.bind_eq_some_iff.mpr ⟨_, part?_paddedDigits (by omega) (stops_cons rfl), ?_⟩
  refine Option.bind_eq_some_iff.mpr ⟨_, afterMark?_cons (by decide) _, ?_⟩
  refine Option.bind_eq_some_iff.mpr ⟨_, part?_paddedDigits (by omega) (stops_cons rfl), ?_⟩
  refine Option.bind_eq_some_iff.mpr ⟨_, afterMark?_cons (by decide) _, ?_⟩
  refine Option.bind_eq_some_iff.mpr
    ⟨_, part?_paddedDigits (by omega) (stops_fractionText _), ?_⟩
  refine Option.bind_eq_some_iff.mpr
    ⟨_, fraction?_fractionText (Nat.mod_lt _ (by decide)) (stops_cons rfl) (by decide), ?_⟩
  refine Option.bind_eq_some_iff.mpr ⟨_, hzone, ?_⟩
  refine (if_pos ⟨hrest, hvalid, by omega, by omega, hwritten⟩).trans ?_
  exact ofParts?_written hcivil

/-- **The text of an instant writes what a clock shows.** -/
theorem parse?_text (t : Instant) : parse? (t.text .document) = some t.civil := by
  rw [← text_civil]
  exact parse?_text_of_isCivil t.isCivil_civil

@[simp] theorem ofJson?_toJson (t : Instant) : ofJson? t.toJson = some t.civil := by
  simp [ofJson?, toJson, parse?_text]

@[simp] theorem toJson_civil (t : Instant) : t.civil.toJson = t.toJson := by
  rw [toJson, text_civil, toJson]

/-! ### What texts write -/

/-- Digits write less than the power of ten with as many zeros. -/
theorem foldl_digits_lt {digits : List Char} (h : ∀ c ∈ digits, c.isDigit = true) (value : Nat) :
    digits.foldl (fun value c => value * 10 + (c.toNat - 0x30)) value <
      (value + 1) * 10 ^ digits.length := by
  induction digits generalizing value with
  | nil => simp
  | cons c digits ih =>
    obtain ⟨hc, hdigits⟩ := List.forall_mem_cons.mp h
    have hdigit : c.toNat ≤ 57 := by
      rw [Char.isDigit, Bool.and_eq_true, decide_eq_true_eq, decide_eq_true_eq] at hc
      exact hc.2
    calc (c :: digits).foldl (fun value c => value * 10 + (c.toNat - 0x30)) value
        < (value * 10 + (c.toNat - 0x30) + 1) * 10 ^ digits.length := ih hdigits _
      _ ≤ ((value + 1) * 10) * 10 ^ digits.length := Nat.mul_le_mul_right _ (by omega)
      _ = (value + 1) * 10 ^ (c :: digits).length := by
        rw [List.length_cons, Nat.pow_succ, Nat.mul_assoc, Nat.mul_comm 10]

/-- A fraction is less than a second. -/
theorem lt_of_fraction? {chars rest : List Char} {nano : Nat}
    (h : fraction? chars = some (nano, rest)) : nano < 1000000000 := by
  unfold fraction? at h
  split at h
  · rename_i tail
    dsimp only at h
    split at h
    · cases h
    · obtain ⟨rfl, -⟩ := Prod.mk.inj (Option.some.inj h)
      have hdigits : ∀ c ∈ (tail.takeWhile Char.isDigit).take 9, c.isDigit = true := fun c hc =>
        List.all_eq_true.mp List.all_takeWhile c (List.mem_of_mem_take hc)
      have hlength := List.length_take_le 9 (tail.takeWhile Char.isDigit)
      generalize (tail.takeWhile Char.isDigit).take 9 = kept at hdigits hlength ⊢
      have hlt : digitsValue kept < 10 ^ kept.length := by
        have hfold := foldl_digits_lt hdigits 0
        rwa [Nat.zero_add, Nat.one_mul] at hfold
      calc digitsValue kept * 10 ^ (9 - kept.length)
          < 10 ^ kept.length * 10 ^ (9 - kept.length) :=
            Nat.mul_lt_mul_of_pos_right hlt (Nat.pow_pos (by decide))
        _ = 1000000000 := by rw [← Nat.pow_add, Nat.add_sub_cancel' hlength]
  · obtain ⟨rfl, -⟩ := Prod.mk.inj (Option.some.inj h)
    decide

/-- Zones are whole minutes apart. -/
theorem dvd_of_zone? {chars rest : List Char} {ahead : Int}
    (h : zone? chars = some (ahead, rest)) : 60 ∣ ahead := by
  have hoffset : ∀ {isAhead chars}, offset? isAhead chars = some (ahead, rest) → 60 ∣ ahead := by
    intro isAhead chars h
    unfold offset? at h
    split at h
    · split at h
      · dsimp only at h
        split at h
        · obtain ⟨rfl, -⟩ := Prod.mk.inj (Option.some.inj h)
          split <;> omega
        · cases h
      · cases h
    · cases h
  unfold zone? at h
  split at h
  · obtain ⟨rfl, -⟩ := Prod.mk.inj (Option.some.inj h)
    decide
  · split at h
    · obtain ⟨rfl, -⟩ := Prod.mk.inj (Option.some.inj h)
      decide
    · obtain ⟨rfl, -⟩ := Prod.mk.inj (Option.some.inj h)
      decide
    · exact hoffset h
    · exact hoffset h
    · exact hoffset h
    · cases h

theorem ofParts?_eq_some_iff {second : Int} {nano : Nat} {t : Instant} :
    ofParts? second nano = some t ↔ t.second = second ∧ t.nano = nano := by
  constructor
  · intro h
    rw [ofParts?] at h
    split at h
    · rw [← Option.some.inj h]
      exact ⟨rfl, rfl⟩
    · cases h
  · rintro ⟨rfl, rfl⟩
    exact ofParts?_eq_some t

theorem isCivil_of_parse? {source : String} {t : Instant} (h : parse? source = some t) :
    t.IsCivil := by
  rw [parse?] at h
  -- The date and the hour do not matter.
  iterate 5 obtain ⟨_, -, h⟩ := Option.bind_eq_some_iff.mp h
  dsimp only at h
  split at h
  case h_2 => cases h
  split at h
  case isFalse => cases h
  iterate 5 obtain ⟨_, -, h⟩ := Option.bind_eq_some_iff.mp h
  obtain ⟨⟨second, _⟩, -, h⟩ := Option.bind_eq_some_iff.mp h
  obtain ⟨⟨nano, _⟩, hfraction, h⟩ := Option.bind_eq_some_iff.mp h
  obtain ⟨⟨ahead, _⟩, hzone, h⟩ := Option.bind_eq_some_iff.mp h
  have hnano := lt_of_fraction? hfraction
  obtain ⟨minutes, rfl⟩ := dvd_of_zone? hzone
  dsimp only at h
  split at h
  · split at h
    · obtain ⟨hsecond, -⟩ := ofParts?_eq_some_iff.mp h
      intro _
      omega
    · obtain ⟨-, hsame⟩ := ofParts?_eq_some_iff.mp h
      intro hleap
      have hle : 1000000000 ≤ t.nano := of_decide_eq_true hleap
      omega
  · cases h

/-- **The instants that texts write are those that a clock can show.** -/
theorem exists_parse?_eq_some_iff {t : Instant} :
    (∃ source, parse? source = some t) ↔ t.IsCivil := by
  constructor
  · rintro ⟨source, h⟩
    exact isCivil_of_parse? h
  · intro hcivil
    exact ⟨_, parse?_text_of_isCivil hcivil⟩

end Instant

namespace Timestamp

/-- The timestamp with the wall time that a clock shows. -/
def civil (t : Timestamp) : Timestamp :=
  { t with wall := t.wall.civil }

theorem civil_eq_self_iff {t : Timestamp} : t.civil = t ↔ t.wall.IsCivil := by
  rw [← Instant.civil_eq_self_iff]
  constructor
  · exact congrArg wall
  · intro h
    rw [civil, h]

@[simp] theorem civil_civil (t : Timestamp) : t.civil.civil = t.civil :=
  civil_eq_self_iff.mpr t.wall.isCivil_civil

end Timestamp

end AccessControl
