import AccessControl.Encoding.Base64
import Mathlib.Algebra.Group.Nat.Defs
import Mathlib.Tactic.SplitIfs

/-!
# Base64 is read back

The bytes of the text of a byte string are this byte string, in both forms (`decode?_encode`). The
proof follows the groups of three bytes: each of the three readers of a group takes back what the
writer of the group makes of its bytes.

The other way round, a reader takes nothing that the writer does not make, so every byte string has
one text (`decodeChars?_eq_some_iff`). Each reader of a group is shown to have read the digits of
the bytes that it returns.

Which texts these are can be told from their characters. Without padding it is the alphabet, the
length and the unused bits of the last digit that decide (`isCanonical_iff`).
-/

namespace AccessControl.Base64

variable {form : Base64}

theorem digitValue?_digit {n : Nat} (h : n < 64) : form.digitValue? (form.digit n) = some n := by
  have hall : ∀ n : Fin 64, standard.digitValue? (standard.digit n) = some n.val ∧
      urlUnpadded.digitValue? (urlUnpadded.digit n) = some n.val := by decide
  cases form with
  | standard => exact (hall ⟨n, h⟩).1
  | urlUnpadded => exact (hall ⟨n, h⟩).2

/-- The padding character is no digit. -/
theorem digit_ne_pad {n : Nat} (h : n < 64) : (form.digit n == '=') = false := by
  have hall : ∀ n : Fin 64, (standard.digit n == '=') = false ∧
      (urlUnpadded.digit n == '=') = false := by decide
  cases form with
  | standard => exact (hall ⟨n, h⟩).1
  | urlUnpadded => exact (hall ⟨n, h⟩).2

/-! ### Groups -/

theorem ofNat_eq {a : UInt8} {n : Nat} (h : n = a.toNat) : UInt8.ofNat n = a := by
  rw [h, UInt8.ofNat_toNat]

theorem decodeOne?_digits (a : UInt8) :
    form.decodeOne? (form.digit (a.toNat / 4)) (form.digit (a.toNat % 4 * 16)) = some [a] := by
  have ha := a.toNat_lt
  have hbyte : UInt8.ofNat (a.toNat / 4 * 4 + a.toNat % 4 * 16 / 16) = a := ofNat_eq (by omega)
  rw [decodeOne?, digitValue?_digit (by omega), digitValue?_digit (by omega)]
  simp only [Option.bind_eq_bind, Option.bind_some]
  rw [if_pos (by omega), hbyte]

theorem decodeTwo?_digits (a b : UInt8) :
    form.decodeTwo? (form.digit (a.toNat / 4)) (form.digit (a.toNat % 4 * 16 + b.toNat / 16))
      (form.digit (b.toNat % 16 * 4)) = some [a, b] := by
  have ha := a.toNat_lt
  have hb := b.toNat_lt
  have hfirst : UInt8.ofNat (a.toNat / 4 * 4 + (a.toNat % 4 * 16 + b.toNat / 16) / 16) = a :=
    ofNat_eq (by omega)
  have hsecond :
      UInt8.ofNat ((a.toNat % 4 * 16 + b.toNat / 16) % 16 * 16 + b.toNat % 16 * 4 / 4) = b :=
    ofNat_eq (by omega)
  rw [decodeTwo?, digitValue?_digit (by omega), digitValue?_digit (by omega),
    digitValue?_digit (by omega)]
  simp only [Option.bind_eq_bind, Option.bind_some]
  rw [if_pos (by omega), hfirst, hsecond]

theorem decodeThree?_digits (a b c : UInt8) :
    form.decodeThree? (form.digit (a.toNat / 4)) (form.digit (a.toNat % 4 * 16 + b.toNat / 16))
      (form.digit (b.toNat % 16 * 4 + c.toNat / 64)) (form.digit (c.toNat % 64)) =
      some [a, b, c] := by
  have ha := a.toNat_lt
  have hb := b.toNat_lt
  have hc := c.toNat_lt
  have hfirst : UInt8.ofNat (a.toNat / 4 * 4 + (a.toNat % 4 * 16 + b.toNat / 16) / 16) = a :=
    ofNat_eq (by omega)
  have hsecond : UInt8.ofNat ((a.toNat % 4 * 16 + b.toNat / 16) % 16 * 16 +
      (b.toNat % 16 * 4 + c.toNat / 64) / 4) = b := ofNat_eq (by omega)
  have hthird : UInt8.ofNat ((b.toNat % 16 * 4 + c.toNat / 64) % 4 * 64 + c.toNat % 64) = c :=
    ofNat_eq (by omega)
  rw [decodeThree?, digitValue?_digit (by omega), digitValue?_digit (by omega),
    digitValue?_digit (by omega), digitValue?_digit (by omega)]
  simp only [Option.bind_eq_bind, Option.bind_some]
  rw [hfirst, hsecond, hthird]

/-! ### Texts -/

theorem encodeChars_ne_nil {bytes : Bytes} (h : bytes ≠ []) : form.encodeChars bytes ≠ [] := by
  unfold encodeChars
  split
  · exact absurd rfl h
  all_goals exact List.cons_ne_nil _ _

theorem decodeChars?_encodeChars (bytes : Bytes) :
    form.decodeChars? (form.encodeChars bytes) = some bytes := by
  induction bytes using encodeChars.induct with
  | case1 => rfl
  | case2 a =>
    cases form with
    | standard => exact decodeOne?_digits a
    | urlUnpadded => exact decodeOne?_digits a
  | case3 a b =>
    cases form with
    | standard =>
      -- The third digit shows that only one character is padding.
      have hpad : (standard.digit (b.toNat % 16 * 4) == '=') = false := digit_ne_pad (by omega)
      change (if standard.digit (b.toNat % 16 * 4) == '=' then _ else _) = _
      rw [hpad, if_neg Bool.false_ne_true]
      exact decodeTwo?_digits a b
    | urlUnpadded => exact decodeTwo?_digits a b
  | case4 a b c rest ih =>
    rw [encodeChars]
    cases hrest : form.encodeChars rest with
    | nil =>
      have hnil : rest = [] := Decidable.byContradiction fun h => encodeChars_ne_nil h hrest
      rw [hnil, decodeChars?, digit_ne_pad (Nat.mod_lt _ (by decide)), Bool.and_false,
        if_neg Bool.false_ne_true]
      exact decodeThree?_digits a b c
    | cons first others =>
      rw [hrest] at ih
      rw [decodeChars?, decodeThree?_digits, ih]
      · rfl
      · exact List.cons_ne_nil _ _

/-- **The text of a byte string writes this byte string.** -/
theorem decode?_encode (bytes : Bytes) : form.decode? (form.encode bytes) = some bytes := by
  rw [decode?, encode, String.toList_ofList, decodeChars?_encodeChars]

/-! ### Nothing else is read -/

variable {c w x y z : Char} {chars : List Char} {bytes : Bytes} {n : Nat}

/-- A character is the digit that it stands for. -/
theorem digit_of_digitValue? (h : form.digitValue? c = some n) : n < 64 ∧ form.digit n = c := by
  have hchar : ∀ m, m = c.toNat → Char.ofNat m = c := by
    rintro m rfl
    exact c.ofNat_toNat
  unfold digitValue? at h
  simp only at h
  split_ifs at h with hupper hlower hnumeral hplus hslash
  · cases h
    refine ⟨by omega, ?_⟩
    rw [digit, if_pos (by omega)]
    exact hchar _ (by omega)
  · cases h
    refine ⟨by omega, ?_⟩
    rw [digit, if_neg (by omega), if_pos (by omega)]
    exact hchar _ (by omega)
  · cases h
    refine ⟨by omega, ?_⟩
    rw [digit, if_neg (by omega), if_neg (by omega), if_pos (by omega)]
    exact hchar _ (by omega)
  · cases h
    exact ⟨by decide, hplus.symm⟩
  · cases h
    exact ⟨by decide, hslash.symm⟩

theorem toNat_ofNat_byte (h : n < 256) : (UInt8.ofNat n).toNat = n := by
  rw [UInt8.toNat_ofNat', Nat.mod_eq_of_lt h]

theorem exists_of_decodeOne?_eq_some (h : form.decodeOne? w x = some bytes) :
    ∃ a, bytes = [a] ∧ w = form.digit (a.toNat / 4) ∧ x = form.digit (a.toNat % 4 * 16) := by
  simp only [decodeOne?, Option.bind_eq_bind, Option.bind_eq_some_iff] at h
  obtain ⟨m, hm, n, hn, h⟩ := h
  obtain ⟨hm, rfl⟩ := digit_of_digitValue? hm
  obtain ⟨hn, rfl⟩ := digit_of_digitValue? hn
  split_ifs at h with hunused
  cases h
  refine ⟨_, rfl, ?_, ?_⟩
  · rw [toNat_ofNat_byte (by omega), show (m * 4 + n / 16) / 4 = m by omega]
  · rw [toNat_ofNat_byte (by omega), show (m * 4 + n / 16) % 4 * 16 = n by omega]

theorem exists_of_decodeTwo?_eq_some (h : form.decodeTwo? w x y = some bytes) :
    ∃ a b, bytes = [a, b] ∧ w = form.digit (a.toNat / 4) ∧
      x = form.digit (a.toNat % 4 * 16 + b.toNat / 16) ∧ y = form.digit (b.toNat % 16 * 4) := by
  simp only [decodeTwo?, Option.bind_eq_bind, Option.bind_eq_some_iff] at h
  obtain ⟨l, hl, m, hm, n, hn, h⟩ := h
  obtain ⟨hl, rfl⟩ := digit_of_digitValue? hl
  obtain ⟨hm, rfl⟩ := digit_of_digitValue? hm
  obtain ⟨hn, rfl⟩ := digit_of_digitValue? hn
  split_ifs at h with hunused
  cases h
  refine ⟨_, _, rfl, ?_, ?_, ?_⟩
  · rw [toNat_ofNat_byte (by omega), show (l * 4 + m / 16) / 4 = l by omega]
  · rw [toNat_ofNat_byte (by omega), toNat_ofNat_byte (by omega),
      show (l * 4 + m / 16) % 4 * 16 + (m % 16 * 16 + n / 4) / 16 = m by omega]
  · rw [toNat_ofNat_byte (by omega), show (m % 16 * 16 + n / 4) % 16 * 4 = n by omega]

theorem exists_of_decodeThree?_eq_some (h : form.decodeThree? w x y z = some bytes) :
    ∃ a b c, bytes = [a, b, c] ∧ w = form.digit (a.toNat / 4) ∧
      x = form.digit (a.toNat % 4 * 16 + b.toNat / 16) ∧
      y = form.digit (b.toNat % 16 * 4 + c.toNat / 64) ∧ z = form.digit (c.toNat % 64) := by
  simp only [decodeThree?, Option.bind_eq_bind, Option.bind_eq_some_iff] at h
  obtain ⟨k, hk, l, hl, m, hm, n, hn, h⟩ := h
  obtain ⟨hk, rfl⟩ := digit_of_digitValue? hk
  obtain ⟨hl, rfl⟩ := digit_of_digitValue? hl
  obtain ⟨hm, rfl⟩ := digit_of_digitValue? hm
  obtain ⟨hn, rfl⟩ := digit_of_digitValue? hn
  cases h
  refine ⟨_, _, _, rfl, ?_, ?_, ?_, ?_⟩
  · rw [toNat_ofNat_byte (by omega), show (k * 4 + l / 16) / 4 = k by omega]
  · rw [toNat_ofNat_byte (by omega), toNat_ofNat_byte (by omega),
      show (k * 4 + l / 16) % 4 * 16 + (l % 16 * 16 + m / 4) / 16 = l by omega]
  · rw [toNat_ofNat_byte (by omega), toNat_ofNat_byte (by omega),
      show (l % 16 * 16 + m / 4) % 16 * 4 + (m % 4 * 64 + n) / 64 = m by omega]
  · rw [toNat_ofNat_byte (by omega), show (m % 4 * 64 + n) % 64 = n by omega]

/-- What is read is what the writer makes of the bytes. -/
theorem encodeChars_of_decodeChars?_eq_some (h : form.decodeChars? chars = some bytes) :
    form.encodeChars bytes = chars := by
  induction chars using decodeChars?.induct form generalizing bytes with
  | case1 =>
    cases h
    rfl
  | case2 w x hpadded =>
    rw [decodeChars?, if_pos hpadded] at h
    cases h
  | case3 w x hpadded =>
    rw [decodeChars?, if_neg hpadded] at h
    obtain ⟨a, rfl, rfl, rfl⟩ := exists_of_decodeOne?_eq_some h
    rw [encodeChars, padding, if_neg hpadded]
  | case4 w x y hpadded =>
    rw [decodeChars?, if_pos hpadded] at h
    cases h
  | case5 w x y hpadded =>
    rw [decodeChars?, if_neg hpadded] at h
    obtain ⟨a, b, rfl, rfl, rfl, rfl⟩ := exists_of_decodeTwo?_eq_some h
    rw [encodeChars, padding, if_neg hpadded]
  | case6 w x y z hlast hpad =>
    rw [decodeChars?, if_pos hlast, if_pos hpad] at h
    obtain ⟨a, rfl, rfl, rfl⟩ := exists_of_decodeOne?_eq_some h
    rw [Bool.and_eq_true, beq_iff_eq] at hlast
    obtain rfl := eq_of_beq hpad
    rw [encodeChars, padding, if_pos hlast.1, hlast.2]
    rfl
  | case7 w x y z hlast hpad =>
    rw [decodeChars?, if_pos hlast, if_neg hpad] at h
    obtain ⟨a, b, rfl, rfl, rfl, rfl⟩ := exists_of_decodeTwo?_eq_some h
    rw [Bool.and_eq_true, beq_iff_eq] at hlast
    rw [encodeChars, padding, if_pos hlast.1, hlast.2]
    rfl
  | case8 w x y z hlast =>
    rw [decodeChars?, if_neg hlast] at h
    obtain ⟨a, b, c, rfl, rfl, rfl, rfl, rfl⟩ := exists_of_decodeThree?_eq_some h
    rw [encodeChars, encodeChars]
  | case9 w x y z rest hrest ih =>
    rw [decodeChars?] at h
    · simp only [Option.bind_eq_bind, Option.bind_eq_some_iff] at h
      obtain ⟨front, hfront, others, hothers, h⟩ := h
      cases h
      obtain ⟨a, b, c, rfl, rfl, rfl, rfl, rfl⟩ := exists_of_decodeThree?_eq_some hfront
      rw [← ih hothers]
      rfl
    · exact hrest
  | case10 c =>
    rw [decodeChars?] at h
    cases h

/-- **A text writes a byte string exactly if it is the text of the byte string.** -/
theorem decodeChars?_eq_some_iff :
    form.decodeChars? chars = some bytes ↔ chars = form.encodeChars bytes :=
  ⟨fun h => (encodeChars_of_decodeChars?_eq_some h).symm, fun h => h ▸ decodeChars?_encodeChars _⟩

/-! ### Texts without padding -/

/-- A text without padding, described by its characters: they are digits, no digit is left over by
itself, and of the last digit the bits beyond whole octets are zero. -/
structure IsCanonical (form : Base64) (chars : List Char) : Prop where
  isDigit : ∀ c ∈ chars, (form.digitValue? c).isSome
  length_ne : chars.length % 4 ≠ 1
  unused : ∀ c ∈ chars.getLast?, ∀ n ∈ form.digitValue? c, n % 2 ^ (6 * chars.length % 8) = 0

theorem isCanonical_nil : IsCanonical form [] := by
  constructor <;> simp

/-- A whole group has no bits beyond its octets. -/
theorem isCanonical_group_iff {rest : List Char} :
    IsCanonical form (w :: x :: y :: z :: rest) ↔
      (∀ c ∈ [w, x, y, z], (form.digitValue? c).isSome) ∧ IsCanonical form rest := by
  have hlength : (w :: x :: y :: z :: rest).length = rest.length + 4 := rfl
  have hbits : 6 * (w :: x :: y :: z :: rest).length % 8 = 6 * rest.length % 8 := by
    rw [hlength]
    omega
  have hdigits : (∀ c ∈ w :: x :: y :: z :: rest, (form.digitValue? c).isSome) ↔
      (∀ c ∈ [w, x, y, z], (form.digitValue? c).isSome) ∧
        ∀ c ∈ rest, (form.digitValue? c).isSome :=
    @List.forall_mem_append _ _ [w, x, y, z] _
  have hunused : (∀ c ∈ (w :: x :: y :: z :: rest).getLast?, ∀ n ∈ form.digitValue? c,
        n % 2 ^ (6 * rest.length % 8) = 0) ↔
      ∀ c ∈ rest.getLast?, ∀ n ∈ form.digitValue? c, n % 2 ^ (6 * rest.length % 8) = 0 := by
    cases rest with
    | nil => simp [Nat.mod_one]
    | cons first others => simp only [List.getLast?_cons_cons]
  constructor
  · rintro ⟨hall, hne, hzero⟩
    rw [hlength, Nat.add_mod_right] at hne
    rw [hbits, hunused] at hzero
    exact ⟨(hdigits.mp hall).1, (hdigits.mp hall).2, hne, hzero⟩
  · rintro ⟨hgroup, hall, hne, hzero⟩
    refine ⟨hdigits.mpr ⟨hgroup, hall⟩, ?_, ?_⟩
    · rwa [hlength, Nat.add_mod_right]
    · rwa [hbits, hunused]

theorem isCanonical_two_iff :
    IsCanonical form [w, x] ↔
      ∃ m n, form.digitValue? w = some m ∧ form.digitValue? x = some n ∧ n % 16 = 0 := by
  constructor
  · rintro ⟨hdigits, -, hunused⟩
    obtain ⟨m, hm⟩ := Option.isSome_iff_exists.mp (hdigits w (by simp))
    obtain ⟨n, hn⟩ := Option.isSome_iff_exists.mp (hdigits x (by simp))
    exact ⟨m, n, hm, hn, by simpa using hunused x (by simp) n hn⟩
  · rintro ⟨m, n, hm, hn, hzero⟩
    constructor <;> simp [hm, hn, hzero]

theorem isCanonical_three_iff :
    IsCanonical form [w, x, y] ↔
      ∃ l m n, form.digitValue? w = some l ∧ form.digitValue? x = some m ∧
        form.digitValue? y = some n ∧ n % 4 = 0 := by
  constructor
  · rintro ⟨hdigits, -, hunused⟩
    obtain ⟨l, hl⟩ := Option.isSome_iff_exists.mp (hdigits w (by simp))
    obtain ⟨m, hm⟩ := Option.isSome_iff_exists.mp (hdigits x (by simp))
    obtain ⟨n, hn⟩ := Option.isSome_iff_exists.mp (hdigits y (by simp))
    exact ⟨l, m, n, hl, hm, hn, by simpa using hunused y (by simp) n hn⟩
  · rintro ⟨l, m, n, hl, hm, hn, hzero⟩
    constructor <;> simp [hl, hm, hn, hzero]

theorem exists_decodeThree? (h : ∀ c ∈ [w, x, y, z], (form.digitValue? c).isSome) :
    ∃ bytes, form.decodeThree? w x y z = some bytes := by
  obtain ⟨k, hk⟩ := Option.isSome_iff_exists.mp (h w (by simp))
  obtain ⟨l, hl⟩ := Option.isSome_iff_exists.mp (h x (by simp))
  obtain ⟨m, hm⟩ := Option.isSome_iff_exists.mp (h y (by simp))
  obtain ⟨n, hn⟩ := Option.isSome_iff_exists.mp (h z (by simp))
  exact ⟨_, by rw [decodeThree?, hk, hl, hm, hn]; rfl⟩

theorem IsCanonical.exists_decodeChars? (h : IsCanonical urlUnpadded chars) :
    ∃ bytes, urlUnpadded.decodeChars? chars = some bytes := by
  induction chars using decodeChars?.induct urlUnpadded with
  | case1 => exact ⟨[], rfl⟩
  | case2 w x hpadded => cases hpadded
  | case3 w x hpadded =>
    obtain ⟨m, n, hm, hn, hzero⟩ := isCanonical_two_iff.mp h
    rw [decodeChars?, if_neg hpadded, decodeOne?, hm, hn]
    exact ⟨_, if_pos hzero⟩
  | case4 w x y hpadded => cases hpadded
  | case5 w x y hpadded =>
    obtain ⟨l, m, n, hl, hm, hn, hzero⟩ := isCanonical_three_iff.mp h
    rw [decodeChars?, if_neg hpadded, decodeTwo?, hl, hm, hn]
    exact ⟨_, if_pos hzero⟩
  | case6 w x y z hlast => cases hlast
  | case7 w x y z hlast => cases hlast
  | case8 w x y z hlast =>
    rw [decodeChars?, if_neg hlast]
    exact exists_decodeThree? (isCanonical_group_iff.mp h).1
  | case9 w x y z rest hrest ih =>
    obtain ⟨hgroup, hcanonical⟩ := isCanonical_group_iff.mp h
    obtain ⟨front, hfront⟩ := exists_decodeThree? hgroup
    obtain ⟨others, hothers⟩ := ih hcanonical
    rw [decodeChars?, hfront, hothers]
    · exact ⟨_, rfl⟩
    · exact hrest
  | case10 c => exact absurd rfl h.length_ne

theorem isCanonical_encodeChars (bytes : Bytes) :
    IsCanonical urlUnpadded (urlUnpadded.encodeChars bytes) := by
  induction bytes using encodeChars.induct with
  | case1 => exact isCanonical_nil
  | case2 a =>
    have ha := a.toNat_lt
    exact isCanonical_two_iff.mpr
      ⟨_, _, digitValue?_digit (by omega), digitValue?_digit (by omega), by omega⟩
  | case3 a b =>
    have ha := a.toNat_lt
    have hb := b.toNat_lt
    exact isCanonical_three_iff.mpr ⟨_, _, _, digitValue?_digit (by omega),
      digitValue?_digit (by omega), digitValue?_digit (by omega), by omega⟩
  | case4 a b c rest ih =>
    have ha := a.toNat_lt
    have hb := b.toNat_lt
    have hc := c.toNat_lt
    rw [encodeChars, isCanonical_group_iff]
    refine ⟨?_, ih⟩
    have hgroup : ∀ n < 64, (urlUnpadded.digitValue? (urlUnpadded.digit n)).isSome := by
      intro n hn
      rw [digitValue?_digit hn]
      rfl
    simp only [List.forall_mem_cons]
    exact ⟨hgroup _ (by omega), hgroup _ (by omega), hgroup _ (by omega), hgroup _ (by omega),
      List.forall_mem_nil _⟩

/-- **A text writes a byte string exactly if it is canonical.** -/
theorem isCanonical_iff :
    IsCanonical urlUnpadded chars ↔ ∃ bytes, chars = urlUnpadded.encodeChars bytes := by
  constructor
  · intro h
    obtain ⟨bytes, hbytes⟩ := h.exists_decodeChars?
    exact ⟨bytes, decodeChars?_eq_some_iff.mp hbytes⟩
  · rintro ⟨bytes, rfl⟩
    exact isCanonical_encodeChars bytes

end AccessControl.Base64
