import AccessControl.Encoding.Bech32
import AccessControl.Proofs.Encoding.Regroup

/-!
# The checksum of Bech32

The remainder is linear: the remainder of a sum of digits, in the sense of exclusive or, is the sum
of the remainders (`foldl_step_xor`). Six digits that follow others are therefore added, as one
number of 30 bits, to what six zeros in their place would leave. Of all sequences of six digits
exactly one brings the remainder to a given word, and the checksum is the one that brings it to one:
`remainder_append_eq_one_iff`.

Each digit also permutes the words of 30 bits, since the five bits that it shifts out are told by
the last five bits of what is added for them (`step_left_inj`). So what a wrong digit does to the
remainder is not undone by the digits after it: `remainder_append_cons_inj`.
-/

namespace AccessControl.Bech32

/-! ### Linearity -/

theorem and_xor_distrib (u v mask : UInt32) :
    (u ^^^ v) &&& mask = (u &&& mask) ^^^ (v &&& mask) := by
  apply UInt32.toNat_inj.mp
  rw [UInt32.toNat_and, UInt32.toNat_xor, UInt32.toNat_xor, UInt32.toNat_and, UInt32.toNat_and,
    Nat.and_xor_distrib_right]

theorem and_one_eq_one_iff (u : UInt32) : u &&& 1 = 1 ↔ u.toNat % 2 = 1 := by
  rw [← UInt32.toNat_inj, UInt32.toNat_and, UInt32.toNat_one, Nat.and_one_is_mod]

theorem xor_cancel (u v w : UInt32) : (u ^^^ w) ^^^ (v ^^^ w) = u ^^^ v := by
  have hpair : (u ^^^ w) ^^^ (v ^^^ w) = (u ^^^ v) ^^^ (w ^^^ w) := by ac_rfl
  rw [hpair, UInt32.xor_self, UInt32.xor_zero]

/-- Adds a multiple of the generator polynomial if a bit of `top` calls for it. -/
def addMultiple (top word : UInt32) (entry : Nat × UInt32) : UInt32 :=
  if (top >>> UInt32.ofNat entry.1) &&& 1 = 1 then word ^^^ entry.2 else word

theorem reduction_eq_foldl (top : UInt32) :
    reduction top = ((List.range 5).zip generator).foldl (addMultiple top) 0 := rfl

theorem addMultiple_xor (u v word word' : UInt32) (entry : Nat × UInt32) :
    addMultiple (u ^^^ v) (word ^^^ word') entry =
      addMultiple u word entry ^^^ addMultiple v word' entry := by
  obtain ⟨i, multiple⟩ := entry
  simp only [addMultiple, UInt32.shiftRight_xor, and_one_eq_one_iff, UInt32.toNat_xor,
    Nat.xor_mod_two_eq_one]
  -- Where both bits are set, the multiple is added twice and cancels.
  by_cases hu : (u >>> UInt32.ofNat i).toNat % 2 = 1 <;>
    by_cases hv : (v >>> UInt32.ofNat i).toNat % 2 = 1
  · simp only [hu, hv, iff_self, not_true_eq_false, if_true, if_false]
    exact (xor_cancel word word' multiple).symm
  · simp only [hu, hv, not_false_eq_true, if_true, if_false, iff_false, not_true_eq_false]
    ac_rfl
  · simp only [hu, hv, not_false_eq_true, if_true, if_false, iff_true]
    ac_rfl
  · simp only [hu, hv, iff_self, not_true_eq_false, if_false]

theorem reduction_xor (u v : UInt32) : reduction (u ^^^ v) = reduction u ^^^ reduction v := by
  have hfoldl : ∀ (entries : List (Nat × UInt32)) (word word' : UInt32),
      entries.foldl (addMultiple (u ^^^ v)) (word ^^^ word') =
        entries.foldl (addMultiple u) word ^^^ entries.foldl (addMultiple v) word' := by
    intro entries
    induction entries with
    | nil => exact fun _ _ => rfl
    | cons entry entries ih =>
      intro word word'
      rw [List.foldl_cons, addMultiple_xor, ih, List.foldl_cons, List.foldl_cons]
  rw [reduction_eq_foldl, reduction_eq_foldl, reduction_eq_foldl]
  exact hfoldl _ 0 0

theorem step_xor (u v : UInt32) (a b : UInt8) :
    step (u ^^^ v) (a ^^^ b) = step u a ^^^ step v b := by
  simp only [step, and_xor_distrib, UInt32.shiftLeft_xor, UInt32.shiftRight_xor, reduction_xor,
    UInt8.toUInt32_xor]
  ac_rfl

/-- The remainder of a sum is the sum of the remainders. -/
theorem foldl_step_xor {first second : List UInt8} (h : first.length = second.length)
    (u v : UInt32) :
    (List.zipWith (· ^^^ ·) first second).foldl step (u ^^^ v) =
      first.foldl step u ^^^ second.foldl step v := by
  induction first generalizing second u v with
  | nil =>
    cases second with
    | nil => rfl
    | cons _ _ => cases h
  | cons a first ih =>
    cases second with
    | nil => cases h
    | cons b second =>
      rw [List.zipWith_cons_cons, List.foldl_cons, step_xor, ih (Nat.succ.inj h),
        List.foldl_cons, List.foldl_cons]

/-- What digits add to the remainder that zeros in their place would leave. -/
theorem foldl_step_eq (word : UInt32) (digits : List UInt8) :
    digits.foldl step word =
      (List.replicate digits.length 0).foldl step word ^^^ digits.foldl step 0 := by
  have hzip : List.zipWith (· ^^^ ·) (List.replicate digits.length 0) digits = digits := by
    induction digits with
    | nil => rfl
    | cons digit digits ih =>
      rw [List.length_cons, List.replicate_succ, List.zipWith_cons_cons, ih, UInt8.zero_xor]
  have hlength : (List.replicate digits.length (0 : UInt8)).length = digits.length := by simp
  have hlinear := foldl_step_xor hlength word 0
  rwa [hzip, UInt32.xor_zero] at hlinear

/-! ### Sizes -/

theorem reduction_lt (top : UInt32) : (reduction top).toNat < 2 ^ 30 := by
  have hfoldl : ∀ (entries : List (Nat × UInt32)) (word : UInt32),
      (∀ entry ∈ entries, entry.2.toNat < 2 ^ 30) → word.toNat < 2 ^ 30 →
      (entries.foldl (addMultiple top) word).toNat < 2 ^ 30 := by
    intro entries
    induction entries with
    | nil => exact fun _ _ hword => hword
    | cons entry entries ih =>
      intro word hentries hword
      rw [List.forall_mem_cons] at hentries
      apply ih _ hentries.2
      unfold addMultiple
      split
      · rw [UInt32.toNat_xor]
        exact Nat.xor_lt_two_pow hword hentries.1
      · exact hword
  rw [reduction_eq_foldl]
  exact hfoldl _ 0 (by decide) (by decide)

theorem toNat_and_mask (word : UInt32) : (word &&& 0x01ffffff).toNat = word.toNat % 2 ^ 25 := by
  rw [UInt32.toNat_and]
  exact Nat.and_two_pow_sub_one_eq_mod _ 25

theorem toNat_shiftLeft_mask (word : UInt32) :
    ((word &&& 0x01ffffff) <<< 5).toNat = word.toNat % 2 ^ 25 * 2 ^ 5 := by
  have hlt : word.toNat % 2 ^ 25 < 2 ^ 25 := Nat.mod_lt _ (by decide)
  rw [UInt32.toNat_shiftLeft, toNat_and_mask]
  simp only [UInt32.reduceToNat, Nat.reduceMod, Nat.shiftLeft_eq]
  omega

/-- A remainder has 30 bits. -/
theorem step_lt (word : UInt32) (digit : UInt8) : (step word digit).toNat < 2 ^ 30 := by
  have hword : ((word &&& 0x01ffffff) <<< 5).toNat < 2 ^ 30 := by
    rw [toNat_shiftLeft_mask]
    omega
  have hdigit : digit.toUInt32.toNat < 2 ^ 30 := by
    have := digit.toNat_lt
    rw [UInt8.toNat_toUInt32]
    omega
  rw [step, UInt32.toNat_xor, UInt32.toNat_xor]
  exact Nat.xor_lt_two_pow (Nat.xor_lt_two_pow hword hdigit) (reduction_lt _)

theorem remainder_lt (digits : List UInt8) : (remainder digits).toNat < 2 ^ 30 := by
  induction digits using List.reverseRecOn with
  | nil => decide
  | append_singleton front last =>
    rw [remainder, List.foldl_append]
    exact step_lt _ last

/-- As long as no bit is shifted out, a digit is appended. -/
theorem toNat_step_of_lt {word : UInt32} {digit : UInt8} (hword : word.toNat < 2 ^ 25)
    (hdigit : digit.toNat < 2 ^ 5) :
    (step word digit).toNat = word.toNat * 2 ^ 5 + digit.toNat := by
  have htop : word >>> 25 = 0 := by
    apply UInt32.toNat_inj.mp
    rw [UInt32.toNat_shiftRight]
    simp only [UInt32.reduceToNat, Nat.reduceMod, Nat.shiftRight_eq_div_pow]
    omega
  have hreduction : reduction 0 = 0 := by decide
  rw [step, htop, hreduction, UInt32.xor_zero, UInt32.toNat_xor, toNat_shiftLeft_mask,
    UInt8.toNat_toUInt32, Nat.mod_eq_of_lt hword, ← Nat.div_add_mod (_ ^^^ _) (2 ^ 5),
    Nat.xor_div_two_pow, Nat.xor_mod_two_pow, Nat.mul_div_cancel _ (by decide),
    Nat.mul_mod_left, Nat.div_eq_of_lt hdigit, Nat.mod_eq_of_lt hdigit, Nat.xor_zero,
    Nat.zero_xor, Nat.mul_comm]

/-- Up to six digits that stand alone are kept as a number. -/
theorem toNat_foldl_step_zero {digits : List UInt8} (hdigits : Regroup.Fit 5 digits)
    (hlength : digits.length ≤ 6) : (digits.foldl step 0).toNat = Regroup.number 5 digits := by
  induction digits using List.reverseRecOn with
  | nil => rfl
  | append_singleton front last ih =>
    rw [Regroup.fit_append_iff, Regroup.fit_cons_iff] at hdigits
    rw [List.length_append, List.length_singleton] at hlength
    have hfront := ih hdigits.1 (by omega)
    have hlt : Regroup.number 5 front < 2 ^ 25 :=
      (Regroup.number_lt (by decide) hdigits.1).trans_le
        (Nat.pow_le_pow_right (by decide) (by omega))
    rw [List.foldl_append, List.foldl_cons, List.foldl_nil,
      toNat_step_of_lt (by rwa [hfront]) hdigits.2.1, hfront, Regroup.number_append,
      Regroup.number_singleton, List.length_singleton, Nat.mul_one]

/-! ### Digits that differ -/

/-- The last five bits of what is added for bits that are shifted out tell that there were some. -/
theorem eq_zero_of_reduction_mod {top : UInt32} (htop : top.toNat < 2 ^ 5)
    (h : (reduction top).toNat % 2 ^ 5 = 0) : top = 0 := by
  have hall : ∀ n : Fin 32, (reduction (UInt32.ofNat n)).toNat % 2 ^ 5 = 0 →
      UInt32.ofNat n = 0 := by decide
  have hofNat : UInt32.ofNat top.toNat = top := UInt32.ofNat_toNat
  have hzero := hall ⟨top.toNat, htop⟩
  rw [hofNat] at hzero
  exact hzero h

/-- A digit of zero leaves nothing of a remainder only if nothing was there. -/
theorem eq_zero_of_step_eq_zero {word : UInt32} (hword : word.toNat < 2 ^ 30)
    (h : step word 0 = 0) : word = 0 := by
  have htop : (word >>> 25).toNat = word.toNat / 2 ^ 25 := by
    rw [UInt32.toNat_shiftRight]
    simp only [UInt32.reduceToNat, Nat.reduceMod, Nat.shiftRight_eq_div_pow]
  have hreduction : reduction (word >>> 25) = (word &&& 0x01ffffff) <<< 5 := by
    have hzero : (0 : UInt8).toUInt32 = 0 := rfl
    rwa [step, hzero, UInt32.xor_zero, UInt32.xor_eq_zero_iff, eq_comm] at h
  have hnone : word >>> 25 = 0 := by
    apply eq_zero_of_reduction_mod
    · rw [htop]
      omega
    · rw [hreduction, toNat_shiftLeft_mask, Nat.mul_mod_left]
  rw [hnone, show reduction 0 = 0 by decide] at hreduction
  have hlow := congrArg UInt32.toNat hreduction
  have hhigh := congrArg UInt32.toNat hnone
  rw [toNat_shiftLeft_mask, UInt32.toNat_zero] at hlow
  rw [htop, UInt32.toNat_zero] at hhigh
  apply UInt32.toNat_inj.mp
  rw [UInt32.toNat_zero]
  omega

/-- Each digit turns different remainders into different ones. -/
theorem step_left_inj {u v : UInt32} (hu : u.toNat < 2 ^ 30) (hv : v.toNat < 2 ^ 30)
    {digit : UInt8} (h : step u digit = step v digit) : u = v := by
  have hsum : step (u ^^^ v) 0 = 0 := by
    rw [← UInt8.xor_self (a := digit), step_xor, h, UInt32.xor_self]
  apply UInt32.xor_eq_zero_iff.mp
  apply eq_zero_of_step_eq_zero _ hsum
  rw [UInt32.toNat_xor]
  exact Nat.xor_lt_two_pow hu hv

/-- Different digits turn a remainder into different ones. -/
theorem step_right_inj {word : UInt32} {a b : UInt8} (h : step word a = step word b) : a = b := by
  have hsum : (a ^^^ b).toUInt32 = step (word ^^^ word) (a ^^^ b) := by
    rw [UInt32.xor_self, step, show (0 : UInt32) >>> 25 = 0 by rfl,
      show reduction 0 = 0 by decide, show ((0 : UInt32) &&& 0x01ffffff) <<< 5 = 0 by rfl,
      UInt32.zero_xor, UInt32.xor_zero]
  rw [step_xor, h, UInt32.xor_self, UInt8.toUInt32_xor, UInt32.xor_eq_zero_iff] at hsum
  rwa [← UInt8.toNat_inj, ← UInt8.toNat_toUInt32 a, ← UInt8.toNat_toUInt32 b, UInt32.toNat_inj]

theorem foldl_step_inj {digits : List UInt8} {u v : UInt32} (hu : u.toNat < 2 ^ 30)
    (hv : v.toNat < 2 ^ 30) (h : digits.foldl step u = digits.foldl step v) : u = v := by
  induction digits generalizing u v with
  | nil => exact h
  | cons digit digits ih =>
    exact step_left_inj hu hv (ih (step_lt u digit) (step_lt v digit) h)

/-- **One digit in place of another changes the remainder**, whatever stands before and after. -/
theorem remainder_append_cons_inj {front back : List UInt8} {a b : UInt8}
    (h : remainder (front ++ a :: back) = remainder (front ++ b :: back)) : a = b := by
  rw [remainder, remainder, List.foldl_append, List.foldl_append, List.foldl_cons,
    List.foldl_cons] at h
  exact step_right_inj (foldl_step_inj (step_lt _ a) (step_lt _ b) h)

/-! ### The checksum -/

/-- The six digits of a word of 30 bits. -/
def spread (word : UInt32) : List UInt8 :=
  (List.range checksumLength).map fun i =>
    ((word >>> UInt32.ofNat (5 * (5 - i))) &&& 0x1f).toUInt8

theorem checksum_eq_spread (readable : String) (digits : List UInt8) :
    checksum readable digits =
      spread (remainder (expand readable ++ digits ++ List.replicate checksumLength 0) ^^^ 1) := rfl

@[simp] theorem length_spread (word : UInt32) : (spread word).length = checksumLength := by
  simp [spread]

theorem spread_eq_low (word : UInt32) :
    spread word =
      (List.range checksumLength).map fun i =>
        Regroup.low 5 (word >>> UInt32.ofNat (5 * (5 - i))) := by
  have hmask : (0x1f : UInt32) = (1 <<< UInt32.ofNat 5) - 1 := by decide
  simp only [spread, Regroup.low, hmask]

theorem fit_spread (word : UInt32) : Regroup.Fit 5 (spread word) := by
  intro digit hdigit
  rw [spread_eq_low] at hdigit
  obtain ⟨i, -, rfl⟩ := List.mem_map.mp hdigit
  rw [Regroup.toNat_low (by decide)]
  exact Nat.mod_lt _ (by decide)

theorem number_spread {word : UInt32} (h : word.toNat < 2 ^ 30) :
    Regroup.number 5 (spread word) = word.toNat := by
  have hdigit : ∀ i, (Regroup.low 5 (word >>> UInt32.ofNat (5 * (5 - i)))).toNat =
      word.toNat / 2 ^ (5 * (5 - i)) % 2 ^ 5 := by
    intro i
    rw [Regroup.toNat_low (by decide), Regroup.toNat_shiftRight (by omega)]
  rw [spread_eq_low, Regroup.number, List.map_map]
  simp only [Function.comp_def, hdigit, Radix.value, checksumLength, List.range, List.range.loop,
    List.map_cons, List.map_nil, List.foldl_cons, List.foldl_nil]
  omega

/-- **Of all sequences of six digits, the checksum alone brings the remainder to one.** -/
theorem remainder_append_eq_one_iff {readable : String} {digits check : List UInt8}
    (hlength : check.length = checksumLength) (hcheck : Regroup.Fit 5 check) :
    remainder (expand readable ++ (digits ++ check)) = 1 ↔ check = checksum readable digits := by
  let word := remainder (expand readable ++ digits ++ List.replicate checksumLength 0)
  have hsum : remainder (expand readable ++ (digits ++ check)) = word ^^^ check.foldl step 0 := by
    rw [remainder, ← List.append_assoc, List.foldl_append, foldl_step_eq, hlength]
    simp only [word, remainder, List.foldl_append]
  have hnumber : (check.foldl step 0).toNat = Regroup.number 5 check :=
    toNat_foldl_step_zero hcheck (Nat.le_of_eq hlength)
  have hword : (word ^^^ 1).toNat < 2 ^ 30 := by
    rw [UInt32.toNat_xor]
    exact Nat.xor_lt_two_pow (remainder_lt _) (by decide)
  rw [checksum_eq_spread]
  show _ ↔ check = spread (word ^^^ 1)
  constructor
  · intro h
    have hadded : check.foldl step 0 = word ^^^ 1 := by
      rw [← h, hsum, ← UInt32.xor_assoc, UInt32.xor_self, UInt32.zero_xor]
    apply Regroup.eq_of_number_eq (by decide) (by simp [hlength]) hcheck (fit_spread _)
    rw [number_spread hword, ← hnumber, hadded]
  · intro h
    have hadded : check.foldl step 0 = word ^^^ 1 := by
      rw [← UInt32.toNat_inj, hnumber, h, number_spread hword]
    rw [hsum, hadded, ← UInt32.xor_assoc, UInt32.xor_self, UInt32.zero_xor]

/-- Digits bring the remainder to one exactly if they end in the checksum of those before. -/
theorem remainder_eq_one_iff {readable : String} {digits : List UInt8}
    (hlength : checksumLength ≤ digits.length) (hdigits : Regroup.Fit 5 digits) :
    remainder (expand readable ++ digits) = 1 ↔
      digits = digits.take (digits.length - checksumLength) ++
        checksum readable (digits.take (digits.length - checksumLength)) := by
  have hsplit := List.take_append_drop (digits.length - checksumLength) digits
  have hcheck : (digits.drop (digits.length - checksumLength)).length = checksumLength := by
    rw [List.length_drop]
    omega
  have hfit : Regroup.Fit 5 (digits.drop (digits.length - checksumLength)) :=
    fun digit hdigit => hdigits digit (List.mem_of_mem_drop hdigit)
  conv_lhs => rw [← hsplit]
  rw [remainder_append_eq_one_iff hcheck hfit]
  constructor
  · intro h
    rw [← h, hsplit]
  · intro h
    exact List.append_cancel_left (hsplit.trans h)

theorem length_checksum (readable : String) (digits : List UInt8) :
    (checksum readable digits).length = checksumLength :=
  length_spread _

theorem fit_checksum (readable : String) (digits : List UInt8) :
    Regroup.Fit 5 (checksum readable digits) :=
  fit_spread _

/-! ### Digits -/

/-- What holds of the characters of the alphabet holds of every digit. -/
theorem of_digit {p : Char → Bool} (h : alphabet.all p = true) (n : UInt8) :
    p (digit n) = true := by
  rw [List.all_eq_true] at h
  unfold digit
  rw [List.getD_eq_getElem?_getD]
  cases hc : alphabet[n.toNat]? with
  | none => exact h _ (by decide)
  | some c => exact h c (List.mem_of_getElem? hc)

theorem digit_ne_one (n : UInt8) : digit n ≠ '1' := by
  simpa using of_digit (p := (· != '1')) (by decide) n

theorem toLower_digit (n : UInt8) : (digit n).toLower = digit n := by
  simpa using of_digit (p := fun c => c.toLower == c) (by decide) n

theorem utf8Size_digit (n : UInt8) : (digit n).utf8Size = 1 := by
  simpa using of_digit (p := fun c => c.utf8Size == 1) (by decide) n

theorem digitValue?_digit {n : UInt8} (h : n.toNat < 2 ^ 5) : digitValue? (digit n) = some n := by
  have hall : ∀ n : Fin 32, digitValue? (digit (UInt8.ofNat n)) = some (UInt8.ofNat n) := by decide
  simpa using hall ⟨n.toNat, h⟩

/-- A digit stands for its place in the alphabet, and nothing else stands for a number. -/
theorem digitValue?_eq_some_iff {c : Char} {n : UInt8} :
    digitValue? c = some n ↔ c = digit n ∧ n.toNat < 2 ^ 5 := by
  constructor
  · intro h
    obtain ⟨i, hi, rfl⟩ := Option.map_eq_some_iff.mp h
    obtain ⟨hlt, hc, -⟩ := List.idxOf?_eq_some_iff.mp hi
    have hlength : alphabet.length = 32 := by decide
    have hofNat : (UInt8.ofNat i).toNat = i := by
      rw [UInt8.toNat_ofNat', Nat.mod_eq_of_lt (by omega)]
    rw [digit, hofNat, List.getD_eq_getElem?_getD, List.getElem?_eq_getElem hlt]
    exact ⟨hc.symm, by omega⟩
  · rintro ⟨rfl, hn⟩
    exact digitValue?_digit hn

theorem exists_digit_of_mem_alphabet {c : Char} (h : c ∈ alphabet) :
    ∃ n : UInt8, c = digit n ∧ n.toNat < 2 ^ 5 := by
  cases hi : alphabet.idxOf? c with
  | none => exact absurd h (List.idxOf?_eq_none_iff.mp hi)
  | some i => exact ⟨_, digitValue?_eq_some_iff.mp (congrArg (Option.map UInt8.ofNat) hi)⟩

end AccessControl.Bech32
