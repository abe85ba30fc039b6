import AccessControl.Proofs.Encoding.Regroup

/-!
# Regrouping without a bound

An accumulator without a bound would hold the number that all of the data makes up, and the values
would be windows of this one number. That is `unbounded?`, which has no accumulator at all, and it
is what regrouping in a word of 32 bits comes to for data of every length
(`regroup?_eq_unbounded?`).

The word holds the low 32 bits of the number and no more (`toNat_bits_of_run?`), so from the fifth
octet on it has lost some. A value is cut off, however, while all of its bits are among those, and
so are the bits that are left in the end, which decide whether unpadded data is refused.

Octets and digits of five bits are regrouped into each other: `octets_digits_inverse`.
-/

namespace AccessControl.Regroup

variable {source target : Nat}

/-! ### Windows of a number -/

/-- The `width` bits of a number that stand above its low `below` bits. -/
def window (width below whole : Nat) : Nat :=
  whole / 2 ^ below % 2 ^ width

theorem window_div (width below above whole : Nat) :
    window width above (whole / 2 ^ below) = window width (above + below) whole := by
  unfold window
  rw [Nat.div_div_eq_div_mul, ← pow_add, Nat.add_comm]

/-- What stands below a window is not seen through it. -/
theorem window_of_lt {width below high low : Nat} (hhigh : high < 2 ^ width)
    (hlow : low < 2 ^ below) : window width below (high * 2 ^ below + low) = high := by
  unfold window
  rw [Nat.mul_comm, Nat.mul_add_div (by positivity), Nat.div_eq_of_lt hlow, Nat.add_zero,
    Nat.mod_eq_of_lt hhigh]

/-- What stands above a window is not seen through it. -/
theorem window_mul_add {width below above : Nat} (h : below + width ≤ above) (high low : Nat) :
    window width below (high * 2 ^ above + low) = window width below low := by
  obtain ⟨between, rfl⟩ := Nat.exists_eq_add_of_le h
  have hpow : high * 2 ^ (below + width + between) =
      2 ^ below * (2 ^ width * (2 ^ between * high)) := by ring
  unfold window
  rw [hpow, Nat.mul_add_div (by positivity), Nat.mul_add_mod]

/-- Values of a fixed width are the windows of their number, the first value on top. -/
theorem toNat_getElem_eq_window {width : Nat} {values : List UInt8} (hwidth : 0 < width)
    (hvalues : Fit width values) {i : Nat} (hi : i < values.length) :
    values[i].toNat = window width (width * (values.length - (i + 1))) (number width values) := by
  induction values generalizing i with
  | nil => exact absurd hi (Nat.not_lt_zero i)
  | cons value rest ih =>
    rw [fit_cons_iff] at hvalues
    rw [number_cons]
    cases i with
    | zero => exact (window_of_lt hvalues.1 (number_lt hwidth hvalues.2)).symm
    | succ i =>
      have hi' : i < rest.length := Nat.lt_of_succ_lt_succ hi
      have hle : width * (rest.length - (i + 1)) + width ≤ width * rest.length := by
        rw [← Nat.mul_succ]
        exact Nat.mul_le_mul_left _ (by omega)
      show rest[i].toNat = window width (width * (rest.length + 1 - (i + 1 + 1))) _
      rw [Nat.add_sub_add_right, window_mul_add hle]
      exact ih hvalues.2 hi'

/-! ### The accumulator -/

/-- One more value joins the word, which loses what does not fit. -/
theorem toNat_shiftLeft_or (hsource : source ≤ 8) (word : UInt32) {value : UInt8}
    (hvalue : value.toNat < 2 ^ source) :
    ((word <<< UInt32.ofNat source) ||| value.toUInt32).toNat =
      (word.toNat * 2 ^ source + value.toNat) % 2 ^ 32 := by
  have hsum : 32 - source + source = 32 := by omega
  -- Of the word that there was, the highest `source` bits are lost.
  have hword : ((word <<< UInt32.ofNat source) ||| value.toUInt32).toNat %
      2 ^ (32 - source + source) = word.toNat % 2 ^ (32 - source) * 2 ^ source + value.toNat :=
    toNat_shiftLeft_or_mod (by omega) (by omega) word hvalue
  rw [hsum, Nat.mod_eq_of_lt (UInt32.toNat_lt _)] at hword
  have hlt : word.toNat % 2 ^ (32 - source) * 2 ^ source + value.toNat < 2 ^ 32 := by
    rw [← hword]
    exact UInt32.toNat_lt _
  rw [hword, ← Nat.mod_eq_of_lt hlt, ← Nat.mul_mod_mul_right, ← pow_add, hsum, Nat.mod_add_mod]

/-- **The accumulator holds the low 32 bits of all that was read.** -/
theorem toNat_bits_of_run? (hsource : source ≤ 8) {state last : Accumulator}
    {data values : List UInt8} (h : run? source target state data = some (values, last)) :
    last.bits.toNat =
      (state.bits.toNat * 2 ^ (source * data.length) + number source data) % 2 ^ 32 := by
  induction data generalizing state values last with
  | nil =>
    cases h
    simp [Nat.mod_eq_of_lt (UInt32.toNat_lt _)]
  | cons value rest ih =>
    rw [run?] at h
    split at h
    case isFalse => cases h
    rename_i hvalue
    rw [Nat.one_shiftLeft] at hvalue
    obtain ⟨⟨more, last'⟩, hmore, h⟩ := Option.bind_eq_some_iff.mp h
    cases h
    rw [ih hmore, toNat_shiftLeft_or hsource _ hvalue, number_cons, List.length_cons,
      Nat.mul_succ, pow_add, ← Nat.mod_add_mod, Nat.mod_mul_mod, Nat.mod_add_mod]
    congr 1
    ring

/-! ### Regrouping one number -/

instance (width : Nat) (values : List UInt8) : Decidable (Fit width values) :=
  inferInstanceAs (Decidable (∀ value ∈ values, value.toNat < 2 ^ width))

/-- The values of `target` bits from the top of a number of `total` bits, as many as there are. -/
def windows (target total whole : Nat) : List Nat :=
  (List.range (total / target)).map fun i => window target (total - target * (i + 1)) whole

@[simp] theorem length_windows (target total whole : Nat) :
    (windows target total whole).length = total / target := by
  simp [windows]

@[simp] theorem getElem_windows {target total whole i : Nat}
    (hi : i < (windows target total whole).length) :
    (windows target total whole)[i] = window target (total - target * (i + 1)) whole := by
  simp [windows]

/-- The values of `target` bits that the data, in values of `source` bits, is made of, taken from
the one number that it makes up. -/
def unbounded? (source target : Nat) (padded : Bool) (data : List UInt8) : Option (List Nat) :=
  if Fit source data then
    let whole := number source data
    let total := source * data.length
    let values := windows target total whole
    -- The bits that make up no value any more.
    let left := total % target
    let rest := whole % 2 ^ left
    if padded then some (if left = 0 then values else values ++ [rest * 2 ^ (target - left)])
    else if left < source ∧ rest = 0 then some values
    else none
  else none

/-- Values of a fixed width are the windows of every number that starts with their bits. -/
theorem map_toNat_eq_windows {whole left : Nat} (htarget : 0 < target) (hleft : left < target)
    {values : List UInt8} (hvalues : Fit target values)
    (hnumber : number target values = whole / 2 ^ left) :
    values.map UInt8.toNat = windows target (target * values.length + left) whole := by
  have hcount : (target * values.length + left) / target = values.length := by
    rw [Nat.mul_add_div htarget, Nat.div_eq_of_lt hleft, Nat.add_zero]
  apply List.ext_getElem (by simp [hcount])
  intro i hi hi'
  rw [List.length_map] at hi
  have hbelow : target * (values.length - (i + 1)) + left =
      target * values.length + left - target * (i + 1) := by
    have hle : target * (i + 1) ≤ target * values.length := Nat.mul_le_mul_left _ hi
    rw [Nat.mul_sub]
    omega
  rw [List.getElem_map, getElem_windows, toNat_getElem_eq_window htarget hvalues hi, hnumber,
    window_div, hbelow]

/-- A run over all of the data cuts off the windows of its number, and what is left in the word is
what is left of the number. -/
theorem exists_run?_eq_windows (hsource : source ≤ 8) (htarget : 0 < target)
    (htarget_le : target ≤ 8) {data : List UInt8} (hdata : Fit source data) :
    ∃ values last, run? source target ⟨0, 0⟩ data = some (values, last) ∧
      values.map UInt8.toNat = windows target (source * data.length) (number source data) ∧
      last.count < target ∧ last.count = source * data.length % target ∧
      last.rest = number source data % 2 ^ last.count := by
  obtain ⟨values, last, hrun, hcount, hvalues, hlength, hnumber⟩ :=
    exists_isRun_start hsource htarget htarget_le hdata
  have hquotient : number target values = number source data / 2 ^ last.count := by
    have hlt : last.rest < 2 ^ last.count := Nat.mod_lt _ (by positivity)
    rw [← hnumber, Nat.add_comm, Nat.add_mul_div_right _ _ (by positivity), Nat.div_eq_of_lt hlt,
      Nat.zero_add]
  refine ⟨values, last, hrun, ?_, hcount, ?_, ?_⟩
  · rw [← hlength]
    exact map_toNat_eq_windows htarget hcount hvalues hquotient
  · rw [← hlength, Nat.mul_add_mod, Nat.mod_eq_of_lt hcount]
  · -- Of the bits that the word holds only these few are still needed.
    have hdvd : 2 ^ last.count ∣ 2 ^ 32 := pow_dvd_pow 2 (by omega)
    have hbits := toNat_bits_of_run? hsource hrun
    rw [UInt32.toNat_zero, Nat.zero_mul, Nat.zero_add] at hbits
    rw [Accumulator.rest, hbits, Nat.mod_mod_of_dvd _ hdvd]

/-- **The 32 bits of the accumulator are never missed**: regrouping is regrouping one number that
is held as a whole, and the same data is refused. -/
theorem regroup?_eq_unbounded? (hsource : source ≤ 8) (htarget : 0 < target)
    (htarget_le : target ≤ 8) (padded : Bool) (data : List UInt8) :
    (regroup? source target padded data).map (List.map UInt8.toNat) =
      unbounded? source target padded data := by
  unfold unbounded?
  by_cases hdata : Fit source data
  · obtain ⟨values, last, hrun, hvalues, hcount, hleft, hrest⟩ :=
      exists_run?_eq_windows hsource htarget htarget_le hdata
    rw [if_pos hdata]
    simp only [regroup?, hrun, Option.bind_eq_bind, Option.bind_some, ← hleft, ← hvalues, ← hrest]
    cases padded with
    | true =>
      rw [if_pos rfl, if_pos rfl, ← toNat_filled htarget_le hcount]
      by_cases hnothing : last.count = 0
      · simp [hnothing]
      · simp [hnothing]
    | false =>
      simp only [filled_eq_zero_iff htarget_le hcount, Bool.false_eq_true, if_false]
      by_cases htail : last.count < source ∧ last.rest = 0
      · simp [htail]
      · simp [htail]
  · have hnone : run? source target ⟨0, 0⟩ data = none := by
      rw [Option.eq_none_iff_forall_ne_some]
      intro outcome hrun
      exact hdata (fit_of_run? hrun)
    rw [if_neg hdata]
    simp only [regroup?, hnone, Option.bind_eq_bind, Option.bind_none, Option.map_none]

/-! ### Octets and digits of five bits -/

/-- There are as many groups as the bits of the data take, rounded up. -/
theorem Regroups.length_groups {data groups : List UInt8} (htarget : 0 < target)
    (h : Regroups source target data groups) :
    groups.length = (source * data.length + (target - 1)) / target := by
  obtain ⟨zeros, hzeros, hlength, -⟩ := h.exists_zeros
  have hsum : source * data.length + (target - 1) =
      target * groups.length + (target - 1 - zeros) := by omega
  rw [hsum, Nat.mul_add_div htarget, Nat.div_eq_of_lt (by omega), Nat.add_zero]

/-- **Octets and digits are regrouped into each other.** Octets, however many, are regrouped to
digits of five bits, as many as their bits take, and these back to the octets. Digits are regrouped
to octets exactly if the octets are regrouped to them. Either way, with padding and without, the
outcome is the one of an accumulator that loses nothing. -/
theorem octets_digits_inverse :
    (∀ octets, ∃ digits, regroup? 8 5 true octets = some digits ∧
      (∀ digit ∈ digits, digit.toNat < 32) ∧ digits.length = (8 * octets.length + 4) / 5 ∧
      regroup? 5 8 false digits = some octets) ∧
    (∀ digits octets, regroup? 5 8 false digits = some octets ↔
      regroup? 8 5 true octets = some digits) ∧
    ∀ padded data,
      (regroup? 8 5 padded data).map (List.map UInt8.toNat) = unbounded? 8 5 padded data ∧
      (regroup? 5 8 padded data).map (List.map UInt8.toNat) = unbounded? 5 8 padded data := by
  have hback : ∀ digits octets, regroup? 5 8 false digits = some octets ↔
      regroup? 8 5 true octets = some digits := by
    intro digits octets
    rw [regroup?_false_eq_some_iff (by decide) (by decide) (by decide),
      regroup?_true_eq_some_iff (by decide) (by decide) (by decide)]
  refine ⟨?_, hback, ?_⟩
  · intro octets
    have hfit : Fit 8 octets := fun octet _ => octet.toNat_lt
    have hexists : ∃ digits, regroup? 8 5 true octets = some digits ∧
        Regroups 8 5 octets digits :=
      exists_regroups (by decide) (by decide) (by decide) hfit
    obtain ⟨digits, hdigits, hregroups⟩ := hexists
    exact ⟨digits, hdigits, hregroups.groups_fit, hregroups.length_groups (by decide),
      (hback digits octets).mpr hdigits⟩
  · intro padded data
    exact ⟨regroup?_eq_unbounded? (by decide) (by decide) (by decide) padded data,
      regroup?_eq_unbounded? (by decide) (by decide) (by decide) padded data⟩

/-- Two digits leave two bits, which have to be zero; three leave seven, which are too many. -/
example : regroup? 5 8 false [31, 28] = some [255] ∧ regroup? 5 8 false [31, 29] = none ∧
    regroup? 5 8 false [0, 0, 0] = none := by
  decide +kernel

end AccessControl.Regroup
