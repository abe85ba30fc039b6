import AccessControl.Encoding.Radix
import AccessControl.Encoding.Regroup
import Mathlib.Data.Nat.Digits.Lemmas

/-!
# Regrouping keeps the number

Values of a fixed width, read as the digits of one number, are the bits of that number. Regrouping
them with padding multiplies the number by a power of two that is less than one value of the target
takes, and does not change it otherwise; without padding it divides by such a power. So both ways
are described by one relation, `Regroups`, read from the left and from the right:
`regroup?_true_eq_some_iff` and `regroup?_false_eq_some_iff`. Each side of the relation determines
the other, since digit lists of one length are equal if their numbers are.

The accumulator loses high bits. What is claimed of it is therefore claimed of its rest only, the
bits that are read but not yet cut off, and these are never more than a word holds.
-/

namespace AccessControl

namespace Radix

theorem value_eq_ofDigits (base : Nat) (numerals : List Nat) :
    value base numerals = Nat.ofDigits base numerals.reverse := by
  induction numerals using List.reverseRecOn with
  | nil => rfl
  | append_singleton front last ih =>
    rw [value_append_singleton, ih, List.reverse_append, List.reverse_singleton,
      List.singleton_append, Nat.ofDigits_cons, Nat.mul_comm, Nat.add_comm]

theorem value_append (base : Nat) (front back : List Nat) :
    value base (front ++ back) = value base front * base ^ back.length + value base back := by
  rw [value_eq_ofDigits, value_eq_ofDigits, value_eq_ofDigits, List.reverse_append,
    Nat.ofDigits_append, List.length_reverse, Nat.mul_comm, Nat.add_comm]

/-- Numerals of one length are told apart by their value. -/
theorem value_inj {base : Nat} {first second : List Nat} (hbase : 1 < base)
    (hlength : first.length = second.length) (hfirst : ∀ digit ∈ first, digit < base)
    (hsecond : ∀ digit ∈ second, digit < base) (h : value base first = value base second) :
    first = second := by
  rw [value_eq_ofDigits, value_eq_ofDigits] at h
  apply List.reverse_injective
  apply Nat.ofDigits_inj_of_len_eq hbase (by simpa using hlength) _ _ h
  · simpa using hfirst
  · simpa using hsecond

end Radix

namespace Regroup

/-! ### Values of a fixed width -/

/-- The values have no more than `width` bits each. -/
def Fit (width : Nat) (values : List UInt8) : Prop :=
  ∀ value ∈ values, value.toNat < 2 ^ width

/-- The number that values of `width` bits make up, the most significant one first. -/
def number (width : Nat) (values : List UInt8) : Nat :=
  Radix.value (2 ^ width) (values.map UInt8.toNat)

theorem fit_nil (width : Nat) : Fit width [] :=
  List.forall_mem_nil _

theorem fit_cons_iff {width : Nat} {value : UInt8} {values : List UInt8} :
    Fit width (value :: values) ↔ value.toNat < 2 ^ width ∧ Fit width values :=
  List.forall_mem_cons

theorem fit_append_iff {width : Nat} {front back : List UInt8} :
    Fit width (front ++ back) ↔ Fit width front ∧ Fit width back :=
  List.forall_mem_append

@[simp] theorem number_nil (width : Nat) : number width [] = 0 := rfl

theorem number_append (width : Nat) (front back : List UInt8) :
    number width (front ++ back) =
      number width front * 2 ^ (width * back.length) + number width back := by
  rw [number, List.map_append, Radix.value_append, List.length_map, ← pow_mul]
  rfl

theorem number_singleton (width : Nat) (value : UInt8) : number width [value] = value.toNat := by
  simp [number, Radix.value]

theorem number_cons (width : Nat) (value : UInt8) (values : List UInt8) :
    number width (value :: values) =
      value.toNat * 2 ^ (width * values.length) + number width values := by
  rw [← List.singleton_append, number_append, number_singleton]

theorem forall_digit_lt {width : Nat} {values : List UInt8} (h : Fit width values) :
    ∀ digit ∈ values.map UInt8.toNat, digit < 2 ^ width := by
  intro digit hdigit
  obtain ⟨value, hvalue, rfl⟩ := List.mem_map.mp hdigit
  exact h value hvalue

theorem number_lt {width : Nat} {values : List UInt8} (hwidth : 0 < width)
    (h : Fit width values) : number width values < 2 ^ (width * values.length) := by
  have hlt := Nat.ofDigits_lt_base_pow_length (b := 2 ^ width)
    (l := (values.map UInt8.toNat).reverse) (Nat.one_lt_two_pow (by omega))
    (by simpa using forall_digit_lt h)
  rwa [List.length_reverse, List.length_map, ← pow_mul, ← Radix.value_eq_ofDigits] at hlt

/-- Values of a fixed width are told apart by their number. -/
theorem eq_of_number_eq {width : Nat} {first second : List UInt8} (hwidth : 0 < width)
    (hlength : first.length = second.length) (hfirst : Fit width first)
    (hsecond : Fit width second) (h : number width first = number width second) :
    first = second := by
  have hmap := Radix.value_inj (Nat.one_lt_two_pow (by omega)) (by simpa using hlength)
    (forall_digit_lt hfirst) (forall_digit_lt hsecond) h
  exact List.map_injective_iff.mpr (fun _ _ => UInt8.toNat_inj.mp) hmap

/-! ### Bits of a word -/

theorem toNat_low {width : Nat} (h : width ≤ 8) (word : UInt32) :
    (low width word).toNat = word.toNat % 2 ^ width := by
  have hmask : ((1 <<< UInt32.ofNat width) - 1 : UInt32).toNat = 2 ^ width - 1 := by
    have hall : ∀ width : Fin 9,
        ((1 <<< UInt32.ofNat width) - 1 : UInt32).toNat = 2 ^ width.val - 1 := by decide
    exact hall ⟨width, by omega⟩
  have hlt : word.toNat % 2 ^ width < 2 ^ 8 :=
    (Nat.mod_lt _ (by positivity)).trans_le (Nat.pow_le_pow_right (by decide) h)
  rw [low, UInt32.toNat_toUInt8, UInt32.toNat_and, hmask, Nat.and_two_pow_sub_one_eq_mod,
    Nat.mod_eq_of_lt hlt]

theorem toNat_ofNat_mod {count : Nat} (h : count < 32) :
    (UInt32.ofNat count).toNat % 32 = count := by
  rw [UInt32.toNat_ofNat_of_lt' (h.trans (by decide)), Nat.mod_eq_of_lt h]

theorem toNat_shiftRight {count : Nat} (h : count < 32) (word : UInt32) :
    (word >>> UInt32.ofNat count).toNat = word.toNat / 2 ^ count := by
  rw [UInt32.toNat_shiftRight, toNat_ofNat_mod h, Nat.shiftRight_eq_div_pow]

/-- A shift to the left, seen on bits that the word still holds after it. -/
theorem toNat_shiftLeft_mod {count shift : Nat} (h : count + shift ≤ 32) (hshift : shift < 32)
    (word : UInt32) :
    (word <<< UInt32.ofNat shift).toNat % 2 ^ (count + shift) =
      word.toNat % 2 ^ count * 2 ^ shift := by
  have hdvd : 2 ^ (count + shift) ∣ 2 ^ 32 := pow_dvd_pow 2 h
  rw [UInt32.toNat_shiftLeft, toNat_ofNat_mod hshift, Nat.mod_mod_of_dvd _ hdvd, Nat.shiftLeft_eq,
    pow_add, Nat.mul_mod_mul_right]

/-- One more value joins the bits that are read. -/
theorem toNat_shiftLeft_or_mod {count source : Nat} (h : count + source ≤ 32)
    (hsource : source < 32) (word : UInt32) {value : UInt8} (hvalue : value.toNat < 2 ^ source) :
    ((word <<< UInt32.ofNat source) ||| value.toUInt32).toNat % 2 ^ (count + source) =
      word.toNat % 2 ^ count * 2 ^ source + value.toNat := by
  have hlt : value.toNat < 2 ^ (count + source) :=
    hvalue.trans_le (Nat.pow_le_pow_right (by decide) (by omega))
  rw [UInt32.toNat_or, Nat.or_mod_two_pow, toNat_shiftLeft_mod h hsource, UInt8.toNat_toUInt32,
    Nat.mod_eq_of_lt hlt, ← Nat.shiftLeft_eq, ← Nat.shiftLeft_add_eq_or_of_lt hvalue]

/-! ### Cutting values off -/

variable {source target : Nat}

/-- What cutting leaves: the values and the bits that are left are the bits that there were. -/
structure IsCut (target : Nat) (word : UInt32) (count : Nat) (values : List UInt8) (left : Nat) :
    Prop where
  left_lt : left < target
  values_fit : Fit target values
  length_eq : target * values.length + left = count
  number_eq : number target values * 2 ^ left + word.toNat % 2 ^ left = word.toNat % 2 ^ count

theorem cut_of_le (htarget : 0 < target) {word : UInt32} {count : Nat} (h : target ≤ count) :
    cut target word count =
      (low target (word >>> UInt32.ofNat (count - target)) :: (cut target word (count - target)).1,
        (cut target word (count - target)).2) := by
  rw [cut, if_pos ⟨htarget, h⟩]

theorem isCut_cut (htarget : 0 < target) (htarget_le : target ≤ 8) (word : UInt32) {count : Nat}
    (hcount : count ≤ 32) : IsCut target word count (cut target word count).1
      (cut target word count).2 := by
  induction count using Nat.strongRecOn with
  | ind count ih =>
    by_cases hle : target ≤ count
    · have hrest := ih (count - target) (by omega) (by omega)
      have hvalue : (low target (word >>> UInt32.ofNat (count - target))).toNat =
          word.toNat / 2 ^ (count - target) % 2 ^ target := by
        rw [toNat_low htarget_le, toNat_shiftRight (by omega)]
      rw [cut_of_le htarget hle]
      refine ⟨hrest.left_lt, ?_, ?_, ?_⟩
      · rw [fit_cons_iff, hvalue]
        exact ⟨Nat.mod_lt _ (by positivity), hrest.values_fit⟩
      · have hlength := hrest.length_eq
        rw [List.length_cons, Nat.mul_succ]
        omega
      · -- The value that is cut off stands above all that is cut off after it.
        have hcount : count = count - target + target := by omega
        rw [number_cons, Nat.add_mul, Nat.add_assoc, hrest.number_eq, Nat.mul_assoc, ← pow_add,
          hrest.length_eq, hvalue]
        conv_rhs => rw [hcount, pow_add, Nat.mod_mul]
        ring
    · rw [cut, if_neg (fun h => hle h.2)]
      exact ⟨by omega, fit_nil _, by simp, by simp⟩

/-! ### Running through the data -/

/-- The bits that are read but not yet cut off, as a number. -/
def Accumulator.rest (state : Accumulator) : Nat :=
  state.bits.toNat % 2 ^ state.count

/-- What a run leaves: the values and the rest are the bits that there were and those of the
data. -/
structure IsRun (source target : Nat) (state : Accumulator) (data values : List UInt8)
    (last : Accumulator) : Prop where
  count_lt : last.count < target
  values_fit : Fit target values
  length_eq : target * values.length + last.count = state.count + source * data.length
  number_eq : number target values * 2 ^ last.count + last.rest =
    state.rest * 2 ^ (source * data.length) + number source data

theorem exists_isRun (hsource : source ≤ 8) (htarget : 0 < target) (htarget_le : target ≤ 8)
    {data : List UInt8} (hdata : Fit source data) {state : Accumulator}
    (hstate : state.count < target) :
    ∃ values last, run? source target state data = some (values, last) ∧
      IsRun source target state data values last := by
  induction data generalizing state with
  | nil => exact ⟨[], state, rfl, hstate, fit_nil _, by simp, by simp⟩
  | cons value rest ih =>
    rw [fit_cons_iff] at hdata
    let word := (state.bits <<< UInt32.ofNat source) ||| value.toUInt32
    have hcount : state.count + source ≤ 32 := by omega
    have hcut := isCut_cut htarget htarget_le word hcount
    rcases hcuts : cut target word (state.count + source) with ⟨values, left⟩
    rw [hcuts] at hcut
    have hleft : (⟨word, left⟩ : Accumulator).count < target := hcut.left_lt
    obtain ⟨more, last, hmore, hrun⟩ := ih hdata.2 hleft
    have hword : word.toNat % 2 ^ (state.count + source) =
        state.rest * 2 ^ source + value.toNat :=
      toNat_shiftLeft_or_mod (by omega) (by omega) _ hdata.1
    refine ⟨values ++ more, last, ?_, hrun.count_lt, fit_append_iff.mpr ⟨hcut.values_fit,
      hrun.values_fit⟩, ?_, ?_⟩
    · rw [run?, if_pos (by simpa [Nat.one_shiftLeft] using hdata.1)]
      simp only [word] at hcuts hmore
      simp [hcuts, hmore]
    · have hlength := hrun.length_eq
      have hcutLength : target * values.length + left = state.count + source := hcut.length_eq
      simp only [List.length_append, List.length_cons, Nat.mul_add, Nat.mul_one] at hlength ⊢
      omega
    · have hlength : target * more.length + last.count = left + source * rest.length :=
        hrun.length_eq
      have hrest : Accumulator.rest ⟨word, left⟩ = word.toNat % 2 ^ left := rfl
      calc number target (values ++ more) * 2 ^ last.count + last.rest
          = number target values * 2 ^ (target * more.length + last.count) +
              (number target more * 2 ^ last.count + last.rest) := by
            rw [number_append, pow_add]
            ring
        _ = (number target values * 2 ^ left + word.toNat % 2 ^ left) *
              2 ^ (source * rest.length) + number source rest := by
            rw [hrun.number_eq, hlength, hrest, pow_add]
            ring
        _ = state.rest * 2 ^ (source * (value :: rest).length) +
              number source (value :: rest) := by
            rw [hcut.number_eq, hword, number_cons, List.length_cons, Nat.mul_succ, pow_add]
            ring

theorem fit_of_run? {data values : List UInt8} {state last : Accumulator}
    (h : run? source target state data = some (values, last)) : Fit source data := by
  induction data generalizing state values last with
  | nil => exact fit_nil _
  | cons value rest ih =>
    rw [run?] at h
    split at h
    · rename_i hvalue
      obtain ⟨⟨more, last⟩, hmore, -⟩ := Option.bind_eq_some_iff.mp h
      exact fit_cons_iff.mpr ⟨by simpa [Nat.one_shiftLeft] using hvalue, ih hmore⟩
    · cases h

/-! ### What is regrouped -/

/-- One length is determined by another one up to less than one value. -/
theorem length_unique {width first second : Nat} {short long : Nat} (hwidth : 0 < width)
    (hfirst : first < width) (hsecond : second < width)
    (h : width * short + second = width * long + first) : short = long := by
  have hmod := congrArg (· / width) h
  simpa [Nat.mul_add_div hwidth, Nat.div_eq_of_lt hfirst, Nat.div_eq_of_lt hsecond] using hmod

/-- `groups`, of `target` bits each, are the bits of `data`, of `source` bits each, and as many
zeros as fill up the last group. -/
structure Regroups (source target : Nat) (data groups : List UInt8) : Prop where
  data_fit : Fit source data
  groups_fit : Fit target groups
  exists_zeros : ∃ zeros < target, target * groups.length = source * data.length + zeros ∧
    number target groups = number source data * 2 ^ zeros

/-- The groups are determined by the data: no more of them than there is need for. -/
theorem Regroups.groups_unique {data first second : List UInt8} (htarget : 0 < target)
    (hfirst : Regroups source target data first) (hsecond : Regroups source target data second) :
    first = second := by
  obtain ⟨zeros, hzeros, hlength, hnumber⟩ := hfirst.exists_zeros
  obtain ⟨zeros', hzeros', hlength', hnumber'⟩ := hsecond.exists_zeros
  have heq : first.length = second.length := length_unique htarget hzeros hzeros' (by omega)
  have hsame : zeros = zeros' := by
    rw [heq] at hlength
    omega
  apply eq_of_number_eq htarget heq hfirst.groups_fit hsecond.groups_fit
  rw [hnumber, hnumber', hsame]

/-- What is left of a run, filled up with zeros. -/
theorem toNat_filled (htarget : target ≤ 8) {state : Accumulator} (h : state.count < target) :
    (low target (state.bits <<< UInt32.ofNat (target - state.count))).toNat =
      state.rest * 2 ^ (target - state.count) := by
  have hsum : state.count + (target - state.count) = target := by omega
  have hshift : (state.bits <<< UInt32.ofNat (target - state.count)).toNat %
      2 ^ (state.count + (target - state.count)) =
        state.bits.toNat % 2 ^ state.count * 2 ^ (target - state.count) :=
    toNat_shiftLeft_mod (by omega) (by omega) state.bits
  rw [hsum] at hshift
  rw [toNat_low htarget, hshift, Accumulator.rest]

/-- What is left is zero exactly if it is so when filled up. -/
theorem filled_eq_zero_iff (htarget : target ≤ 8) {state : Accumulator}
    (h : state.count < target) :
    low target (state.bits <<< UInt32.ofNat (target - state.count)) = 0 ↔ state.rest = 0 := by
  rw [← UInt8.toNat_inj, toNat_filled htarget h, UInt8.toNat_zero, Nat.mul_eq_zero]
  exact or_iff_left (by positivity)

/-- What a run over all of the data leaves. -/
theorem exists_isRun_start (hsource : source ≤ 8) (htarget : 0 < target) (htarget_le : target ≤ 8)
    {data : List UInt8} (hdata : Fit source data) :
    ∃ values last, run? source target ⟨0, 0⟩ data = some (values, last) ∧ last.count < target ∧
      Fit target values ∧ target * values.length + last.count = source * data.length ∧
      number target values * 2 ^ last.count + last.rest = number source data := by
  have hstart : (⟨0, 0⟩ : Accumulator).count < target := htarget
  obtain ⟨values, last, hrun, hvalues⟩ := exists_isRun hsource htarget htarget_le hdata hstart
  have hlength := hvalues.length_eq
  have hnumber := hvalues.number_eq
  have hempty : Accumulator.rest ⟨0, 0⟩ = 0 := rfl
  rw [hempty, Nat.zero_mul, Nat.zero_add] at hnumber
  rw [Nat.zero_add] at hlength
  exact ⟨values, last, hrun, hvalues.count_lt, hvalues.values_fit, hlength, hnumber⟩

/-- With padding, all data that fits is regrouped. -/
theorem exists_regroups (hsource : source ≤ 8) (htarget : 0 < target) (htarget_le : target ≤ 8)
    {data : List UInt8} (hdata : Fit source data) :
    ∃ groups, regroup? source target true data = some groups ∧
      Regroups source target data groups := by
  obtain ⟨values, last, hrun, hcount, hvalues, hlength, hnumber⟩ :=
    exists_isRun_start hsource htarget htarget_le hdata
  have hfilled := toNat_filled htarget_le hcount
  simp only [regroup?, hrun, Option.bind_eq_bind, Option.bind_some, if_true, Option.pure_def,
    Option.some.injEq, exists_eq_left']
  split
  · rename_i hzero
    have hrest : last.rest = 0 := by rw [Accumulator.rest, hzero, pow_zero, Nat.mod_one]
    rw [hzero, Nat.add_zero] at hlength
    rw [hzero, hrest, pow_zero, Nat.mul_one, Nat.add_zero] at hnumber
    exact ⟨hdata, hvalues, 0, htarget, by omega, by omega⟩
  · have hsum : last.count + (target - last.count) = target := by omega
    have hlt : last.rest * 2 ^ (target - last.count) < 2 ^ target := by
      calc last.rest * 2 ^ (target - last.count)
          < 2 ^ last.count * 2 ^ (target - last.count) :=
            Nat.mul_lt_mul_of_pos_right (Nat.mod_lt _ (by positivity)) (by positivity)
        _ = 2 ^ target := by rw [← pow_add, hsum]
    refine ⟨hdata, ?_, target - last.count, by omega, ?_, ?_⟩
    · rw [fit_append_iff, fit_cons_iff, hfilled]
      exact ⟨hvalues, hlt, fit_nil _⟩
    · rw [List.length_append, List.length_singleton, Nat.mul_add]
      omega
    · rw [number_append, number_singleton, hfilled, List.length_singleton, Nat.mul_one,
        ← hnumber, Nat.add_mul, Nat.mul_assoc, ← pow_add, hsum]

/-- **With padding, values are regrouped** whenever they fit. -/
theorem regroup?_true_eq_some_iff (hsource : source ≤ 8) (htarget : 0 < target)
    (htarget_le : target ≤ 8) {data groups : List UInt8} :
    regroup? source target true data = some groups ↔ Regroups source target data groups := by
  constructor
  · intro h
    obtain ⟨⟨values, last⟩, hrun, -⟩ := Option.bind_eq_some_iff.mp h
    obtain ⟨groups', hgroups', hregroups⟩ :=
      exists_regroups hsource htarget htarget_le (fit_of_run? hrun)
    rw [h] at hgroups'
    cases hgroups'
    exact hregroups
  · intro h
    obtain ⟨groups', hgroups', hregroups⟩ := exists_regroups hsource htarget htarget_le h.data_fit
    rw [hgroups', h.groups_unique htarget hregroups]

/-- **Without padding, exactly what padding makes is regrouped**, and into what it is made of. -/
theorem regroup?_false_eq_some_iff (hsource : 0 < source) (hle : source ≤ target)
    (htarget_le : target ≤ 8) {data groups : List UInt8} :
    regroup? source target false groups = some data ↔ Regroups target source data groups := by
  constructor
  · intro h
    obtain ⟨⟨values, last⟩, hrun, h⟩ := Option.bind_eq_some_iff.mp h
    have hgroups := fit_of_run? hrun
    obtain ⟨values', last', hrun', hcount, hvalues, hlength, hnumber⟩ :=
      exists_isRun_start (by omega) (by omega) htarget_le hgroups
    rw [hrun] at hrun'
    cases hrun'
    simp only [Bool.false_eq_true, if_false] at h
    split at h
    · rename_i hleft
      cases h
      -- The zeros that are left make up the rest.
      have hrest : last.rest = 0 := (filled_eq_zero_iff htarget_le hcount).mp hleft.2
      rw [hrest, Nat.add_zero] at hnumber
      exact ⟨hvalues, hgroups, last.count, hleft.1, hlength.symm, hnumber.symm⟩
    · cases h
  · intro h
    obtain ⟨values, last, hrun, hcount, hvalues, hlength, hnumber⟩ :=
      exists_isRun_start (by omega) (by omega) htarget_le h.groups_fit
    obtain ⟨zeros, hzeros, hlength', hnumber'⟩ := h.exists_zeros
    have hlengths : target * values.length + last.count = target * data.length + zeros := by omega
    have heq : values.length = data.length :=
      length_unique (by omega) (hzeros.trans_le hle) hcount hlengths
    have hsame : last.count = zeros := by
      rw [heq] at hlength
      omega
    rw [hsame, hnumber'] at hnumber
    have hrest : last.rest = 0 := by
      have hlt : last.rest < 2 ^ zeros := hsame ▸ Nat.mod_lt _ (by positivity)
      have hmod := congrArg (· % 2 ^ zeros) hnumber
      simpa [Nat.mul_add_mod', Nat.mod_eq_of_lt hlt] using hmod
    rw [hrest, Nat.add_zero] at hnumber
    have hdata : values = data := by
      apply eq_of_number_eq (by omega) heq hvalues h.data_fit
      exact Nat.eq_of_mul_eq_mul_right (by positivity) hnumber
    have hzero : low target (last.bits <<< UInt32.ofNat (target - last.count)) = 0 :=
      (filled_eq_zero_iff htarget_le hcount).mpr hrest
    simp only [regroup?, hrun, Option.bind_eq_bind, Option.bind_some, Bool.false_eq_true, if_false]
    rw [if_pos ⟨by omega, hzero⟩, hdata]
    rfl

end Regroup

end AccessControl
