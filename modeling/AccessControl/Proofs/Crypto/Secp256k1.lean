import AccessControl.Crypto.Secp256k1
import Mathlib.FieldTheory.Finite.Basic
import Mathlib.GroupTheory.OrderOfElement

/-!
# The encodings of a secp256k1 point

A point is kept in 33 octets, the parity of its `y` and its `x`. It is read from these, and the tag
that stands for the parity is written again as it was read (`Point.map_encode_decode?_eq_some_iff`),
for one reason: no point of the curve has `y = 0`, so of the two roots that an `x` has, one is even
and the other odd. The exception is the tag `5`, which is read as `2`.

That no `y` is zero means that `-7` is not a cube of the field. For a prime modulus Fermat's theorem
shows this by one power; here it is shown without the primality of the modulus
(`cube_ne_minus_seven`): the root of the power would have the order `9` modulo each prime factor, so
all of these would be `1` modulo `9`, and the modulus is not.
-/

namespace AccessControl

namespace Modular

theorem multiple_mul_eq (m x n : Nat) :
    multiple (fun a b => a * b % m) (1 % m) x n = x ^ n % m := by
  induction n using Nat.strongRecOn generalizing x with
  | ind n ih =>
    rw [multiple]
    split
    · rename_i hzero
      rw [hzero, pow_zero]
    · have hsquare : (x * x % m) ^ (n / 2) % m = x ^ (2 * (n / 2)) % m := by
        rw [← Nat.pow_mod, pow_mul, pow_two]
      rw [ih (n / 2) (by omega), hsquare]
      split
      · rename_i hodd
        have hn : n = 2 * (n / 2) + 1 := by omega
        rw [Nat.mul_mod_mod, ← pow_succ', ← hn]
      · have hn : n = 2 * (n / 2) := by omega
        rw [← hn]

/-- Powers through the binary digits of the exponent are powers. -/
theorem power_eq (m x n : Nat) : power m x n = x ^ n % m := by
  rw [power, multiple_mul_eq, ← Nat.pow_mod]

theorem power_lt {m : Nat} (h : 0 < m) (x n : Nat) : power m x n < m := by
  rw [power_eq]
  exact Nat.mod_lt _ h

theorem inverse_one {p : Nat} (h : 1 < p) : inverse p 1 = 1 := by
  rw [inverse, power_eq, Nat.one_pow, Nat.mod_eq_of_lt h]

/-- A number is `1` modulo `m` if all its prime factors are. -/
theorem mod_eq_one_of_prime_factors {m n : Nat} (hn : n ≠ 0)
    (h : ∀ r, r.Prime → r ∣ n → r % m = 1 % m) : n % m = 1 % m := by
  induction n using induction_on_primes with
  | zero => exact absurd rfl hn
  | one => rfl
  | prime_mul r n hr ih =>
    have hne : n ≠ 0 := fun hzero => hn (by rw [hzero, Nat.mul_zero])
    rw [Nat.mul_mod, h r hr (Nat.dvd_mul_right r n),
      ih hne fun s hs hdvd => h s hs (Dvd.dvd.mul_left hdvd r), ← Nat.mul_mod]

/-- The power `m` of a cube root of `a` has the order `9` modulo a prime if the power `m` of `a` has
the order `3`. -/
theorem mod_nine_of_cube {r a m x : Nat} (hr : r.Prime) (hfull : a ^ (3 * m) ≡ 1 [MOD r])
    (hthird : ¬ a ^ m ≡ 1 [MOD r]) (hcube : x ^ 3 ≡ a [MOD r]) : r % 9 = 1 := by
  have : Fact r.Prime := ⟨hr⟩
  rw [← ZMod.natCast_eq_natCast_iff] at hfull hthird hcube
  push_cast at hfull hthird hcube
  let y : ZMod r := (x : ZMod r) ^ m
  have hcubed : y ^ 3 ^ 1 = (a : ZMod r) ^ m := by
    rw [pow_one, ← hcube, ← pow_mul, ← pow_mul, Nat.mul_comm]
  have hninth : y ^ 3 ^ 2 = 1 := calc
    y ^ 3 ^ 2 = (y ^ 3 ^ 1) ^ 3 := pow_mul y (3 ^ 1) 3
    _ = (a : ZMod r) ^ (3 * m) := by rw [hcubed, ← pow_mul, Nat.mul_comm]
    _ = 1 := hfull
  have horder : orderOf y = 9 := by
    have : Fact (Nat.Prime 3) := ⟨Nat.prime_three⟩
    exact orderOf_eq_prime_pow (by rwa [hcubed]) hninth
  have hne : y ≠ 0 := by
    intro hzero
    rw [hzero, zero_pow (by decide)] at hninth
    exact zero_ne_one hninth
  have hdvd : 9 ∣ r - 1 := horder ▸ orderOf_dvd_of_pow_eq_one (ZMod.pow_card_sub_one_eq_one hne)
  have hpos := hr.pos
  omega

end Modular

/-- Writing what `ofBigEndian` reads gives the octets back. -/
theorem Bytes.bigEndian_ofBigEndian (bytes : Bytes) :
    bigEndian bytes.length (ofBigEndian bytes) = bytes := by
  induction bytes using List.reverseRecOn with
  | nil => rfl
  | append_singleton front last ih =>
    have hlast := last.toNat_lt
    have hfront : ofBigEndian (front ++ [last]) / 256 = ofBigEndian front := by
      rw [ofBigEndian_append_singleton]
      omega
    have hoctet : UInt8.ofNat (ofBigEndian (front ++ [last])) = last := by
      apply UInt8.toNat_inj.mp
      rw [ofBigEndian_append_singleton, UInt8.toNat_ofNat']
      omega
    rw [List.length_append, List.length_singleton, bigEndian, hfront, hoctet, ih]

namespace Secp256k1

/-- **`-7` is not a cube** in the field of the coordinates. -/
theorem cube_ne_minus_seven (x : Nat) : ¬ x ^ 3 ≡ fieldPrime - 7 [MOD fieldPrime] := by
  intro hcube
  let a := fieldPrime - 7
  let m := (fieldPrime - 1) / 3
  have hfull : a ^ (3 * m) ≡ 1 [MOD fieldPrime] := by
    show a ^ (3 * m) % fieldPrime = _
    rw [← Modular.power_eq]
    decide +kernel
  have hthird : Nat.Coprime (a ^ m % fieldPrime - 1) fieldPrime := by
    rw [← Modular.power_eq]
    decide +kernel
  have hone : fieldPrime % 9 = 1 % 9 := by
    refine Modular.mod_eq_one_of_prime_factors (by decide) fun r hr hdvd => ?_
    refine Modular.mod_nine_of_cube hr (hfull.of_dvd hdvd) (fun hm => ?_) (hcube.of_dvd hdvd)
    -- Then `r` would divide both the modulus and the number that is coprime to it.
    have hmod : a ^ m % fieldPrime % r = 1 % r := by
      rw [Nat.mod_mod_of_dvd _ hdvd]
      exact hm
    have hdvd' : r ∣ a ^ m % fieldPrime - 1 :=
      Nat.dvd_of_mod_eq_zero (Nat.sub_mod_eq_zero_of_mod_eq hmod)
    exact hr.one_lt.ne' (Nat.eq_one_of_dvd_coprimes hthird hdvd' hdvd)
  exact absurd hone (by decide)

namespace Point

/-- No point of the curve has `y = 0`. -/
theorem square_ne_zero (x : Nat) : (x * x % fieldPrime * x + 7) % fieldPrime ≠ 0 := by
  intro hzero
  have hcube : x * x % fieldPrime * x ≡ x ^ 3 [MOD fieldPrime] := by
    rw [pow_succ, pow_two]
    exact (Nat.mod_modEq _ _).mul_right x
  have hfield : fieldPrime - 7 + 7 ≡ 0 [MOD fieldPrime] := by decide
  exact cube_ne_minus_seven x
    (((hcube.add_right 7).symm.trans (hzero.trans hfield.symm)).add_right_cancel' 7)

/-- A point with `z = 1` is written with the coordinates it has. -/
theorem encode_one {x y : Nat} (hx : x < fieldPrime) (hy : y < fieldPrime) :
    encode ⟨x, y, 1⟩ = (if y % 2 = 0 then 2 else 3) :: Bytes.bigEndian 32 x := by
  rw [encode, affineX, affineY, Modular.inverse_one (by decide), Nat.mul_one, Nat.mul_one,
    Nat.mod_eq_of_lt hx, Nat.mod_eq_of_lt hy]

/-- The point with a given `x` and parity is written with them. -/
theorem encode_ofX? {x parity : Nat} {point : Point} (hparity : parity < 2)
    (h : ofX? x parity = some point) :
    point.encode = (if parity = 0 then 2 else 3) :: Bytes.bigEndian 32 x := by
  unfold ofX? at h
  lift_lets at h
  extract_lets m square y at h
  split at h
  · rename_i hroot
    cases h
    have hy : y < fieldPrime := Modular.power_lt (by decide) _ _
    have hne : y ≠ 0 := by
      intro hzero
      have hsquare : y * y % fieldPrime = square := hroot.2
      rw [hzero] at hsquare
      exact square_ne_zero x hsquare.symm
    -- The modulus is odd, so a root and its opposite are of different parity.
    have hopposite : Modular.minus fieldPrime 0 y = fieldPrime - y := by
      rw [Modular.minus, Nat.zero_add, Nat.mod_eq_of_lt (by omega)]
    have hodd : fieldPrime % 2 = 1 := by decide
    split
    · rename_i hsame
      rw [encode_one hroot.1 hy, hsame]
    · rename_i hother
      have hflipped : (fieldPrime - y) % 2 = parity := by omega
      rw [hopposite, encode_one hroot.1 (by omega), hflipped]
  · cases h

/-- What 33 octets are read as. -/
theorem decode?_cons {tag : UInt8} {rest : Bytes} (h : rest.length = 32) :
    decode? (tag :: rest) =
      if tag = 2 ∨ tag = 5 then ofX? (Bytes.ofBigEndian rest) 0
      else if tag = 3 then ofX? (Bytes.ofBigEndian rest) 1 else none := by
  simp only [decode?, h, if_true, List.take_of_length_le h.le]

/-- The tag `5` is read as the tag `2`. -/
theorem decode?_five {rest : Bytes} (h : rest.length = 32) :
    decode? (5 :: rest) = decode? (2 :: rest) := by
  rw [decode?_cons h, decode?_cons h]
  rfl

/-- A tag that is read from 33 octets is written again, but for `5`, for which it is `2`. -/
theorem encode_decode? {tag : UInt8} {rest : Bytes} {point : Point} (h : rest.length = 32)
    (hpoint : decode? (tag :: rest) = some point) :
    point.encode = (if tag = 5 then 2 else tag) :: rest := by
  have hrest : Bytes.bigEndian 32 (Bytes.ofBigEndian rest) = rest :=
    h ▸ Bytes.bigEndian_ofBigEndian rest
  rw [decode?_cons h] at hpoint
  split at hpoint
  · rename_i htag
    rw [encode_ofX? (by decide) hpoint, hrest]
    rcases htag with rfl | rfl <;> rfl
  · split at hpoint
    · rename_i htag
      rw [encode_ofX? (by decide) hpoint, hrest, htag]
      rfl
    · cases hpoint

/-- **33 octets are kept as they are, or they are the second spelling of the kept octets**: the one
with the tag `5` in place of `2`. -/
theorem map_encode_decode?_eq_some_iff {octets kept : Bytes} (h : octets.length = 33) :
    (decode? octets).map encode = some kept ↔
      (decode? kept).map encode = some kept ∧
        (octets = kept ∨ ∃ x, kept = 2 :: x ∧ octets = 5 :: x) := by
  obtain ⟨tag, rest, rfl⟩ := List.exists_cons_of_length_eq_add_one h
  have hlength : rest.length = 32 := Nat.succ.inj h
  constructor
  · intro hkept
    obtain ⟨point, hpoint, hencode⟩ := Option.map_eq_some_iff.mp hkept
    rw [encode_decode? hlength hpoint] at hencode
    split at hencode
    · rename_i htag
      rw [htag, decode?_five hlength] at hkept
      subst hencode
      exact ⟨hkept, .inr ⟨rest, rfl, by rw [htag]⟩⟩
    · subst hencode
      exact ⟨hkept, .inl rfl⟩
  · rintro ⟨hkept, hoctets | ⟨x, rfl, hoctets⟩⟩
    · rwa [hoctets]
    · obtain ⟨rfl, rfl⟩ := List.cons.inj hoctets
      rwa [decode?_five hlength]

end Point

end Secp256k1

end AccessControl
