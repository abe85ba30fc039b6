import AccessControl.Encoding.Base58
import AccessControl.Proofs.Json.Number
import Mathlib.Data.List.Induction
import Mathlib.Data.List.TakeWhile

/-!
# Base58 round trip

A text in Base58 has two parts: a `1` for each leading zero byte, and the digits of a number. The
digits of a number do not start with zero, whose digit is the `1`, so the text can be cut where its
leading `1`s end. What follows is read back as the number and, since the bytes after the leading
zero bytes do not start with zero either, as those bytes (`Radix.digits_value`).

`Base58.decodeChars?_encode` is for byte strings of no more than `maxLength` bytes, because no
number that takes more bytes is read. In the other direction `Base58.toList_encode_of_decodeChars?`
has no bound: a text that is read at all is the one that is written for its bytes, so no byte string
has two texts.
-/

namespace AccessControl

namespace Radix

/-- A digit list without a leading zero is the one that its number has. -/
theorem digits_value {base : Nat} {numerals : List Nat} (hbase : 2 ≤ base)
    (hlt : ∀ digit ∈ numerals, digit < base) (hhead : numerals.head? ≠ some 0) :
    digits base (value base numerals) = numerals := by
  induction numerals using List.reverseRecOn with
  | nil => exact digits_zero base
  | append_singleton front last ih =>
    have hlast : last < base := hlt last (by simp)
    have hvalue := value_append_singleton base front last
    have hpos : 0 < value base (front ++ [last]) ∧ digits base (value base front) = front := by
      cases front with
      | nil =>
        have hne : last ≠ 0 := by simpa using hhead
        rw [hvalue]
        exact ⟨by simpa using Nat.pos_of_ne_zero hne, digits_zero base⟩
      | cons first front =>
        have hfront := ih (fun digit hdigit => hlt digit (List.mem_append_left _ hdigit)) hhead
        refine ⟨Nat.pos_of_ne_zero fun hzero => ?_, hfront⟩
        -- The number of the front would be zero as well, which has no digits.
        have hzero : value base (first :: front) = 0 := by
          rw [hvalue, Nat.add_eq_zero_iff, Nat.mul_eq_zero] at hzero
          omega
        rw [hzero, digits_zero] at hfront
        cases hfront
    rw [digits_of_pos hbase hpos.1, hvalue, Nat.mul_comm, Nat.mul_add_div (by omega),
      Nat.div_eq_of_lt hlast, Nat.mul_add_mod, Nat.mod_eq_of_lt hlast, Nat.add_zero, hpos.2]

end Radix

namespace Base58

/-- Every digit stands for its place in the alphabet. -/
theorem digitValue?_digit {n : Nat} (h : n < 58) : digitValue? (digit n) = some n := by
  have hall : ∀ n : Fin 58, digitValue? (digit n) = some n.val := by decide
  exact hall ⟨n, h⟩

theorem digit_eq_one_iff {n : Nat} (h : n < 58) : digit n = '1' ↔ n = 0 := by
  have hall : ∀ n : Fin 58, digit n = '1' ↔ n.val = 0 := by decide
  exact hall ⟨n, h⟩

theorem mapM_digitValue?_digit {numerals : List Nat} (h : ∀ n ∈ numerals, n < 58) :
    (numerals.map digit).mapM digitValue? = some numerals := by
  induction numerals with
  | nil => rfl
  | cons n numerals ih =>
    rw [List.forall_mem_cons] at h
    rw [List.map_cons, List.mapM_cons, digitValue?_digit h.1, ih h.2]
    rfl

/-- Nothing but the digits stands for a number. -/
theorem digitValue?_eq_some_iff {c : Char} {n : Nat} :
    digitValue? c = some n ↔ c = digit n ∧ n < 58 := by
  constructor
  · intro h
    obtain ⟨hlt, hc, -⟩ := List.idxOf?_eq_some_iff.mp h
    rw [digit, List.getD_eq_getElem?_getD, List.getElem?_eq_getElem hlt]
    exact ⟨hc.symm, hlt⟩
  · rintro ⟨rfl, hn⟩
    exact digitValue?_digit hn

theorem eq_of_mapM_digitValue? {chars : List Char} {numerals : List Nat}
    (h : chars.mapM digitValue? = some numerals) :
    chars = numerals.map digit ∧ ∀ n ∈ numerals, n < 58 := by
  induction chars generalizing numerals with
  | nil =>
    cases h
    exact ⟨rfl, List.forall_mem_nil _⟩
  | cons c chars ih =>
    rw [List.mapM_cons] at h
    simp only [Option.bind_eq_bind, Option.bind_eq_some_iff, Option.pure_def, Option.some.injEq]
      at h
    obtain ⟨n, hn, rest, hrest, rfl⟩ := h
    rw [digitValue?_eq_some_iff] at hn
    obtain ⟨hchars, hall⟩ := ih hrest
    exact ⟨congrArg₂ List.cons hn.1 hchars, List.forall_mem_cons.mpr ⟨hn.2, hall⟩⟩

/-- The number of a byte string is that of its octets as digits. -/
theorem ofBigEndian_eq_value (bytes : Bytes) :
    Bytes.ofBigEndian bytes = Radix.value 256 (bytes.map UInt8.toNat) := by
  rw [Bytes.ofBigEndian, Radix.value, List.foldl_map]

/-- Leading zero bytes have no weight. -/
theorem ofBigEndian_dropWhile (bytes : Bytes) :
    Bytes.ofBigEndian (bytes.dropWhile (· == 0)) = Bytes.ofBigEndian bytes := by
  induction bytes with
  | nil => rfl
  | cons byte bytes ih =>
    by_cases hzero : byte = 0
    · rw [List.dropWhile_cons_of_pos (by simp [hzero]), ih, hzero]
      rfl
    · rw [List.dropWhile_cons_of_neg (by simp [hzero])]

/-- The bytes after the leading zero bytes are the digits of the number. -/
theorem digits_ofBigEndian (bytes : Bytes) :
    Radix.digits 256 (Bytes.ofBigEndian bytes) =
      (bytes.dropWhile (· == 0)).map UInt8.toNat := by
  rw [← ofBigEndian_dropWhile, ofBigEndian_eq_value]
  apply Radix.digits_value (by decide)
  · intro digit hdigit
    obtain ⟨byte, _, rfl⟩ := List.mem_map.mp hdigit
    exact byte.toNat_lt
  · intro hhead
    rw [List.head?_map, Option.map_eq_some_iff] at hhead
    obtain ⟨byte, hbyte, hzero⟩ := hhead
    have hne := List.head?_dropWhile_not (· == (0 : UInt8)) bytes
    rw [hbyte] at hne
    have hbyte : byte = 0 := UInt8.toNat_inj.mp hzero
    simp [hbyte] at hne

/-- No digit of a number is a leading `1`. -/
theorem takeWhile_map_digit (number : Nat) :
    ((Radix.digits 58 number).map digit).takeWhile (· == '1') = [] := by
  cases hdigits : Radix.digits 58 number with
  | nil => rfl
  | cons first numerals =>
    have hlt : first < 58 := by
      have hmem : first ∈ Radix.digits 58 number := hdigits ▸ List.mem_cons_self
      exact Radix.lt_of_mem_digits (by decide) hmem
    have hne : first ≠ 0 := by
      have hhead : (Radix.digits 58 number).head? ≠ some 0 :=
        Radix.head?_digits_ne_zero (by decide)
      rw [hdigits] at hhead
      simpa using hhead
    rw [List.map_cons, List.takeWhile_cons_of_neg]
    simpa [digit_eq_one_iff hlt] using hne

/-- **What is written is read back**, up to the bound on the length. -/
theorem decodeChars?_encode {bytes : Bytes} (h : bytes.length ≤ maxLength) :
    decodeChars? (encode bytes).toList = some bytes := by
  let zeros := bytes.takeWhile (· == 0)
  let numerals := Radix.digits 58 (Bytes.ofBigEndian bytes)
  have hchars : (encode bytes).toList = zeros.map (fun _ => '1') ++ numerals.map digit := by
    rw [encode, String.toList_ofList]
  have hones : (encode bytes).toList.takeWhile (· == '1') = zeros.map fun _ => '1' := by
    rw [hchars, List.takeWhile_append_of_pos (by simp), takeWhile_map_digit, List.append_nil]
  have hrest : (encode bytes).toList.drop (zeros.map fun _ => '1').length =
      numerals.map digit := by
    rw [hchars, List.drop_left]
  have hnumerals : (numerals.map digit).mapM digitValue? = some numerals :=
    mapM_digitValue?_digit fun n => Radix.lt_of_mem_digits (by decide)
  have hsignificant : (Radix.digits 256 (Radix.value 58 numerals)).map UInt8.ofNat =
      bytes.dropWhile (· == 0) := by
    rw [Radix.value_digits (by decide), digits_ofBigEndian, List.map_map]
    simp [Function.comp_def]
  have hlength : (bytes.dropWhile (· == 0)).length ≤ maxLength :=
    Nat.le_trans (List.dropWhile_suffix _).length_le h
  have hzeros : (zeros.map fun _ => '1').map (fun _ => (0 : UInt8)) = zeros := by
    rw [List.map_map]
    refine (List.map_congr_left fun byte hbyte => ?_).trans (List.map_id zeros)
    have hzero := List.mem_takeWhile_imp (p := (· == 0)) hbyte
    exact (eq_of_beq hzero).symm
  simp only [decodeChars?, hones, hrest, hnumerals, Option.bind_eq_bind, Option.bind_some,
    hsignificant, if_pos hlength, hzeros]
  rw [List.takeWhile_append_dropWhile]

/-- Byte strings up to the bound that differ have different texts. -/
theorem encode_inj {bytes bytes' : Bytes} (hlength : bytes.length ≤ maxLength)
    (hlength' : bytes'.length ≤ maxLength) (h : encode bytes = encode bytes') : bytes = bytes' := by
  have hread := decodeChars?_encode hlength
  rw [h, decodeChars?_encode hlength'] at hread
  exact (Option.some.inj hread).symm

/-- What follows the leading `1`s does not start with the digit zero. -/
theorem head?_ne_zero_of_dropWhile {chars : List Char} {numerals : List Nat}
    (h : chars.dropWhile (· == '1') = numerals.map digit) : numerals.head? ≠ some 0 := by
  intro hzero
  have hhead := List.head?_dropWhile_not (· == '1') chars
  have hdigit : digit 0 = '1' := by decide
  rw [h, List.head?_map, hzero] at hhead
  simp [hdigit] at hhead

/-- The octets of a number are its digits. -/
theorem map_toNat_octets (number : Nat) :
    ((Radix.digits 256 number).map UInt8.ofNat).map UInt8.toNat = Radix.digits 256 number := by
  rw [List.map_map]
  refine (List.map_congr_left fun numeral hnumeral => ?_).trans (List.map_id _)
  exact UInt8.toNat_ofNat_of_lt' (Radix.lt_of_mem_digits (by decide) hnumeral)

/-- The octets of a number do not start with a zero octet. -/
theorem head?_octets_ne_zero (number : Nat) :
    ((Radix.digits 256 number).map UInt8.ofNat).head? ≠ some 0 := by
  intro hhead
  rw [List.head?_map, Option.map_eq_some_iff] at hhead
  obtain ⟨numeral, hnumeral, hzero⟩ := hhead
  have hlt : numeral < 256 :=
    Radix.lt_of_mem_digits (by decide) (List.mem_of_mem_head? hnumeral)
  have hnat : numeral % 256 = 0 := by
    simpa using congrArg UInt8.toNat hzero
  obtain rfl : numeral = 0 := by omega
  exact Radix.head?_digits_ne_zero (by decide) hnumeral

/-- A byte string is cut where its leading zero bytes end. -/
theorem cut_zeros {zeros significant : Bytes} (hzeros : ∀ byte ∈ zeros, byte = 0)
    (hhead : significant.head? ≠ some 0) :
    (zeros ++ significant).takeWhile (· == 0) = zeros ∧
      (zeros ++ significant).dropWhile (· == 0) = significant := by
  have hall : ∀ byte ∈ zeros, (byte == 0) = true := fun byte hbyte =>
    beq_iff_eq.mpr (hzeros byte hbyte)
  rw [List.takeWhile_append_of_pos hall, List.dropWhile_append_of_pos hall]
  cases significant with
  | nil => simp
  | cons byte significant =>
    have hne : byte ≠ 0 := by simpa using hhead
    simp [hne]

/-- **A text is read only if it is the one that is written** for the bytes. -/
theorem toList_encode_of_decodeChars? {chars : List Char} {bytes : Bytes}
    (h : decodeChars? chars = some bytes) : (encode bytes).toList = chars := by
  have hdrop : chars.drop (chars.takeWhile (· == '1')).length = chars.dropWhile (· == '1') := by
    have hleft : (chars.takeWhile (· == '1') ++ chars.dropWhile (· == '1')).drop
        (chars.takeWhile (· == '1')).length = chars.dropWhile (· == '1') := List.drop_left
    rwa [List.takeWhile_append_dropWhile] at hleft
  unfold decodeChars? at h
  simp only [hdrop, Option.bind_eq_bind, Option.bind_eq_some_iff] at h
  obtain ⟨numerals, hnumerals, h⟩ := h
  obtain ⟨hrest, hlt⟩ := eq_of_mapM_digitValue? hnumerals
  split at h
  · cases h
    let zeros := (chars.takeWhile (· == '1')).map fun _ => (0 : UInt8)
    let number := Radix.value 58 numerals
    let significant := (Radix.digits 256 number).map UInt8.ofNat
    obtain ⟨htake, hafter⟩ : (zeros ++ significant).takeWhile (· == 0) = zeros ∧
        (zeros ++ significant).dropWhile (· == 0) = significant :=
      cut_zeros (by simp [zeros]) (head?_octets_ne_zero number)
    have hnumber : Bytes.ofBigEndian (zeros ++ significant) = number := by
      rw [← ofBigEndian_dropWhile, hafter, ofBigEndian_eq_value, map_toNat_octets,
        Radix.value_digits (by decide)]
    have hdigits : Radix.digits 58 number = numerals :=
      Radix.digits_value (by decide) hlt (head?_ne_zero_of_dropWhile hrest)
    have hones : zeros.map (fun _ => '1') = chars.takeWhile (· == '1') := by
      rw [List.map_map]
      refine (List.map_congr_left fun c hc => ?_).trans (List.map_id _)
      exact (eq_of_beq (List.mem_takeWhile_imp (p := (· == '1')) hc)).symm
    rw [encode, String.toList_ofList]
    show ((zeros ++ significant).takeWhile (· == 0)).map _ ++
      (Radix.digits 58 (Bytes.ofBigEndian (zeros ++ significant))).map digit = chars
    rw [htake, hnumber, hdigits, hones, ← hrest, List.takeWhile_append_dropWhile]
  · cases h

end Base58

end AccessControl
