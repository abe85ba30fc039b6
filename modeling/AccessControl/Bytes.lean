/-!
# Bytes

Byte strings are lists of `UInt8`. This module holds what the rest of the library needs of them:
the UTF-8 octets of a text, and numbers written in a fixed count of octets with the most or the
least significant one first. `toText?_ofText` and `length_bigEndian` are the laws the codecs built
on top rely on.
-/

namespace AccessControl

/-- A byte string. -/
abbrev Bytes := List UInt8

namespace Bytes

/-- The UTF-8 octets of a text. -/
def ofText (text : String) : Bytes :=
  text.toByteArray.data.toList

/-- The text whose UTF-8 octets are `bytes`; `none` when they are not UTF-8. -/
def toText? (bytes : Bytes) : Option String :=
  String.fromUTF8? ⟨bytes.toArray⟩

/-- `value`, modulo their capacity, in `width` octets, the most significant one first. -/
def bigEndian : (width : Nat) → (value : Nat) → Bytes
  | 0, _ => []
  | width + 1, value => bigEndian width (value / 256) ++ [UInt8.ofNat value]

/-- The number whose octets, the most significant one first, are `bytes`. -/
def ofBigEndian (bytes : Bytes) : Nat :=
  bytes.foldl (fun value byte => value * 256 + byte.toNat) 0

/-- `value`, modulo their capacity, in `width` octets, the least significant one first. -/
def littleEndian : (width : Nat) → (value : Nat) → Bytes
  | 0, _ => []
  | width + 1, value => UInt8.ofNat value :: littleEndian width (value / 256)

/-- The number whose octets, the least significant one first, are `bytes`. -/
def ofLittleEndian (bytes : Bytes) : Nat :=
  bytes.foldr (fun byte value => byte.toNat + value * 256) 0

/-- How many numbers `width` octets can write. -/
def capacity : (width : Nat) → Nat
  | 0 => 1
  | width + 1 => 256 * capacity width

/-! ### Laws -/

@[simp] theorem toText?_ofText (text : String) : toText? (ofText text) = some text := by
  simp only [toText?, ofText, String.fromUTF8?, Array.toArray_toList]
  exact dif_pos text.isValidUTF8

/-- Different texts have different octets. -/
theorem ofText_inj {first second : String} (h : ofText first = ofText second) :
    first = second := by
  have htexts := congrArg toText? h
  rw [toText?_ofText, toText?_ofText] at htexts
  exact Option.some.inj htexts

@[simp] theorem length_bigEndian (width value : Nat) : (bigEndian width value).length = width := by
  induction width generalizing value with
  | zero => rfl
  | succ width ih => simp [bigEndian, ih]

@[simp] theorem length_littleEndian (width value : Nat) :
    (littleEndian width value).length = width := by
  induction width generalizing value with
  | zero => rfl
  | succ width ih => simp [littleEndian, ih]

theorem ofBigEndian_append_singleton (bytes : Bytes) (last : UInt8) :
    ofBigEndian (bytes ++ [last]) = ofBigEndian bytes * 256 + last.toNat := by
  simp [ofBigEndian]

/-- Reading what `bigEndian` writes gives the number back, up to the width. -/
theorem ofBigEndian_bigEndian (width value : Nat) :
    ofBigEndian (bigEndian width value) = value % capacity width := by
  induction width generalizing value with
  | zero => simp [bigEndian, ofBigEndian, capacity, Nat.mod_one]
  | succ width ih =>
    rw [bigEndian, ofBigEndian_append_singleton, ih, capacity, Nat.mod_mul, UInt8.toNat_ofNat']
    omega

end Bytes

end AccessControl
