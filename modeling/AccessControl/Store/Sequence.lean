import AccessControl.Store.Basic
import AccessControl.Word

/-!
# Sequences

A sequence hands out the numbers 1, 2, 3 and so on. It keeps the last one at a key of a store, in
eight octets with the most significant one first.
-/

namespace AccessControl

/-- A sequence of numbers. -/
structure Sequence where
  /-- The key at which the last number is kept. -/
  key : Bytes

namespace Sequence

variable {σ : Type} [Store σ]

/-- The octets of a number. -/
def octets (number : UInt64) : Bytes :=
  Bytes.bigEndian 8 number.toNat

/-- The number of eight octets. -/
def ofOctets (octets : Bytes) : UInt64 :=
  UInt64.ofNat (Bytes.ofBigEndian octets)

/-- The last number that was handed out; 0 if none was. -/
def current (sequence : Sequence) (store : σ) : Except StoreError UInt64 := do
  match ← Store.get? store sequence.key with
  | none => return 0
  | some value =>
    if value.length = 8 then return ofOctets value
    else .error (.unreadable sequence.key (.counter value.length))

/-- Hands out the next number. -/
def next (sequence : Sequence) : Action σ StoreError UInt64 := do
  let last ← Action.read sequence.current
  match Word.add? last 1 with
  | none => throw .sequenceExhausted
  | some number =>
    Store.write sequence.key (octets number)
    return number

omit [Store σ] in
@[simp] theorem ofOctets_octets (number : UInt64) : ofOctets (octets number) = number := by
  have := number.toNat_lt
  have hcapacity : Bytes.capacity 8 = 18446744073709551616 := rfl
  rw [ofOctets, octets, Bytes.ofBigEndian_bigEndian, Nat.mod_eq_of_lt (by omega),
    UInt64.ofNat_toNat]

end Sequence

end AccessControl
