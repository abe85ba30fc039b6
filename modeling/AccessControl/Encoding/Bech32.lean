import AccessControl.Bytes

/-!
# Bech32

A human-readable part, the separator `1`, and digits of five bits each, of which the last six are a
checksum over all the rest. The checksum is the remainder of a polynomial division over the field of
32 elements, taken on 30-bit words: it is one for a text with a correct checksum.
-/

namespace AccessControl.Bech32

/-- The digits, in order of value. -/
def alphabet : List Char :=
  "qpzry9x8gf2tvdw0s3jn54khce6mua7l".toList

/-- The number of digits of the checksum. -/
def checksumLength : Nat := 6

/-- The greatest length of a text. -/
def maxLength : Nat := 90

/-- The character of a digit. -/
def digit (n : UInt8) : Char :=
  alphabet.getD n.toNat 'q'

/-- The digit that a character stands for. -/
def digitValue? (c : Char) : Option UInt8 :=
  (alphabet.idxOf? c).map UInt8.ofNat

/-- The multiples of the generator polynomial that each bit shifted out of a word calls for. -/
def generator : List UInt32 :=
  [0x3b6a57b2, 0x26508e6d, 0x1ea119fa, 0x3d4233dd, 0x2a1462b3]

/-- The multiple of the generator polynomial for the five bits `top`. -/
def reduction (top : UInt32) : UInt32 :=
  ((List.range 5).zip generator).foldl (fun word (i, multiple) =>
    if (top >>> UInt32.ofNat i) &&& 1 = 1 then word ^^^ multiple else word) 0

/-- The remainder after one more digit. -/
def step (word : UInt32) (digit : UInt8) : UInt32 :=
  ((word &&& 0x01ffffff) <<< 5) ^^^ digit.toUInt32 ^^^ reduction (word >>> 25)

/-- The remainder of a sequence of digits. -/
def remainder (digits : List UInt8) : UInt32 :=
  digits.foldl step 1

/-- The digits by which the human-readable part enters the checksum. -/
def expand (readable : String) : List UInt8 :=
  let octets := Bytes.ofText readable
  octets.map (fun (octet : UInt8) => octet >>> 5) ++
    0 :: octets.map fun (octet : UInt8) => octet &&& 0x1f

/-- The checksum of a human-readable part and digits. -/
def checksum (readable : String) (digits : List UInt8) : List UInt8 :=
  -- Six zeros make room for the checksum, which then brings the remainder to one.
  let word := remainder (expand readable ++ digits ++ List.replicate checksumLength 0) ^^^ 1
  (List.range checksumLength).map fun i =>
    ((word >>> UInt32.ofNat (5 * (5 - i))) &&& 0x1f).toUInt8

/-- The text of a human-readable part and digits. -/
def encode (readable : String) (digits : List UInt8) : String :=
  readable ++ "1" ++ String.ofList ((digits ++ checksum readable digits).map digit)

end AccessControl.Bech32
