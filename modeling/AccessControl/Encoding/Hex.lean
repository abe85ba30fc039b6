import AccessControl.Bytes

/-!
# Hexadecimal

Each byte is two lowercase digits. Reading accepts both cases of the digits and refuses a text of
odd length or with any other character.
-/

namespace AccessControl.Hex

/-- The lowercase digit of a number below 16; numbers beyond wrap around. -/
def digit (n : Nat) : Char :=
  let n := n % 16
  Char.ofNat (if n < 10 then 0x30 + n else 0x57 + n)

/-- The number that a hexadecimal digit stands for. -/
def digitValue? (c : Char) : Option Nat :=
  let n := c.toNat
  if 0x30 ≤ n ∧ n ≤ 0x39 then some (n - 0x30)
  else if 0x61 ≤ n ∧ n ≤ 0x66 then some (n - 0x57)
  else if 0x41 ≤ n ∧ n ≤ 0x46 then some (n - 0x37)
  else none

/-- The two digits of each byte. -/
def encodeChars : Bytes → List Char
  | [] => []
  | byte :: rest => digit (byte.toNat / 16) :: digit byte.toNat :: encodeChars rest

/-- The lowercase hexadecimal text of `bytes`. -/
def encode (bytes : Bytes) : String :=
  String.ofList (encodeChars bytes)

/-- The bytes that a sequence of digit pairs writes. -/
def decodeChars? : List Char → Option Bytes
  | [] => some []
  | high :: low :: rest => do
    let high ← digitValue? high
    let low ← digitValue? low
    return UInt8.ofNat (high * 16 + low) :: (← decodeChars? rest)
  | [_] => none

/-- The bytes of a hexadecimal text. -/
def decode? (text : String) : Option Bytes :=
  decodeChars? text.toList

/-- A number as lowercase hexadecimal digits, padded with zeros to `width`; `0` has one digit. -/
def ofNat (n : Nat) (width : Nat) : String :=
  let digits := (Nat.toDigits 16 n)
  String.ofList (List.replicate (width - digits.length) '0' ++ digits)

end AccessControl.Hex
