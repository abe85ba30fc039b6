import AccessControl.Encoding.Radix
import AccessControl.Json.Basic

/-!
# Writing JSON

The compact form: no blanks, members in the order in which they are held, every character that needs
no escape as it is. Quotation marks and backslashes are escaped, and so are octets below `0x20`,
with a letter where there is one and by number otherwise.

A literal that denotes no text is written as half of a surrogate pair, so reading gives it back.
-/

namespace AccessControl.Json

/-- The decimal digits of a number; zero is one digit. -/
def digits (n : Nat) : Bytes :=
  if n = 0 then [0x30] else (Radix.digits 10 n).map fun digit => UInt8.ofNat (0x30 + digit)

/-- The decimal digits of an integer, after a sign if it is negative. -/
def signedDigits (n : Int) : Bytes :=
  if n < 0 then 0x2d :: digits n.natAbs else digits n.natAbs

/-- The lowercase hexadecimal digit of a number below 16. -/
def hexDigit (n : Nat) : UInt8 :=
  UInt8.ofNat (if n < 10 then 0x30 + n else 0x57 + n)

/-- How an octet of a text is written in a string literal. -/
def escape (b : UInt8) : Bytes :=
  if b = 0x22 ∨ b = 0x5c then [0x5c, b]
  else if 0x20 ≤ b then [b]
  else if b = 0x08 then [0x5c, 0x62]
  else if b = 0x0c then [0x5c, 0x66]
  else if b = 0x0a then [0x5c, 0x6e]
  else if b = 0x0d then [0x5c, 0x72]
  else if b = 0x09 then [0x5c, 0x74]
  else [0x5c, 0x75, 0x30, 0x30, hexDigit (b.toNat / 16), hexDigit (b.toNat % 16)]

/-- A string literal. -/
def literal : Option String → Bytes
  | some text => 0x22 :: (Bytes.ofText text).flatMap escape ++ [0x22]
  | none => [0x22, 0x5c, 0x75, 0x64, 0x38, 0x30, 0x30, 0x22]

mutual

/-- The octets of a document in compact form. -/
def render : Json → Bytes
  | .null => [0x6e, 0x75, 0x6c, 0x6c]
  | .bool true => [0x74, 0x72, 0x75, 0x65]
  | .bool false => [0x66, 0x61, 0x6c, 0x73, 0x65]
  | .integer value => signedDigits value
  | .decimal negative significand exponent =>
    (if negative then [0x2d] else []) ++ digits significand ++ 0x65 :: signedDigits exponent
  | .string text => literal text
  | .array items => 0x5b :: renderItems items ++ [0x5d]
  | .object members => 0x7b :: renderMembers members ++ [0x7d]

/-- The items of an array, with commas between them. -/
def renderItems : List Json → Bytes
  | [] => []
  | [item] => render item
  | item :: next :: rest => render item ++ 0x2c :: renderItems (next :: rest)

/-- The members of an object, with commas between them. -/
def renderMembers : List (Option String × Json) → Bytes
  | [] => []
  | [(key, item)] => literal key ++ 0x3a :: render item
  | (key, item) :: next :: rest =>
    literal key ++ 0x3a :: render item ++ 0x2c :: renderMembers (next :: rest)

end

/-- A document in compact form, as a text. -/
def text (json : Json) : String :=
  ((render json).toText?).getD ""

end AccessControl.Json
