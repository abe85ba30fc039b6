import AccessControl.Bytes

/-!
# Base64

Three bytes are four digits of six bits; a last group of one or two bytes is two or three digits,
filled up with `=` to four characters in the padded form. A reader takes exactly what the writer
produces: the padding must be the one the form prescribes, and the bits that a short last group
leaves unused must be zero, so every byte string has one text.
-/

namespace AccessControl

/-- A form of Base64: its alphabet and whether texts are padded to groups of four characters. -/
inductive Base64 where
  /-- Digits 62 and 63 are `+` and `/`; texts are padded. -/
  | standard
  /-- Digits 62 and 63 are `-` and `_`; texts are not padded. -/
  | urlUnpadded
  deriving DecidableEq

namespace Base64

/-- The characters of the digits 62 and 63. -/
def lastDigits : Base64 → Char × Char
  | standard => ('+', '/')
  | urlUnpadded => ('-', '_')

/-- Whether a short last group is filled up with `=`. -/
def padded : Base64 → Bool
  | standard => true
  | urlUnpadded => false

/-- The character of a six-bit digit. -/
def digit (form : Base64) (n : Nat) : Char :=
  if n < 26 then Char.ofNat (0x41 + n)
  else if n < 52 then Char.ofNat (0x61 + (n - 26))
  else if n < 62 then Char.ofNat (0x30 + (n - 52))
  else if n = 62 then form.lastDigits.1
  else form.lastDigits.2

/-- The six-bit digit that a character stands for. -/
def digitValue? (form : Base64) (c : Char) : Option Nat :=
  let n := c.toNat
  if 0x41 ≤ n ∧ n ≤ 0x5a then some (n - 0x41)
  else if 0x61 ≤ n ∧ n ≤ 0x7a then some (n - 0x61 + 26)
  else if 0x30 ≤ n ∧ n ≤ 0x39 then some (n - 0x30 + 52)
  else if c = form.lastDigits.1 then some 62
  else if c = form.lastDigits.2 then some 63
  else none

/-- `count` padding characters, in a padded form. -/
def padding (form : Base64) (count : Nat) : List Char :=
  if form.padded then List.replicate count '=' else []

/-- The characters of `bytes`. -/
def encodeChars (form : Base64) : Bytes → List Char
  | [] => []
  | [a] => form.digit (a.toNat / 4) :: form.digit (a.toNat % 4 * 16) :: form.padding 2
  | [a, b] =>
    form.digit (a.toNat / 4) :: form.digit (a.toNat % 4 * 16 + b.toNat / 16) ::
      form.digit (b.toNat % 16 * 4) :: form.padding 1
  | a :: b :: c :: rest =>
    form.digit (a.toNat / 4) :: form.digit (a.toNat % 4 * 16 + b.toNat / 16) ::
      form.digit (b.toNat % 16 * 4 + c.toNat / 64) :: form.digit (c.toNat % 64) ::
      encodeChars form rest

/-- The byte of a last group of two digits; its four unused bits must be zero. -/
def decodeOne? (form : Base64) (w x : Char) : Option Bytes := do
  let w ← form.digitValue? w
  let x ← form.digitValue? x
  if x % 16 = 0 then some [UInt8.ofNat (w * 4 + x / 16)] else none

/-- The bytes of a last group of three digits; its two unused bits must be zero. -/
def decodeTwo? (form : Base64) (w x y : Char) : Option Bytes := do
  let w ← form.digitValue? w
  let x ← form.digitValue? x
  let y ← form.digitValue? y
  if y % 4 = 0 then
    some [UInt8.ofNat (w * 4 + x / 16), UInt8.ofNat (x % 16 * 16 + y / 4)]
  else none

/-- The bytes of a group of four digits. -/
def decodeThree? (form : Base64) (w x y z : Char) : Option Bytes := do
  let w ← form.digitValue? w
  let x ← form.digitValue? x
  let y ← form.digitValue? y
  let z ← form.digitValue? z
  some [UInt8.ofNat (w * 4 + x / 16), UInt8.ofNat (x % 16 * 16 + y / 4),
    UInt8.ofNat (y % 4 * 64 + z)]

/-- The bytes that a sequence of characters writes. -/
def decodeChars? (form : Base64) : List Char → Option Bytes
  | [] => some []
  | [w, x] => if form.padded then none else form.decodeOne? w x
  | [w, x, y] => if form.padded then none else form.decodeTwo? w x y
  | [w, x, y, z] =>
    -- Only the last group can be padded, and only by one or two characters.
    if form.padded && z == '=' then
      if y == '=' then form.decodeOne? w x else form.decodeTwo? w x y
    else form.decodeThree? w x y z
  | w :: x :: y :: z :: rest => do
    let front ← form.decodeThree? w x y z
    return front ++ (← decodeChars? form rest)
  | [_] => none

/-- The text of `bytes`. -/
def encode (form : Base64) (bytes : Bytes) : String :=
  String.ofList (form.encodeChars bytes)

/-- The bytes of a text, which must be exactly the one that `encode` writes for them. -/
def decode? (form : Base64) (text : String) : Option Bytes :=
  form.decodeChars? text.toList

end Base64

end AccessControl
