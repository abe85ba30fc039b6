import AccessControl.Bytes
import AccessControl.Encoding.Radix

/-!
# Base58

A byte string is read as one big-endian number and written in base 58, with an alphabet that leaves
out `0`, `O`, `I` and `l`. A leading zero byte has no weight in that number, so each one is written
as a leading `1`.

The usual reader keeps the bytes in a buffer of `maxLength`. A number that does not fit is refused,
there and here. Leading `1`s are not counted against the buffer: if they and the number need more
than it holds between them, the usual reader breaks off without an answer, and the one here goes on
as if there were room.
-/

namespace AccessControl.Base58

/-- The digits, in order of value. -/
def alphabet : List Char :=
  "123456789ABCDEFGHJKLMNPQRSTUVWXYZabcdefghijkmnopqrstuvwxyz".toList

/-- The longest number a text may write, in bytes. The zero bytes before it are not counted. -/
def maxLength : Nat := 132

/-- The character of a digit. -/
def digit (n : Nat) : Char :=
  alphabet.getD n '1'

/-- The digit that a character stands for. -/
def digitValue? (c : Char) : Option Nat :=
  alphabet.idxOf? c

/-- The text of `bytes`. -/
def encode (bytes : Bytes) : String :=
  let zeros := bytes.takeWhile (· == 0)
  let number := Bytes.ofBigEndian bytes
  String.ofList (zeros.map (fun _ => '1') ++ (Radix.digits 58 number).map digit)

/-- The bytes that `chars` write: a zero byte for each leading `1`, of which there may be any number,
then the number in the other characters, in as few bytes as hold it. -/
def decodeChars? (chars : List Char) : Option Bytes := do
  let ones := chars.takeWhile (· == '1')
  let digits ← (chars.drop ones.length).mapM digitValue?
  -- The number has no leading zero octet: those are the leading `1`s.
  let significant := (Radix.digits 256 (Radix.value 58 digits)).map UInt8.ofNat
  if significant.length ≤ maxLength then
    some (ones.map (fun _ => 0) ++ significant)
  else none

/-- The bytes of a text; `none` for a character outside the alphabet and for a number of more than
`maxLength` bytes. -/
def decode? (text : String) : Option Bytes :=
  decodeChars? text.toList

end AccessControl.Base58
