import AccessControl.Encoding.Bech32
import AccessControl.Encoding.Regroup
import AccessControl.Identity.Key
import AccessControl.Text.Quoted

/-!
# Account addresses

An address is a human-readable part that names the chain and the octets of an account. As text it is
Bech32 in lower case; it is read in either case, but not in both at once. The address of a key is
made of the first twenty octets of the digest of the key.
-/

namespace AccessControl

/-- A text or octets that are no address. -/
inductive AddressError where
  /-- Upper and lower case are mixed. -/
  | mixedCase
  /-- There is no separator. -/
  | missingSeparator
  /-- The text, or a part of it, is too short or too long. -/
  | invalidLength (length : Nat)
  /-- A character that may not stand where it does. -/
  | invalidChar (c : Char)
  /-- The checksum is wrong. -/
  | invalidChecksum
  /-- The digits do not make whole octets. -/
  | invalidPadding
  /-- The human-readable part is not the one that was asked for. -/
  | unexpectedReadable (expected actual : String)
  deriving DecidableEq

/-- The error in words. -/
def AddressError.message : AddressError → String
  | mixedCase => "mixed case"
  | missingSeparator => "missing separator"
  | invalidLength length => s!"invalid length {length}"
  | invalidChar c => "invalid character " ++ Text.quotedChar c
  | invalidChecksum => "invalid checksum"
  | invalidPadding => "invalid padding"
  | unexpectedReadable expected actual => "expected prefix " ++ expected ++ ", got " ++ actual

/-- The address of an account. -/
structure Address where
  /-- The human-readable part. -/
  readable : String
  /-- The octets of the account. -/
  octets : Bytes
  /-- The address in Bech32, in lower case. -/
  text : String
  deriving DecidableEq

namespace Address

/-- The octets of an account that an address of a key is made of. -/
def keyDigestLength : Nat := 20

/-- A character in lower case; only letters of ASCII have one. -/
def lowerCase (text : String) : String :=
  String.ofList (text.toList.map Char.toLower)

/-- Whether a character may stand in a human-readable part. -/
def isReadable (c : Char) : Bool :=
  33 ≤ c.toNat && c.toNat ≤ 126

/-- The address with a given human-readable part and octets. -/
def ofOctets (readable : String) (octets : Bytes) : Except AddressError Address := do
  let readable := lowerCase readable
  if readable.isEmpty || !readable.toList.all isReadable then
    .error (.invalidLength readable.utf8ByteSize)
  else
    let some digits := Regroup.regroup? 8 5 true octets
      | .error .invalidPadding
    let text := Bech32.encode readable digits
    if Bech32.maxLength < text.utf8ByteSize then .error (.invalidLength text.utf8ByteSize)
    else .ok ⟨readable, octets, text⟩

/-- The address of a key. -/
def ofKey (readable : String) (key : PublicKey) : Except AddressError Address :=
  ofOctets readable ((sha256 key.octets).take keyDigestLength)

/-- The parts of a text before and after its last `1`. -/
def splitLast? (chars : List Char) : Option (List Char × List Char) :=
  let digits := (chars.reverse.takeWhile (· != '1')).reverse
  match chars.reverse.dropWhile (· != '1') with
  | [] => none
  | _ :: front => some (front.reverse, digits)

/-- The digits that characters stand for. -/
def digits : List Char → Except AddressError (List UInt8)
  | [] => .ok []
  | c :: rest =>
    match Bech32.digitValue? c with
    | none => .error (.invalidChar c)
    | some digit => do return digit :: (← digits rest)

/-- The address that a text is. -/
def ofText (source : String) : Except AddressError Address := do
  if Bech32.maxLength < source.utf8ByteSize then .error (.invalidLength source.utf8ByteSize)
  else if source.toList.any Char.isLower && source.toList.any Char.isUpper then .error .mixedCase
  else
    let text := lowerCase source
    let some (front, back) := splitLast? text.toList
      | .error .missingSeparator
    let readable := String.ofList front
    if front.isEmpty || (String.ofList back).utf8ByteSize < Bech32.checksumLength then
      .error (.invalidLength text.utf8ByteSize)
    else
      match front.find? (fun c => !isReadable c) with
      | some c => .error (.invalidChar c)
      | none =>
        let digits ← digits back
        if Bech32.remainder (Bech32.expand readable ++ digits) ≠ 1 then .error .invalidChecksum
        else
          -- The checksum is no part of the account.
          let payload := digits.take (digits.length - Bech32.checksumLength)
          match Regroup.regroup? 5 8 false payload with
          | none => .error .invalidPadding
          | some octets => .ok ⟨readable, octets, text⟩

/-- The address that a text is, which must have the given human-readable part. -/
def ofTextUnder (readable source : String) : Except AddressError Address := do
  let address ← ofText source
  if address.readable = readable then .ok address
  else .error (.unexpectedReadable readable address.readable)

/-- A description of the address. -/
def description (address : Address) : String :=
  "Address(" ++ address.text ++ ")"

/-- An address in JSON is its text. -/
def toJson (address : Address) : Json :=
  .ofText address.text

/-- Reads an address from JSON. -/
def ofJson? (json : Json) : Option Address := do
  (ofText (← json.text?)).toOption

end Address

end AccessControl
