import AccessControl.Bytes

/-!
# Reading octets that need not be UTF-8

`Utf8.lossy` shows any byte string as text. Each well-formed sequence becomes its character. What is
not well formed becomes U+FFFD, once for each maximal run that starts a sequence and breaks off: the
octet that does not continue a sequence begins the next one.
-/

namespace AccessControl.Utf8

/-- A sequence of which at least one octet is owed. -/
structure Pending where
  /-- The bits read so far. -/
  value : Nat
  /-- The least octet that continues the sequence. -/
  low : UInt8
  /-- The greatest octet that continues the sequence. -/
  high : UInt8
  /-- How many octets follow the next one. -/
  after : Nat

/-- What a first octet starts: a whole character, a longer sequence, or nothing. -/
inductive Start where
  /-- A character of one octet, or U+FFFD for an octet that starts no sequence. -/
  | char (c : Char)
  /-- A sequence of several octets. -/
  | sequence (p : Pending)

/-- The character shown for octets that are not UTF-8. -/
def replacement : Char := '\ufffd'

/-- Reads the first octet of a sequence. The bounds on the second octet exclude overlong forms,
surrogates and numbers beyond U+10FFFF. -/
def start (b : UInt8) : Start :=
  let n := b.toNat
  if n ≤ 0x7f then .char (Char.ofNat n)
  else if 0xc2 ≤ n ∧ n ≤ 0xdf then .sequence ⟨n % 32, 0x80, 0xbf, 0⟩
  else if n = 0xe0 then .sequence ⟨0, 0xa0, 0xbf, 1⟩
  else if n = 0xed then .sequence ⟨n % 16, 0x80, 0x9f, 1⟩
  else if 0xe1 ≤ n ∧ n ≤ 0xef then .sequence ⟨n % 16, 0x80, 0xbf, 1⟩
  else if n = 0xf0 then .sequence ⟨0, 0x90, 0xbf, 2⟩
  else if 0xf1 ≤ n ∧ n ≤ 0xf3 then .sequence ⟨n % 8, 0x80, 0xbf, 2⟩
  else if n = 0xf4 then .sequence ⟨4, 0x80, 0x8f, 2⟩
  else .char replacement

/-- The characters of the octets that follow the open sequence, if one is open. -/
def lossyFrom : Option Pending → Bytes → List Char
  | none, [] => []
  | some _, [] => [replacement]
  | none, b :: rest =>
    match start b with
    | .char c => c :: lossyFrom none rest
    | .sequence p => lossyFrom (some p) rest
  | some p, b :: rest =>
    if p.low ≤ b ∧ b ≤ p.high then
      let value := p.value * 64 + b.toNat % 64
      match p.after with
      | 0 => Char.ofNat value :: lossyFrom none rest
      | after + 1 => lossyFrom (some ⟨value, 0x80, 0xbf, after⟩) rest
    else
      -- The sequence breaks off, and this octet starts the next one.
      match start b with
      | .char c => replacement :: c :: lossyFrom none rest
      | .sequence q => replacement :: lossyFrom (some q) rest

/-- `bytes` as text, with U+FFFD in place of what is not UTF-8. -/
def lossy (bytes : Bytes) : String :=
  String.ofList (lossyFrom none bytes)

end AccessControl.Utf8
