import AccessControl.Crypto.Sha2
import AccessControl.Encoding.Base64
import AccessControl.Encoding.Hex
import AccessControl.Json.Basic

/-!
# Digests

A digest is the SHA-256 of a message: exactly 32 octets. The nodes and roots of Merkle trees are
digests. In messages a digest is hexadecimal, in JSON it is padded Base64 like any other octets.
-/

namespace AccessControl

/-- Octets in JSON are padded Base64. -/
def Bytes.toJson (octets : Bytes) : Json :=
  .ofText (Base64.standard.encode octets)

/-- Reads octets from JSON. -/
def Bytes.ofJson? (json : Json) : Option Bytes := do
  Base64.standard.decode? (← json.text?)

/-- A digest of 32 octets. -/
structure Digest where
  octets : Bytes
  length_octets : octets.length = 32
  deriving DecidableEq

namespace Digest

/-- The number of octets of a digest. -/
def size : Nat := 32

/-- The digest with the given octets, if there are 32 of them. -/
def ofOctets? (octets : Bytes) : Option Digest :=
  if h : octets.length = 32 then some ⟨octets, h⟩ else none

/-- The digest of a message. -/
def ofMessage (message : Bytes) : Digest :=
  ⟨sha256 message, length_sha256 message⟩

/-- The digest of a message that is given in parts. -/
def ofParts (parts : List Bytes) : Digest :=
  ofMessage parts.flatten

/-- A digest in messages. -/
def text (digest : Digest) : String :=
  Hex.encode digest.octets

/-- A digest with the name of its kind. -/
def description (digest : Digest) : String :=
  "Sha256Hash(" ++ digest.text ++ ")"

/-- A digest in JSON. -/
def toJson (digest : Digest) : Json :=
  Bytes.toJson digest.octets

/-- Reads a digest from JSON. -/
def ofJson? (json : Json) : Option Digest := do
  ofOctets? (← Bytes.ofJson? json)

@[simp] theorem ofOctets?_octets (digest : Digest) : ofOctets? digest.octets = some digest :=
  dif_pos digest.length_octets

theorem ofOctets?_eq_none_iff {octets : Bytes} : ofOctets? octets = none ↔ octets.length ≠ 32 := by
  simp [ofOctets?]

end Digest

end AccessControl
