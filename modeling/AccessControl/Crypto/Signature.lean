import AccessControl.Crypto.Ed25519
import AccessControl.Crypto.Secp256k1

/-!
# Signature schemes

What the rest of the library needs of a signature scheme, as a record of functions on octets.
Everything that signs or verifies takes the schemes from a `SignatureSuite`, so its laws can be
stated for any schemes that satisfy what they assume; the instance at the end holds the real ones.
-/

namespace AccessControl

/-- The types of keys that identifiers are issued from. -/
inductive KeyType where
  /-- Edwards-curve keys. -/
  | ed25519
  /-- The keys of ledger accounts. -/
  | secp256k1
  deriving DecidableEq, Repr

/-- The operations of a signature scheme. -/
structure SignatureScheme where
  /-- The octets in which a public key is kept, given any of its encodings. -/
  publicKey? : Bytes → Option Bytes
  /-- Whether octets are a secret key. -/
  isSecret : Bytes → Bool
  /-- The octets of the public key of a secret. -/
  publicOf : (secret : Bytes) → Bytes
  /-- The signature of a message under a secret. -/
  sign : (secret message : Bytes) → Bytes
  /-- Whether a signature of a message holds under a public key. -/
  verify : (key message signature : Bytes) → Bool

/-- A signature scheme for each type of key. -/
class SignatureSuite where
  scheme : KeyType → SignatureScheme

/-- EdDSA on the curve of Ed25519. -/
def SignatureScheme.ed25519 : SignatureScheme where
  publicKey? key := if Ed25519.isPublicKey key then some key else none
  isSecret secret := secret.length == 32
  publicOf := Ed25519.publicKey
  sign := Ed25519.sign
  verify := Ed25519.verify

/-- ECDSA with SHA-256 on the curve secp256k1. -/
def SignatureScheme.secp256k1 : SignatureScheme where
  publicKey? key := (Secp256k1.Point.decode? key).map Secp256k1.Point.encode
  isSecret := Secp256k1.isSecret
  publicOf := Secp256k1.publicKey
  sign := Secp256k1.sign
  verify := Secp256k1.verify

instance : SignatureSuite where
  scheme
    | .ed25519 => .ed25519
    | .secp256k1 => .secp256k1

end AccessControl
