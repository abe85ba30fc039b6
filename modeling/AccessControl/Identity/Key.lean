import AccessControl.Crypto.Signature
import AccessControl.Encoding.Base58
import AccessControl.Encoding.Hex
import AccessControl.Identity.Did

/-!
# Keys and the identifiers issued from them

The identifier of a public key is `did:key:z` and, in Base58, a two-octet header that names the type
of the key followed by the key's octets. `PublicKey.did` issues it and `PublicKey.ofDidText` reads
it back; the same key always has the same identifier.
-/

namespace AccessControl

namespace KeyType

/-- The name of a key type. -/
def name : KeyType → String
  | ed25519 => "ed25519"
  | secp256k1 => "secp256k1"

/-- The name of a key type's signature algorithm in tokens. -/
def algorithm : KeyType → String
  | ed25519 => "EdDSA"
  | secp256k1 => "ES256K"

/-- The header that marks a key of the type. -/
def header : KeyType → UInt8 × UInt8
  | ed25519 => (0xed, 0x01)
  | secp256k1 => (0xe7, 0x01)

/-- The name of a key type with a capital, as descriptions of secrets show it. -/
def title : KeyType → String
  | ed25519 => "Ed25519"
  | secp256k1 => "Secp256k1"

end KeyType

/-- What is wrong with the octets of a key. -/
inductive KeyDefect where
  /-- There are not as many octets as a key has. -/
  | length (expected actual : Nat)
  /-- There are not as many octets as a compressed key has. -/
  | compressedLength (expected actual : Nat)
  /-- The signature scheme does not accept them. -/
  | refused
  deriving DecidableEq

/-- Key material that cannot be used. -/
inductive KeyError where
  /-- No key type has the name. -/
  | unsupportedType (name : String)
  /-- The octets are no key of the type. -/
  | invalidKey (type : KeyType) (defect : KeyDefect)
  deriving DecidableEq

namespace KeyError

/-- The reason why octets are no key. -/
def reason (type : KeyType) : KeyDefect → String
  | .length expected actual => s!"expected {expected} bytes, got {actual}"
  | .compressedLength expected actual => s!"expected {expected} compressed bytes, got {actual}"
  | .refused =>
    match type with
    | .ed25519 => "signature error: Cannot decompress Edwards point"
    | .secp256k1 => "signature error"

/-- The error in words. -/
def message : KeyError → String
  | unsupportedType name => "unsupported key type: " ++ name
  | invalidKey type defect => "invalid " ++ type.name ++ " key: " ++ reason type defect

/-- Unusable key material is bad input. -/
def kind (_ : KeyError) : ErrorKind := .badInput

end KeyError

/-- The key type with a given name: its own, one with a capital, or the ledger's type URL. -/
def KeyType.ofName (name : String) : Except KeyError KeyType :=
  if name ∈ ["ed25519", "Ed25519", "/cosmos.crypto.ed25519.PubKey"] then .ok .ed25519
  else if name ∈ ["secp256k1", "Secp256k1", "/cosmos.crypto.secp256k1.PubKey"] then .ok .secp256k1
  else .error (.unsupportedType name)

/-- An identifier of the method `key` from which no key can be read. -/
inductive DidKeyError where
  /-- The identifier is of another method. -/
  | notDidKey (source : String)
  /-- The mark of Base58 is missing. -/
  | missingBase58Mark
  /-- What follows is not Base58, or too short for a header. -/
  | invalidBase58
  /-- The header names no known key type. -/
  | unsupportedHeader (first second : UInt8)
  /-- The octets after the header are no key. -/
  | key (error : KeyError)
  deriving DecidableEq

namespace DidKeyError

/-- The error in words. -/
def message : DidKeyError → String
  | notDidKey source => "not a did:key: " ++ source
  | missingBase58Mark => "missing base58 prefix 'z'"
  | invalidBase58 => "invalid base58 encoding"
  | unsupportedHeader first second =>
    "unsupported multicodec header 0x" ++ Hex.ofNat first.toNat 2 ++ " 0x" ++
      Hex.ofNat second.toNat 2
  | key error => error.message

/-- An unreadable identifier is bad input. -/
def kind (_ : DidKeyError) : ErrorKind := .badInput

end DidKeyError

/-- A key that signatures are checked with. -/
structure PublicKey where
  type : KeyType
  /-- The key in the form in which its scheme keeps it. -/
  octets : Bytes
  deriving DecidableEq

namespace PublicKey

variable [SignatureSuite]

/-- The key of a given type with the given octets. -/
def ofOctets (type : KeyType) (octets : Bytes) : Except KeyError PublicKey :=
  if type = .ed25519 ∧ octets.length ≠ 32 then
    .error (.invalidKey type (.length 32 octets.length))
  else
    match (SignatureSuite.scheme type).publicKey? octets with
    | some octets => .ok ⟨type, octets⟩
    | none => .error (.invalidKey type .refused)

/-- The key whose type has the given name. -/
def ofParts (typeName : String) (octets : Bytes) : Except KeyError PublicKey := do
  ofOctets (← KeyType.ofName typeName) octets

/-- Whether a signature of a message holds under the key. -/
def verify (key : PublicKey) (message signature : Bytes) : Bool :=
  (SignatureSuite.scheme key.type).verify key.octets message signature

omit [SignatureSuite] in
/-- The header and the octets of the key. -/
def tagged (key : PublicKey) : Bytes :=
  key.type.header.1 :: key.type.header.2 :: key.octets

omit [SignatureSuite] in
/-- The identifier of the key, as text. -/
def didText (key : PublicKey) : String :=
  "did:key:z" ++ Base58.encode key.tagged

/-- What follows a text at the start of another. -/
def after? (start text : List Char) : Option (List Char) :=
  if start.isPrefixOf text then some (text.drop start.length) else none

/-- The key that an identifier of the method `key` was issued from. -/
def ofDidText (source : String) : Except DidKeyError PublicKey := do
  let some encoded := after? "did:key:".toList source.toList
    | .error (.notDidKey source)
  let some encoded := after? ['z'] encoded
    | .error .missingBase58Mark
  let some (first :: second :: octets) := Base58.decodeChars? encoded
    | .error .invalidBase58
  if (first, second) = KeyType.ed25519.header then
    (ofOctets .ed25519 octets).mapError .key
  else if (first, second) = KeyType.secp256k1.header then
    -- The length leaves out the uncompressed form, which keys are otherwise read from as well.
    if octets.length ≠ 33 then
      .error (.key (.invalidKey .secp256k1 (.compressedLength 33 octets.length)))
    else (ofOctets .secp256k1 octets).mapError .key
  else .error (.unsupportedHeader first second)

omit [SignatureSuite] in
theorem isBlank_base58Digit (n : Nat) : Text.isBlank (Base58.digit n) = false := by
  have hall : (Base58.alphabet.all fun c => !Text.isBlank c) = true := by decide
  unfold Base58.digit
  rw [List.getD_eq_getElem?_getD]
  cases h : Base58.alphabet[n]? with
  | none => decide
  | some c => simpa using List.all_eq_true.1 hall c (List.mem_of_getElem? h)

omit [SignatureSuite] in
theorem defect?_didText (key : PublicKey) : Did.defect? key.didText.toList = none := by
  have hchars : key.didText.toList =
      'd' :: 'i' :: 'd' :: ':' :: 'k' :: 'e' :: 'y' :: ':' :: 'z' ::
        (Base58.encode key.tagged).toList := by
    simp [didText]
  have hblank : ((Base58.encode key.tagged).toList.any Text.isBlank) = false := by
    rw [List.any_eq_false]
    intro c hc
    simp only [Base58.encode, String.toList_ofList, List.mem_append, List.mem_map] at hc
    rcases hc with ⟨_, _, rfl⟩ | ⟨n, _, rfl⟩
    · decide
    · simp [isBlank_base58Digit]
  rw [hchars]
  simp only [Did.defect?, List.takeWhile, List.dropWhile]
  simp [hblank, Text.isBlank]

omit [SignatureSuite] in
/-- The identifier of the key. -/
def did (key : PublicKey) : Did :=
  ⟨key.didText, key.defect?_didText⟩

end PublicKey

/-- The identifier of the key whose type has the given name. -/
def issueDid [SignatureSuite] (typeName : String) (octets : Bytes) : Except KeyError Did := do
  return (← PublicKey.ofParts typeName octets).did

/-- A key that signs. -/
structure SigningKey where
  type : KeyType
  secret : Bytes

namespace SigningKey

variable [SignatureSuite]

/-- The key with a given secret. -/
def ofSecret (type : KeyType) (secret : Bytes) : Except KeyError SigningKey :=
  if (SignatureSuite.scheme type).isSecret secret then .ok ⟨type, secret⟩
  else .error (.invalidKey type .refused)

/-- The key with which signatures of this one are checked. -/
def publicKey (key : SigningKey) : PublicKey :=
  ⟨key.type, (SignatureSuite.scheme key.type).publicOf key.secret⟩

/-- The identifier of the key. -/
def did (key : SigningKey) : Did :=
  key.publicKey.did

/-- The signature of a message. -/
def sign (key : SigningKey) (message : Bytes) : Bytes :=
  (SignatureSuite.scheme key.type).sign key.secret message

/-- A description of the key that does not show its secret. -/
def description (key : SigningKey) : String :=
  "SigningKey \x7b key_type: " ++ key.type.title ++ ", did: " ++ key.did.text ++ ", .. \x7d"

end SigningKey

end AccessControl
