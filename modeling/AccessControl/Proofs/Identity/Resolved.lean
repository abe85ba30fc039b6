import AccessControl.Identity.Resolver
import AccessControl.Proofs.Encoding.Base58
import AccessControl.Proofs.Identity.Issued

/-!
# Issued identifiers resolve to their keys

The identifier that is issued from a key carries the header of the key's type and the key's octets,
so the key is read back from it (`PublicKey.ofDidText_didText`) and the resolver of the method `key`
publishes that key and no other (`Resolver.resolve_key_did`). So an identifier identifies its key
(`PublicKey.did_identifies_key`).

A scheme is relied on for two things: a key is decoded from the octets that it is kept in, and those
octets are as many as keys of the type have. The second tells the compressed form of a key from the
forms that are not read from identifiers. The keys of the real schemes always have that length
(`SigningKey.length_octets_publicKey`).
-/

namespace AccessControl

/-- How many octets a key of the type has in an identifier. -/
def KeyType.keyLength : KeyType → Nat
  | ed25519 => 32
  | secp256k1 => 33

/-- The first octet of its header tells a key type. -/
theorem KeyType.eq_of_header {type type' : KeyType} (h : type.header.1 = type'.header.1) :
    type = type' := by
  cases type <;> cases type'
  · rfl
  · exact absurd h (by decide)
  · exact absurd h (by decide)
  · rfl

/-! ### The real schemes -/

/-- The public keys of the real schemes have the length of their type. -/
theorem SigningKey.length_octets_publicKey (key : SigningKey) :
    key.publicKey.octets.length = key.type.keyLength := by
  obtain ⟨type, secret⟩ := key
  cases type with
  | ed25519 => exact Bytes.length_littleEndian 32 _
  | secp256k1 => exact congrArg (· + 1) (Bytes.length_bigEndian 32 _)

namespace PublicKey

variable [SignatureSuite]

omit [SignatureSuite] in
theorem after?_append (start rest : List Char) : after? start (start ++ rest) = some rest := by
  simp [after?]

/-- The scheme decodes a key from the octets that it is kept in. -/
structure Encoded (key : PublicKey) : Prop where
  length_octets : key.octets.length = key.type.keyLength
  publicKey?_octets : (SignatureSuite.scheme key.type).publicKey? key.octets = some key.octets

theorem ofOctets_octets {key : PublicKey} (h : key.Encoded) :
    ofOctets key.type key.octets = .ok key := by
  have hlength : ¬ (key.type = .ed25519 ∧ key.octets.length ≠ 32) := by
    rintro ⟨htype, hne⟩
    rw [h.length_octets, htype] at hne
    exact hne rfl
  rw [ofOctets, if_neg hlength, h.publicKey?_octets]

omit [SignatureSuite] in
theorem length_tagged_le {key : PublicKey} (h : key.octets.length = key.type.keyLength) :
    key.tagged.length ≤ Base58.maxLength := by
  rw [tagged, List.length_cons, List.length_cons, h]
  cases key.type <;> decide

omit [SignatureSuite] in
/-- Keys with octets of the length of their types have different identifiers if they differ. -/
theorem didText_inj {key other : PublicKey} (h : key.octets.length = key.type.keyLength)
    (h' : other.octets.length = other.type.keyLength) (htext : key.didText = other.didText) :
    key = other := by
  have hencoded : Base58.encode key.tagged = Base58.encode other.tagged := by
    have hchars := congrArg String.toList htext
    rw [didText, didText, String.toList_append, String.toList_append] at hchars
    exact String.toList_inj.mp (List.append_cancel_left hchars)
  have htagged := Base58.encode_inj (length_tagged_le h) (length_tagged_le h') hencoded
  obtain ⟨type, octets⟩ := key
  obtain ⟨type', octets'⟩ := other
  rw [tagged, tagged, List.cons.injEq, List.cons.injEq] at htagged
  obtain ⟨hfirst, -, rfl⟩ := htagged
  obtain rfl : type = type' := KeyType.eq_of_header hfirst
  rfl

/-- What is read from the identifier of a type and octets is what is read from the octets. -/
theorem ofDidText_didText_eq {key : PublicKey} (h : key.octets.length = key.type.keyLength) :
    ofDidText key.didText = (ofOctets key.type key.octets).mapError .key := by
  have hchars : key.didText.toList =
      "did:key:".toList ++ ['z'] ++ (Base58.encode key.tagged).toList := by
    simp [didText]
  have hstart : after? "did:key:".toList key.didText.toList =
      some (['z'] ++ (Base58.encode key.tagged).toList) := by
    rw [hchars, List.append_assoc, after?_append]
  have hdecoded : Base58.decodeChars? (Base58.encode key.tagged).toList =
      some (key.type.header.1 :: key.type.header.2 :: key.octets) :=
    Base58.decodeChars?_encode (length_tagged_le h)
  unfold ofDidText
  rw [hstart]
  simp only [after?_append, hdecoded]
  obtain ⟨type, octets⟩ := key
  cases type with
  | ed25519 =>
    rw [if_pos rfl]
  | secp256k1 =>
    have hother : KeyType.secp256k1.header ≠ KeyType.ed25519.header := by decide
    have hlength : octets.length = 33 := h
    rw [if_neg hother, if_pos rfl, if_neg (not_not.mpr hlength)]

/-- **A key is read back from its identifier.** -/
theorem ofDidText_didText {key : PublicKey} (h : key.Encoded) :
    ofDidText key.didText = .ok key := by
  rw [ofDidText_didText_eq h.length_octets, ofOctets_octets h]
  rfl

omit [SignatureSuite] in
theorem method_did (key : PublicKey) : key.did.method = "key" := by
  have hchars : key.did.afterScheme = 'k' :: 'e' :: 'y' :: ':' :: key.afterColon := by
    rw [Did.afterScheme, toList_text_did]
    rfl
  rw [Did.method, hchars]
  rfl

end PublicKey

/-- An issued identifier resolves to the key that it was issued from, and to no other key. -/
theorem Resolver.resolve_key_did [SignatureSuite] {key : PublicKey} (h : key.Encoded) :
    Resolver.key.resolve key.did =
      .ok ⟨key.did, [⟨key.did.text ++ "#" ++ key.did.identifier, key.did, key⟩]⟩ := by
  have hread : PublicKey.ofDidText key.did.text = .ok key := PublicKey.ofDidText_didText h
  simp only [Resolver.key, PublicKey.method_did, if_true, hread]

/-- **Identifiers identify keys**: what is issued from a key is an identifier, the key is read back
from it and is the only one that its document publishes, and keys that differ in their type or in
their octets have different identifiers. -/
theorem PublicKey.did_identifies_key [SignatureSuite] {key : PublicKey} (h : key.Encoded) :
    Did.ofText key.didText = .ok key.did ∧
      PublicKey.ofDidText key.did.text = .ok key ∧
      (∃ document method, Resolver.key.resolve key.did = .ok document ∧
        document.id = key.did ∧ document.methods = [method] ∧
        document.firstMethod = .ok method ∧ method.key = key) ∧
      ∀ other : PublicKey, other.octets.length = other.type.keyLength →
        (other.type ≠ key.type ∨ other.octets ≠ key.octets) → other.did ≠ key.did := by
  refine ⟨Did.ofText_text key.did, ofDidText_didText h,
    ⟨_, _, Resolver.resolve_key_did h, rfl, rfl, rfl, rfl⟩, ?_⟩
  intro other hlength hdiffer hdid
  have hsame : other = key := didText_inj hlength h.length_octets (congrArg Did.text hdid)
  cases hsame
  rcases hdiffer with htype | hoctets
  · exact htype rfl
  · exact hoctets rfl

/-- The keys of one secret in both schemes have different identifiers. -/
theorem PublicKey.did_identifies_key_of_secret :
    let ledger := (⟨.secp256k1, List.replicate 32 21⟩ : SigningKey).publicKey
    let edwards := (⟨.ed25519, List.replicate 32 21⟩ : SigningKey).publicKey
    ledger.Encoded ∧ edwards.Encoded ∧ ofDidText ledger.did.text = .ok ledger ∧
      edwards.did ≠ ledger.did := by
  intro ledger edwards
  have hledger : ledger.Encoded := ⟨SigningKey.length_octets_publicKey _, by decide +kernel⟩
  have hedwards : edwards.Encoded := ⟨SigningKey.length_octets_publicKey _, by decide +kernel⟩
  obtain ⟨-, hread, -, hdiffer⟩ := did_identifies_key hledger
  have htype : edwards.type ≠ ledger.type := nofun
  exact ⟨hledger, hedwards, hread, hdiffer edwards hedwards.length_octets (.inl htype)⟩

end AccessControl
