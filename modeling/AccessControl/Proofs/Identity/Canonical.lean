import AccessControl.Proofs.Action
import AccessControl.Proofs.Crypto.Secp256k1
import AccessControl.Proofs.Identity.Resolved

/-!
# From which identifiers a key is read

A text from which a key is read is an identifier of the key's type, in the one spelling that Base58
has, and of octets from which the scheme decodes the key (`PublicKey.ofDidText_eq_ok_iff`). So a key
has as many identifiers as its scheme has octets of the right length for it.

Of the real schemes, that of `ed25519` keeps the octets it is given. That of `secp256k1` decodes a
point from 33 octets in two forms: with the parity of `y` in the tag, and with the tag `5` for the
even one. The length leaves out only the uncompressed form, so a key with an even `y` is read from a
second identifier besides its own (`PublicKey.ofDidText_eq_ok_iff_spelling`), and from no third.
-/

namespace AccessControl.PublicKey

theorem after?_eq_some_iff {start text rest : List Char} :
    after? start text = some rest ↔ text = start ++ rest := by
  constructor
  · intro h
    unfold after? at h
    split at h
    · rename_i hstart
      obtain ⟨rest', rfl⟩ := List.isPrefixOf_iff_prefix.mp hstart
      rw [List.drop_left] at h
      rw [Option.some.inj h]
    · cases h
  · rintro rfl
    exact after?_append start rest

section

variable [SignatureSuite]

theorem ofOctets_eq_ok_iff {type : KeyType} {octets : Bytes} {key : PublicKey}
    (h : octets.length = type.keyLength) :
    ofOctets type octets = .ok key ↔
      key.type = type ∧ (SignatureSuite.scheme type).publicKey? octets = some key.octets := by
  have hlength : ¬ (type = .ed25519 ∧ octets.length ≠ 32) := by
    rintro ⟨rfl, hne⟩
    exact hne h
  obtain ⟨type', octets'⟩ := key
  rw [ofOctets, if_neg hlength]
  cases (SignatureSuite.scheme type).publicKey? octets with
  | none => simp
  | some kept => simp [eq_comm]

omit [SignatureSuite] in
/-- A text in Base58 after the two marks is the one that is written. -/
theorem eq_append_encode {source : String} {afterMethod encoded : List Char} {bytes : Bytes}
    (hmethod : after? "did:key:".toList source.toList = some afterMethod)
    (hmark : after? ['z'] afterMethod = some encoded)
    (hdecoded : Base58.decodeChars? encoded = some bytes) :
    source = "did:key:z" ++ Base58.encode bytes := by
  rw [after?_eq_some_iff] at hmethod hmark
  apply String.toList_inj.mp
  rw [String.toList_append, Base58.toList_encode_of_decodeChars? hdecoded, hmethod, hmark]
  rfl

/-- A text from which a key is read is an identifier of octets from which the key is read. -/
theorem exists_ofOctets_of_ofDidText {source : String} {key : PublicKey}
    (h : ofDidText source = .ok key) :
    ∃ (type : KeyType) (octets : Bytes), octets.length = type.keyLength ∧
      source = (⟨type, octets⟩ : PublicKey).didText ∧ ofOctets type octets = .ok key := by
  unfold ofDidText at h
  split at h
  case h_2 => cases h
  rename_i afterMethod hmethod
  split at h
  case h_2 => cases h
  rename_i encoded hmark
  split at h
  case h_2 => cases h
  rename_i first second octets hdecoded
  have hsource := eq_append_encode hmethod hmark hdecoded
  split at h
  · rename_i hheader
    cases hheader
    rw [mapError_eq_ok_iff] at h
    have hlength : octets.length = 32 := by
      by_contra hne
      rw [ofOctets, if_pos ⟨rfl, hne⟩] at h
      cases h
    exact ⟨.ed25519, octets, hlength, hsource, h⟩
  · split at h
    · rename_i hheader
      cases hheader
      split at h
      · cases h
      · rename_i hlength
        rw [mapError_eq_ok_iff] at h
        exact ⟨.secp256k1, octets, not_not.mp hlength, hsource, h⟩
    · cases h

/-- **A key is read from the identifiers of the octets that its scheme decodes it from.** -/
theorem ofDidText_eq_ok_iff {source : String} {key : PublicKey} :
    ofDidText source = .ok key ↔
      ∃ octets, octets.length = key.type.keyLength ∧
        source = (⟨key.type, octets⟩ : PublicKey).didText ∧
        (SignatureSuite.scheme key.type).publicKey? octets = some key.octets := by
  constructor
  · intro h
    obtain ⟨type, octets, hlength, rfl, hkey⟩ := exists_ofOctets_of_ofDidText h
    obtain ⟨rfl, hkept⟩ := (ofOctets_eq_ok_iff hlength).mp hkey
    exact ⟨octets, hlength, rfl, hkept⟩
  · rintro ⟨octets, hlength, rfl, hkept⟩
    rw [ofDidText_didText_eq hlength, (ofOctets_eq_ok_iff hlength).mpr ⟨rfl, hkept⟩]
    rfl

/-- An identifier resolves to the key that is read from it. -/
theorem exists_resolve_key_iff {did : Did} {key : PublicKey} :
    (∃ document method, Resolver.key.resolve did = .ok document ∧
      document.firstMethod = .ok method ∧ method.key = key) ↔ ofDidText did.text = .ok key := by
  constructor
  · rintro ⟨document, method, hresolve, hmethod, rfl⟩
    unfold Resolver.key at hresolve
    simp only at hresolve
    split at hresolve
    · split at hresolve
      · rename_i key hread
        cases hresolve
        cases hmethod
        exact hread
      · cases hresolve
    · cases hresolve
  · intro h
    obtain ⟨type, octets, -, htext, -⟩ := exists_ofOctets_of_ofDidText h
    have hdid : did = (⟨type, octets⟩ : PublicKey).did := Did.text_inj htext
    have hmethod : did.method = "key" := by
      rw [hdid, method_did]
    simp only [Resolver.key, hmethod, if_true, h]
    exact ⟨_, _, rfl, rfl, rfl⟩

end

/-! ### The real schemes -/

/-- The octets that a real scheme decodes a key from are those it keeps the key in, or they have the
tag `5` in place of `2`. -/
theorem publicKey?_eq_some_iff {type : KeyType} {octets kept : Bytes}
    (h : octets.length = type.keyLength) :
    (SignatureSuite.scheme type).publicKey? octets = some kept ↔
      (SignatureSuite.scheme type).publicKey? kept = some kept ∧
        (octets = kept ∨ type = .secp256k1 ∧ ∃ x, kept = 2 :: x ∧ octets = 5 :: x) := by
  cases type with
  | ed25519 =>
    show (if Ed25519.isPublicKey octets then some octets else none) = some kept ↔
      (if Ed25519.isPublicKey kept then some kept else none) = some kept ∧ _
    constructor
    · intro hkept
      split at hkept
      · rename_i hpublic
        cases hkept
        exact ⟨if_pos hpublic, .inl rfl⟩
      · cases hkept
    · rintro ⟨hkept, rfl | ⟨⟨⟩, -⟩⟩
      exact hkept
  | secp256k1 =>
    refine (Secp256k1.Point.map_encode_decode?_eq_some_iff h).trans
      (and_congr_right fun _ => or_congr_right ?_)
    exact (and_iff_right rfl).symm

/-- A key that is read from an identifier is decoded from the octets that it is kept in. -/
theorem encoded_of_ofDidText {source : String} {key : PublicKey}
    (h : ofDidText source = .ok key) : key.Encoded := by
  obtain ⟨octets, hlength, -, hkept⟩ := ofDidText_eq_ok_iff.mp h
  obtain ⟨hstable, hspelling⟩ := (publicKey?_eq_some_iff hlength).mp hkept
  refine ⟨?_, hstable⟩
  rcases hspelling with hsame | ⟨-, x, hkey, hoctets⟩
  · rwa [← hsame]
  · rw [hkey]
    rwa [hoctets] at hlength

/-- A key is read from its own identifier and from one other at most. -/
theorem ofDidText_eq_ok_iff_spelling {source : String} {key : PublicKey} :
    ofDidText source = .ok key ↔
      ofDidText key.didText = .ok key ∧
        (source = key.didText ∨
          ∃ x, key = ⟨.secp256k1, 2 :: x⟩ ∧
            source = (⟨.secp256k1, 5 :: x⟩ : PublicKey).didText) := by
  constructor
  · intro h
    refine ⟨ofDidText_didText (encoded_of_ofDidText h), ?_⟩
    obtain ⟨octets, hlength, rfl, hkept⟩ := ofDidText_eq_ok_iff.mp h
    obtain ⟨type, kept⟩ := key
    rcases ((publicKey?_eq_some_iff hlength).mp hkept).2 with rfl | ⟨rfl, x, rfl, rfl⟩
    · exact .inl rfl
    · exact .inr ⟨x, rfl, rfl⟩
  · rintro ⟨hown, rfl | ⟨x, rfl, rfl⟩⟩
    · exact hown
    · obtain ⟨hlength, hstable⟩ := encoded_of_ofDidText hown
      have hother : (5 :: x).length = KeyType.secp256k1.keyLength := hlength
      have hkept := (publicKey?_eq_some_iff hother).mpr ⟨hstable, .inr ⟨rfl, x, rfl, rfl⟩⟩
      exact ofDidText_eq_ok_iff.mpr ⟨5 :: x, hother, rfl, hkept⟩

/-- **A key is read from its own identifier and from one other at most**: the one with the tag `5`
in place of `2`, for a key of the curve `secp256k1` whose octets have the tag of an even `y`. Each
of these keys has the other identifier as well, so two identifiers resolve to one key only if they
are the two of such a key. -/
theorem identifiers_of_key (key : PublicKey) :
    (∀ source, ofDidText source = .ok key ↔
      ofDidText key.didText = .ok key ∧
        (source = key.didText ∨
          ∃ x, key = ⟨.secp256k1, 2 :: x⟩ ∧
            source = (⟨.secp256k1, 5 :: x⟩ : PublicKey).didText)) ∧
    (∀ x, key = ⟨.secp256k1, 2 :: x⟩ → ofDidText key.didText = .ok key →
      (⟨.secp256k1, 5 :: x⟩ : PublicKey).did ≠ key.did) ∧
    (∀ did, (∃ document method, Resolver.key.resolve did = .ok document ∧
        document.firstMethod = .ok method ∧ method.key = key) ↔
      ofDidText key.didText = .ok key ∧
        (did = key.did ∨
          ∃ x, key = ⟨.secp256k1, 2 :: x⟩ ∧ did = (⟨.secp256k1, 5 :: x⟩ : PublicKey).did)) := by
  refine ⟨fun source => ofDidText_eq_ok_iff_spelling, ?_, ?_⟩
  · rintro x rfl hown hdid
    have hlength := (encoded_of_ofDidText hown).length_octets
    have hsame : (⟨.secp256k1, 5 :: x⟩ : PublicKey) = ⟨.secp256k1, 2 :: x⟩ :=
      didText_inj hlength hlength (congrArg Did.text hdid)
    cases hsame
  · intro did
    have htext (other : PublicKey) : did.text = other.didText ↔ did = other.did :=
      ⟨fun h => Did.text_inj h, congrArg Did.text⟩
    rw [exists_resolve_key_iff, ofDidText_eq_ok_iff_spelling]
    simp only [htext]

/-- The base point has two identifiers, which resolve to one key. -/
theorem identifiers_of_basePoint :
    let x := Bytes.bigEndian 32 Secp256k1.Point.base.x
    let key : PublicKey := ⟨.secp256k1, 2 :: x⟩
    let other : PublicKey := ⟨.secp256k1, 5 :: x⟩
    other.didText = "did:key:zQ3siPHybEXv6ampKAfUUmcq1fMTh8XypNg3RBRFiyb1Yh6Py" ∧
      ofDidText other.didText = .ok key ∧ key.didText ≠ other.didText := by
  decide +kernel

end AccessControl.PublicKey
