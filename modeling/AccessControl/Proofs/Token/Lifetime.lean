import AccessControl.Proofs.Account.Address
import AccessControl.Proofs.Json.Record
import AccessControl.Proofs.Token.Issued
import AccessControl.Proofs.Token.Replay

/-!
# From when to when a bearer token is accepted

A token is made with two instants and written with the seconds that they lie in. Who reads it sees
the start of these seconds, so the last instant in which it is accepted is the start of the second
in which it was to expire (`Instant.startOfSecond`), and that is the instant itself only if it has
no nanoseconds.

`BearerToken.authenticate_sign` says how the token that a key signs is answered at any time and for
any signer: up to this instant the authorized account acts in the name of the key's identifier and
every other signer is refused, and after it the token has expired for all of them.
`BearerRequest.authenticate_built` says this of a token that is built, whichever way its expiry was
given. `BearerToken.authenticate_fraction` is a token that has expired before its last instant.
-/

namespace AccessControl

namespace Instant

/-- The start of the second in which an instant lies. -/
def startOfSecond (t : Instant) : Instant :=
  ⟨t.second, 0, t.second_ge, t.second_le, Nat.zero_lt_of_lt t.nano_lt⟩

theorem ofSecond?_second (t : Instant) : ofSecond? t.second = some t.startOfSecond := by
  rw [ofSecond?, ofParts?, dif_pos ⟨t.second_ge, t.second_le, by decide⟩]
  rfl

theorem startOfSecond_eq_self_iff {t : Instant} : t.startOfSecond = t ↔ t.nano = 0 := by
  constructor
  · intro h
    exact (congrArg nano h).symm
  · intro h
    obtain ⟨second, nano, _, _, _⟩ := t
    cases h
    rfl

theorem second_le_of_le {s t : Instant} (h : s ≤ t) : s.second ≤ t.second := by
  have hle : ¬ (t.second < s.second ∨ (t.second = s.second ∧ t.nano < s.nano)) := h
  omega

/-- The second of an instant is read back from JSON. -/
theorem int64?_second (t : Instant) : (Json.integer t.second).int64? = some t.second := by
  have hge := t.second_ge
  have hle := t.second_le
  rw [Json.int64?, if_pos]
  exact ⟨by unfold Word.minSigned; omega, by unfold Word.maxSigned; omega⟩

end Instant

namespace BearerToken

/-- The claims of a token are read back, the instants as seconds. -/
theorem ofJson?_toJson (token : BearerToken) :
    BearerClaims.ofJson? token.toJson = some ⟨some token.issuer.text,
      some token.authorizedAccount.text, some token.issuedAt.second,
      some token.expiresAt.second⟩ := by
  have hrecord : token.toJson.record? BearerClaims.names .refuse = some
      [("iss", token.issuer.toJson), ("authorized_account", token.authorizedAccount.toJson),
        ("iat", .integer token.issuedAt.second), ("exp", .integer token.expiresAt.second)] := by
    unfold toJson BearerClaims.names
    exact Json.record?_ofMembers (by simp) (by simp)
  rw [BearerClaims.ofJson?_eq_some_iff]
  refine ⟨_, hrecord, ?_, ?_, ?_, ?_⟩
  · simp [Did.toJson]
  · simp [Address.toJson]
  · simp [Instant.int64?_second]
  · simp [Instant.int64?_second]

/-- What the claims of a token say: what the token says, but for the fractions of its seconds. -/
theorem token_claims {token : BearerToken} {params : Params}
    (haccount : token.authorizedAccount.IsObtained)
    (hreadable : token.authorizedAccount.readable = params.addressReadable)
    (horder : token.issuedAt ≤ token.expiresAt) :
    BearerClaims.token ⟨some token.issuer.text, some token.authorizedAccount.text,
        some token.issuedAt.second, some token.expiresAt.second⟩ params =
      .ok ⟨token.issuer, token.authorizedAccount, token.issuedAt.startOfSecond,
        token.expiresAt.startOfSecond⟩ := by
  rw [BearerClaims.token_eq_ok_iff]
  refine ⟨_, _, _, rfl, ?_, Instant.ofSecond?_second _, Instant.ofSecond?_second _,
    Instant.second_le_of_le horder⟩
  have hread := (Address.isObtained_iff.mp haccount).ofText_text.1
  rw [Address.ofTextUnder, hread]
  exact if_pos hreadable

variable [SignatureSuite]

/-- How the token that a key signs is answered. -/
theorem authenticate_sign {token : BearerToken} {key : SigningKey} {params : Params}
    (hissuer : token.issuer = key.did) (hkey : key.publicKey.Encoded)
    (hverify : key.Verifies (.ofText (Jws.signingInputOf token.toJson key.type)))
    (haccount : token.authorizedAccount.IsObtained)
    (hreadable : token.authorizedAccount.readable = params.addressReadable)
    (horder : token.issuedAt ≤ token.expiresAt) (signer : Address) (now : Instant) :
    authenticate (token.sign key) .key signer now params =
      if token.expiresAt.startOfSecond < now then
        .error (.tokenExpired now token.expiresAt.startOfSecond)
      else if signer ≠ token.authorizedAccount then
        .error (.msgUnauthorized token.authorizedAccount signer)
      else .ok token.issuer := by
  obtain ⟨jws, hread, hpayload, hsigned⟩ : ∃ jws, Jws.ofText (token.sign key) = .ok jws ∧
      jws.payload = token.toJson.render ∧ jws.verify token.issuer .key = .ok () := by
    refine ⟨_, Jws.ofText_eq_ok_iff.mpr (Jws.writes_sign token.toJson key), rfl, ?_⟩
    rw [Jws.verify_eq_ok_iff, hissuer]
    exact Jws.signedBy_key hkey rfl hverify
  have hclaims := ofJson?_toJson token
  have hsaid := token_claims haccount hreadable horder
  simp only [authenticate, hread, Jws.claims?, hpayload, Json.parse?_render, Option.bind_some,
    hclaims, hsaid, hsigned, Except.mapError, bind, Except.bind]

end BearerToken

/-- **A built token is accepted for its account up to the start of the second in which it expires**,
and expired from then on; up to then every other signer is refused. The token expires in the instant
that was asked for if this has no nanoseconds, and before it otherwise. -/
theorem BearerRequest.authenticate_built [SignatureSuite] {key : SigningKey} {account : Address}
    {issuedAt expiresAt : Instant} {given : Option Instant} {validFor : Option Int}
    {params : Params}
    (hexpiry : expiry ⟨some key, some account, some issuedAt, given, validFor⟩ issuedAt =
      .ok expiresAt)
    (hkey : key.publicKey.Encoded)
    (hverify : key.Verifies (.ofText (Jws.signingInputOf
      (BearerToken.toJson ⟨key.did, account, issuedAt, expiresAt⟩) key.type)))
    (haccount : account.IsObtained) (hreadable : account.readable = params.addressReadable)
    (horder : issuedAt ≤ expiresAt) :
    (expiresAt.startOfSecond = expiresAt ↔ expiresAt.nano = 0) ∧
    ∃ token, build ⟨some key, some account, some issuedAt, given, validFor⟩ = .ok token ∧
      ∀ (signer : Address) (now : Instant),
        BearerToken.authenticate token .key signer now params =
          if expiresAt.startOfSecond < now then
            .error (.tokenExpired now expiresAt.startOfSecond)
          else if signer ≠ account then .error (.msgUnauthorized account signer)
          else .ok key.did := by
  refine ⟨Instant.startOfSecond_eq_self_iff,
    BearerToken.sign ⟨key.did, account, issuedAt, expiresAt⟩ key, ?_, ?_⟩
  · simp only [build, BuildError.require, bind, Except.bind, hexpiry]
    rfl
  · intro signer now
    exact BearerToken.authenticate_sign rfl hkey hverify haccount hreadable horder signer now

/-! ### A token that expires half a second after twenty past two -/

open SignedCommand (actorKey ofBlockThousand)

/-- An account of the default human-readable part. -/
def relayer : Address :=
  ⟨"source", List.replicate 20 1, "source1qyqszqgpqyqszqgpqyqszqgpqyqszqgp5qcqaz"⟩

/-- A token for this account that expires half a second after a second begins. -/
def BearerToken.ofHalfSecond : BearerToken where
  issuer := actorKey.did
  authorizedAccount := relayer
  issuedAt := ofBlockThousand.issuedAt
  expiresAt := ⟨1718634000, 500000000, by decide, by decide, by decide⟩

theorem isObtained_relayer : relayer.IsObtained := by
  have hmade : Address.ofOctets "source" (List.replicate 20 1) = .ok relayer := by decide +kernel
  exact .made hmade

theorem encoded_actorKey : actorKey.publicKey.Encoded :=
  ⟨actorKey.length_octets_publicKey, by decide +kernel⟩

theorem verifies_ofHalfSecond : actorKey.Verifies
    (.ofText (Jws.signingInputOf BearerToken.ofHalfSecond.toJson actorKey.type)) := by
  unfold SigningKey.Verifies
  decide +kernel

/-- The token is accepted as the second begins and refused half a second later. -/
theorem BearerRequest.authenticate_built_halfSecond :
    let expired : Instant := BearerToken.ofHalfSecond.expiresAt
    let second : Instant := ⟨1718634000, 0, by decide, by decide, by decide⟩
    let stranger : Address := { relayer with octets := [] }
    actorKey.publicKey.Encoded ∧
      actorKey.Verifies
        (.ofText (Jws.signingInputOf BearerToken.ofHalfSecond.toJson actorKey.type)) ∧
      relayer.IsObtained ∧ relayer.readable = Params.default.addressReadable ∧
      BearerToken.ofHalfSecond.issuedAt ≤ expired ∧
      ∃ token, build ⟨some actorKey, some relayer, some BearerToken.ofHalfSecond.issuedAt,
          some expired, none⟩ = .ok token ∧
        BearerToken.authenticate token .key relayer second .default = .ok actorKey.did ∧
        BearerToken.authenticate token .key stranger second .default =
          .error (.msgUnauthorized relayer stranger) ∧
        BearerToken.authenticate token .key relayer expired .default =
          .error (.tokenExpired expired second) := by
  intro expired second stranger
  have horder : BearerToken.ofHalfSecond.issuedAt ≤ expired := by decide
  have hexpiry : expiry ⟨some actorKey, some relayer, some BearerToken.ofHalfSecond.issuedAt,
      some expired, none⟩ BearerToken.ofHalfSecond.issuedAt = .ok expired := rfl
  have hreadable : relayer.readable = Params.default.addressReadable := rfl
  obtain ⟨-, token, hbuild, hanswer⟩ := authenticate_built hexpiry encoded_actorKey
    verifies_ofHalfSecond isObtained_relayer hreadable horder
  refine ⟨encoded_actorKey, verifies_ofHalfSecond, isObtained_relayer, hreadable, horder, token,
    hbuild, ?_, ?_, ?_⟩
  · rw [hanswer]
    rfl
  · rw [hanswer]
    rfl
  · rw [hanswer]
    rfl

/-- The last instant of the token is not one in which it is accepted. -/
theorem BearerToken.authenticate_fraction :
    let token := ofHalfSecond
    BearerRequest.build ⟨some actorKey, some relayer, some token.issuedAt, some token.expiresAt,
        none⟩ = .ok (token.sign actorKey) ∧
      token.issuedAt ≤ token.expiresAt ∧ token.expiresAt ≤ token.expiresAt ∧
      authenticate (token.sign actorKey) .key relayer token.expiresAt .default =
        .error (.tokenExpired token.expiresAt token.expiresAt.startOfSecond) := by
  intro token
  have horder : token.issuedAt ≤ token.expiresAt := by decide
  refine ⟨rfl, horder, by decide, ?_⟩
  rw [authenticate_sign rfl encoded_actorKey verifies_ofHalfSecond isObtained_relayer rfl horder]
  exact if_pos (by decide)

end AccessControl
