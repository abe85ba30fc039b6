import AccessControl.Proofs.Command.RoundTrip
import AccessControl.Proofs.Identity.Resolved
import AccessControl.Proofs.Token.Replay

/-!
# Commands signed by their actor are accepted

A client makes the token of a signed command from a key and from what the command is to say
(`SignedRequest.build`). Who reads the token knows none of that: the actor is named in the payload,
the key is found in the actor's identifier, and the command is read back from the value that it was
settled to. `SignedRequest.authenticate_build` says that the two sides agree. The token is answered
with what was signed in every block up to the last valid one, and expired in every later block; and
if the window is longer than the parameters allow, the token is refused for that in every block. The
time of signing passes through its text, so it is returned as a clock shows it.

The schemes are relied on for a key that is decoded from its own octets (`PublicKey.Encoded`) and
for a signature that holds under the public key of the secret that made it (`SigningKey.Verifies`).
-/

namespace AccessControl

section
variable [SignatureSuite]

/-- The signature that a key makes of a message holds under its public key. -/
def SigningKey.Verifies (key : SigningKey) (message : Bytes) : Prop :=
  key.publicKey.verify message (key.sign message) = true

/-- The signature of a token is that of the key whose identifier names its actor. -/
theorem Jws.signedBy_key {key : SigningKey} {token : Jws} (hkey : key.publicKey.Encoded)
    (hsignature : token.signature = key.sign (.ofText token.signingInput))
    (hverify : key.Verifies (.ofText token.signingInput)) : token.SignedBy key.did .key := by
  refine ⟨_, _, _, Resolver.resolve_key_did hkey, rfl, ?_⟩
  rw [hsignature]
  exact hverify

/-- How the token of a signed command is answered. -/
theorem SignedCommand.authenticate_sign {signed : SignedCommand} {key : SigningKey}
    (hactor : signed.actor = key.did) (hkey : key.publicKey.Encoded)
    (hverify : key.Verifies (.ofText (Jws.signingInputOf signed.toJson key.type)))
    (now : Timestamp) (params : Params) :
    authenticate (signed.sign key) .key now params =
      if params.maxExpirationDelta < signed.expirationDelta then
        .error (.expirationDeltaTooLarge signed.expirationDelta params.maxExpirationDelta)
      else if signed.issuedHeight.toNat + signed.expirationDelta.toNat < now.height.toNat then
        .error (.commandExpired signed.issuedHeight signed.expirationDelta now.height)
      else .ok signed.civil := by
  obtain ⟨settled, hcontent, hcommand⟩ := Command.exists_settle?_toJson 120 signed.command
  -- The first block, and parameters that allow the window, accept the token.
  let wide : Params := { params with maxExpirationDelta := signed.expirationDelta }
  have hvalid : Valid (signed.sign key) .key ⟨now.wall, 0⟩ wide signed.civil := by
    apply valid_sign hcontent hcommand (UInt64.le_refl _) (Nat.zero_le _)
    rw [hactor]
    exact Jws.signedBy_key hkey rfl hverify
  have haccepted := authenticate_eq_ok_iff.mpr hvalid
  simp only [authenticate_eq_ite_under haccepted now params, lastValidHeight_lt_iff]
  rfl

/-- **A command that is signed with the key of its actor is accepted** in every block of its window
and in no other, with all that was signed. The time at which it was signed is returned as a clock
shows it, which is the same one exactly if a clock can show it. -/
theorem SignedRequest.authenticate_build {key : SigningKey} {policyId : String} {command : Command}
    {issuedAt : Timestamp} {delta : UInt64} (hkey : key.publicKey.Encoded)
    (hverify : key.Verifies (.ofText (Jws.signingInputOf (SignedCommand.toJson
      ⟨policyId, key.did, command, issuedAt.wall, issuedAt.height, delta⟩) key.type))) :
    ∃ token,
      build ⟨some key, some policyId, some command, some issuedAt, some delta⟩ = .ok token ∧
      (∀ (now : Timestamp) (params : Params), SignedCommand.authenticate token .key now params =
        if params.maxExpirationDelta < delta then
          .error (.expirationDeltaTooLarge delta params.maxExpirationDelta)
        else if issuedAt.height.toNat + delta.toNat < now.height.toNat then
          .error (.commandExpired issuedAt.height delta now.height)
        else .ok ⟨policyId, key.did, command, issuedAt.wall.civil, issuedAt.height, delta⟩) ∧
      (issuedAt.wall.civil = issuedAt.wall ↔ issuedAt.wall.IsCivil) := by
  refine ⟨_, rfl, ?_, Instant.civil_eq_self_iff⟩
  intro now params
  exact SignedCommand.authenticate_sign rfl hkey hverify now params

end

/-! ### A command of a ledger account -/

/-- The key of a ledger account. -/
def ledgerKey : SigningKey :=
  ⟨.secp256k1, List.replicate 32 21⟩

theorem encoded_ledgerKey : ledgerKey.publicKey.Encoded :=
  ⟨ledgerKey.length_octets_publicKey, by decide +kernel⟩

namespace SignedCommand

/-- A command that the account signs at some time. -/
def ofLedger (issuedAt : Instant) : SignedCommand :=
  ⟨"policy-1", ledgerKey.did, .registerObject ⟨"file", "readme"⟩, issuedAt, 100, 5⟩

/-- Half a second into a leap second after 14:00:30. -/
def unshown : Instant :=
  ⟨1718632830, 1500000000, by decide, by decide, by decide⟩

/-- What a clock shows then. -/
def shown : Instant :=
  unshown.civil

/-- It is half a second past 14:00:31. -/
example : (shown.second, shown.nano) = (1718632831, 500000000) := by decide

theorem verifies_ofLedger : ledgerKey.Verifies
    (.ofText (Jws.signingInputOf (ofLedger shown).toJson .secp256k1)) := by
  unfold SigningKey.Verifies
  decide +kernel

end SignedCommand

namespace SignedRequest

open SignedCommand

theorem authenticate_build_ledgerKey :
    let signed := ofLedger shown
    let narrow : Params := { Params.default with maxExpirationDelta := 4 }
    ledgerKey.publicKey.Encoded ∧
      ledgerKey.Verifies (.ofText (Jws.signingInputOf signed.toJson .secp256k1)) ∧
      ∃ token,
        build ⟨some ledgerKey, some signed.policyId, some signed.command, some ⟨shown, 100⟩,
          some 5⟩ = .ok token ∧
        authenticate token .key ⟨shown, 105⟩ .default = .ok signed ∧
        authenticate token .key ⟨shown, 106⟩ .default = .error (.commandExpired 100 5 106) ∧
        authenticate token .key ⟨shown, 100⟩ narrow =
          .error (.expirationDeltaTooLarge 5 4) := by
  intro signed narrow
  have hcivil : shown.civil = shown := Instant.civil_eq_self_iff.mpr unshown.isCivil_civil
  obtain ⟨token, hbuild, hanswer, -⟩ := @authenticate_build _ ledgerKey signed.policyId
    signed.command ⟨shown, 100⟩ 5 encoded_ledgerKey verifies_ofLedger
  refine ⟨encoded_ledgerKey, verifies_ofLedger, token, hbuild, ?_, ?_, ?_⟩
  · rw [hanswer, hcivil]
    rfl
  · rw [hanswer]
    rfl
  · rw [hanswer]
    rfl

/-- A command that is signed within a leap second that no clock shows is accepted with another time
than the signed one. -/
theorem authenticate_build_leap :
    let signed := ofLedger unshown
    ledgerKey.publicKey.Encoded ∧
      ledgerKey.Verifies (.ofText (Jws.signingInputOf signed.toJson .secp256k1)) ∧
      ∃ token,
        build ⟨some ledgerKey, some signed.policyId, some signed.command,
          some ⟨unshown, 100⟩, some 5⟩ = .ok token ∧
        authenticate token .key ⟨shown, 100⟩ .default = .ok (ofLedger shown) ∧
        ofLedger shown ≠ signed := by
  intro signed
  have htext : (ofLedger shown).toJson = signed.toJson := toJson_civil signed
  have hverify : ledgerKey.Verifies (.ofText (Jws.signingInputOf signed.toJson .secp256k1)) := by
    rw [← htext]
    exact verifies_ofLedger
  refine ⟨encoded_ledgerKey, hverify, signed.sign ledgerKey, rfl, ?_, ?_⟩
  · rw [authenticate_sign rfl encoded_ledgerKey hverify]
    rfl
  · intro h
    exact absurd (congrArg SignedCommand.issuedAt h) (by decide)

end SignedRequest

end AccessControl
