import AccessControl.Proofs.Token.Signed

/-!
# For how long a signed command is accepted

Of the block, a signed command is held against nothing but the height. A token that is accepted in
one block is accepted in every block up to its last valid height, and expired in those after it
(`SignedCommand.authenticate_eq_ite`).

The parameters bound how far the last valid height lies beyond the height of issue, and nothing
bounds that height, which the actor writes. So a token cannot be sent again once more blocks than
the parameters allow have passed since one in which it was accepted, unless it is dated ahead of
that block (`SignedCommand.authenticate_eq_error_of_issuedHeight_le`). One that is dated ahead can
be sent at once and again as late as its actor likes (`SignedCommand.authenticate_dated_ahead`).
-/

namespace AccessControl.SignedCommand

section
variable [SignatureSuite] {source : String} {resolver : Resolver} {now : Timestamp}
  {params : Params} {signed : SignedCommand}

/-- What a token that was accepted once is answered in any block and under any parameters. -/
theorem authenticate_eq_ite_under (haccepted : authenticate source resolver now params = .ok signed)
    (later : Timestamp) (others : Params) :
    authenticate source resolver later others =
      if others.maxExpirationDelta < signed.expirationDelta then
        .error (.expirationDeltaTooLarge signed.expirationDelta others.maxExpirationDelta)
      else if signed.lastValidHeight < later.height then
        .error (.commandExpired signed.issuedHeight signed.expirationDelta later.height)
      else .ok signed := by
  unfold authenticate at haccepted
  simp only [bind_eq_ok_iff] at haccepted
  obtain ⟨jws, hjws, hpayload⟩ := haccepted
  split at hpayload
  · rename_i payload hclaims
    simp only [bind_eq_ok_iff] at hpayload
    obtain ⟨actor, hactor, verified, hverified, command, hcommand, hwindow⟩ := hpayload
    split at hwindow
    · cases hwindow
    · split at hwindow
      · cases hwindow
      · -- All that was read before the window is held against is read again.
        cases hwindow
        unfold authenticate
        simp only [hjws, hclaims, hactor, hverified, hcommand, bind, Except.bind]
  · cases hpayload

theorem expirationDelta_le (haccepted : authenticate source resolver now params = .ok signed) :
    signed.expirationDelta ≤ params.maxExpirationDelta := by
  obtain ⟨_, _, _, _, _, _, _, _, _, _, hdelta, _, _⟩ := authenticate_eq_ok_iff.mp haccepted
  exact hdelta

/-- **Once accepted, a token is accepted until it expires.** -/
theorem authenticate_eq_ite (haccepted : authenticate source resolver now params = .ok signed)
    (later : Timestamp) :
    authenticate source resolver later params =
      if signed.lastValidHeight < later.height then
        .error (.commandExpired signed.issuedHeight signed.expirationDelta later.height)
      else .ok signed := by
  rw [authenticate_eq_ite_under haccepted later params,
    if_neg (UInt64.not_lt.mpr (expirationDelta_le haccepted))]

/-- A token expires within as many blocks as the parameters allow exactly if its last valid height
is not beyond them. -/
theorem expires_iff (haccepted : authenticate source resolver now params = .ok signed) :
    (∀ later : Timestamp,
        now.height.toNat + params.maxExpirationDelta.toNat < later.height.toNat →
        authenticate source resolver later params =
          .error (.commandExpired signed.issuedHeight signed.expirationDelta later.height)) ↔
      signed.lastValidHeight.toNat ≤ now.height.toNat + params.maxExpirationDelta.toNat := by
  constructor
  · intro hexpires
    by_contra hbeyond
    -- The last valid height is itself a height at which the token is accepted.
    have hlast := authenticate_eq_ite haccepted ⟨now.wall, signed.lastValidHeight⟩
    have herror := hexpires ⟨now.wall, signed.lastValidHeight⟩ (Nat.not_le.mp hbeyond)
    rw [if_neg (UInt64.lt_irrefl _), herror] at hlast
    cases hlast
  · intro hlast later hlater
    have hpast : signed.lastValidHeight < later.height := by
      rw [UInt64.lt_iff_toNat_lt]
      omega
    rw [authenticate_eq_ite haccepted later, if_pos hpast]

/-- **A command that is not dated ahead is refused** once more blocks than the parameters allow have
passed since one in which it was accepted. -/
theorem authenticate_eq_error_of_issuedHeight_le {later : Timestamp}
    (haccepted : authenticate source resolver now params = .ok signed)
    (hissued : signed.issuedHeight ≤ now.height)
    (hlater : now.height.toNat + params.maxExpirationDelta.toNat < later.height.toNat) :
    authenticate source resolver later params =
      .error (.commandExpired signed.issuedHeight signed.expirationDelta later.height) := by
  have hissued := UInt64.le_iff_toNat_le.mp hissued
  have hdelta := UInt64.le_iff_toNat_le.mp (expirationDelta_le haccepted)
  have hlast : signed.lastValidHeight.toNat ≤
      now.height.toNat + params.maxExpirationDelta.toNat := by
    rw [lastValidHeight, Word.toNat_addSaturating]
    omega
  exact (expires_iff haccepted).mpr hlast later hlater

end

/-! ### A command that is dated in block 1000 -/

/-- The key of an actor. -/
def actorKey : SigningKey :=
  ⟨.ed25519, List.replicate 32 22⟩

/-- A command of this actor, dated in block 1000. -/
def ofBlockThousand : SignedCommand where
  policyId := "policy-1"
  actor := actorKey.did
  command := .registerObject ⟨"file", "readme"⟩
  issuedAt := ⟨1718632800, 0, by decide, by decide, by decide⟩
  issuedHeight := 1000
  expirationDelta := 5

theorem valid_ofBlockThousand {now : Timestamp} {params : Params}
    (hheight : now.height.toNat ≤ 1005) (hdelta : 5 ≤ params.maxExpirationDelta) :
    Valid (ofBlockThousand.sign actorKey) .key now params ofBlockThousand := by
  let token : Jws := {
    header := ⟨actorKey.type.algorithm, some "JWT"⟩
    signingInput := Jws.signingInputOf ofBlockThousand.toJson actorKey.type
    payload := ofBlockThousand.toJson.render
    signature :=
      actorKey.sign (.ofText (Jws.signingInputOf ofBlockThousand.toJson actorKey.type)) }
  have hverify : (token.verify ofBlockThousand.actor .key).isOk = true := by decide +kernel
  have hsigned : token.SignedBy ofBlockThousand.actor .key := by
    rw [← Jws.verify_eq_ok_iff]
    cases h : token.verify ofBlockThousand.actor .key with
    | ok => rfl
    | error =>
      rw [h] at hverify
      cases hverify
  have hcontent : Json.settle? (Json.maxDepth - 1) ofBlockThousand.command.toJson =
      some (.ofVariant "register_object" (.ofMembers [("object",
        .ofMembers [("id", .ofText "readme"), ("resource", .ofText "file")])])) := rfl
  rw [← civil_eq_self_iff.mpr (show ofBlockThousand.issuedAt.IsCivil by decide)]
  exact valid_sign hcontent rfl hdelta hheight hsigned

theorem authenticate_eq_error_of_issuedHeight_le_thousand :
    let token := ofBlockThousand.sign actorKey
    let params : Params := { Params.default with maxExpirationDelta := 5 }
    let now : Timestamp := ⟨ofBlockThousand.issuedAt, 1000⟩
    let later : Timestamp := ⟨ofBlockThousand.issuedAt, 1006⟩
    authenticate token .key now params = .ok ofBlockThousand ∧
      ofBlockThousand.issuedHeight ≤ now.height ∧
      now.height.toNat + params.maxExpirationDelta.toNat < later.height.toNat ∧
      authenticate token .key later params = .error (.commandExpired 1000 5 1006) := by
  intro token params now later
  have haccepted : authenticate token .key now params = .ok ofBlockThousand :=
    authenticate_eq_ok_iff.mpr (valid_ofBlockThousand (by decide) (by decide))
  have hissued : ofBlockThousand.issuedHeight ≤ now.height := by decide
  have hlater : now.height.toNat + params.maxExpirationDelta.toNat < later.height.toNat := by decide
  exact ⟨haccepted, hissued, hlater,
    authenticate_eq_error_of_issuedHeight_le haccepted hissued hlater⟩

/-- The same token is accepted already in block 10, and again when many more than five blocks have
passed since. -/
theorem authenticate_dated_ahead :
    let token := ofBlockThousand.sign actorKey
    let params : Params := { Params.default with maxExpirationDelta := 5 }
    let now : Timestamp := ⟨ofBlockThousand.issuedAt, 10⟩
    let later : Timestamp := ⟨ofBlockThousand.issuedAt, 1000⟩
    authenticate token .key now params = .ok ofBlockThousand ∧
      now.height.toNat + params.maxExpirationDelta.toNat < later.height.toNat ∧
      authenticate token .key later params = .ok ofBlockThousand := by
  intro token params now later
  have haccepted : authenticate token .key now params = .ok ofBlockThousand :=
    authenticate_eq_ok_iff.mpr (valid_ofBlockThousand (by decide) (by decide))
  have hagain : authenticate token .key later params = .ok ofBlockThousand :=
    authenticate_eq_ok_iff.mpr (valid_ofBlockThousand (by decide) (by decide))
  exact ⟨haccepted, by decide, hagain⟩

end AccessControl.SignedCommand
