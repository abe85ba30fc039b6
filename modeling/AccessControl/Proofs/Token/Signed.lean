import AccessControl.Proofs.Json.Record
import AccessControl.Proofs.Time.Text
import AccessControl.Proofs.Token.Bearer
import AccessControl.Token.Signed

/-!
# Which signed commands are valid

`SignedCommand.Valid` lists what must hold of a text for it to carry a signed command at a height:
the text is a token, its payload has the fields of a signed command and no others, the actor that is
named signed it, and the height is within the window. `SignedCommand.authenticate_eq_ok_iff` says
that nothing less and nothing more is checked. The token that a key signs for a command is such a
text, as long as the signature holds under the key of the actor and the command can be read back
(`SignedCommand.valid_sign`). What it carries then is the signed command with the time that a clock
shows.

The last valid height is computed with a sum that saturates. No height is beyond the largest word,
so the window is that of the sum of the numbers (`SignedCommand.lastValidHeight_lt_iff`).
-/

namespace AccessControl

namespace SignedPayload

/-- The names of the fields. -/
def names : List String :=
  ["policy_id", "actor", "cmd", "issued_at", "issued_height", "expiration_delta"]

theorem ofJson?_eq_some_iff {json : Json} {payload : SignedPayload} :
    ofJson? json = some payload ↔
      ∃ record, json.record? names .refuse = some record ∧
        record.field? "policy_id" Json.text? = some payload.policyId ∧
        record.field? "actor" Json.text? = some payload.actor ∧
        record.field? "cmd" (Json.settle? (Json.maxDepth - 1)) = some payload.command ∧
        record.field? "issued_at" Instant.ofJson? = some payload.issuedAt ∧
        record.field? "issued_height" Json.uint64? = some payload.issuedHeight ∧
        record.field? "expiration_delta" Json.uint64? = some payload.expirationDelta := by
  simp only [ofJson?, Option.bind_eq_bind, Option.bind_eq_some_iff, Option.pure_def,
    Option.some.injEq]
  constructor
  · rintro ⟨record, hrecord, _, hpolicy, _, hactor, _, hcommand, _, hissued, _, hheight, _, hdelta,
      rfl⟩
    exact ⟨record, hrecord, hpolicy, hactor, hcommand, hissued, hheight, hdelta⟩
  · rintro ⟨record, hrecord, hpolicy, hactor, hcommand, hissued, hheight, hdelta⟩
    exact ⟨record, hrecord, _, hpolicy, _, hactor, _, hcommand, _, hissued, _, hheight, _, hdelta,
      rfl⟩

end SignedPayload

namespace SignedCommand

/-- The signed command with the time that a clock shows. -/
def civil (signed : SignedCommand) : SignedCommand :=
  { signed with issuedAt := signed.issuedAt.civil }

theorem civil_eq_self_iff {signed : SignedCommand} :
    signed.civil = signed ↔ signed.issuedAt.IsCivil := by
  rw [← Instant.civil_eq_self_iff]
  constructor
  · exact congrArg issuedAt
  · intro h
    rw [civil, h]

theorem toJson_civil (signed : SignedCommand) : signed.civil.toJson = signed.toJson := by
  rw [toJson, civil, Instant.toJson_civil, toJson]

/-- A height is past the window if it is past the sum of the numbers. -/
theorem lastValidHeight_lt_iff {signed : SignedCommand} {height : UInt64} :
    signed.lastValidHeight < height ↔
      signed.issuedHeight.toNat + signed.expirationDelta.toNat < height.toNat := by
  have hheight := height.toNat_lt
  have hmax : UInt64.size = 2 ^ 64 := rfl
  rw [UInt64.lt_iff_toNat_lt, lastValidHeight, Word.toNat_addSaturating]
  omega

variable [SignatureSuite]

/-- What a text must be to carry a signed command that is valid in a block. -/
inductive Valid (source : String) (resolver : Resolver) (now : Timestamp) (params : Params)
    (signed : SignedCommand) : Prop where
  | intro {token : Jws} {json : Json} {record : Json.Record} {settled : Json}
      (written : Jws.Writes source token)
      (payload : Json.parse? token.payload = some json)
      (strict : json.record? SignedPayload.names .refuse = some record)
      (policyId : record.field? "policy_id" Json.text? = some signed.policyId)
      (actor : record.field? "actor" Json.text? = some signed.actor.text)
      (content : record.field? "cmd" (Json.settle? (Json.maxDepth - 1)) = some settled)
      (command : Command.ofSettled settled = .ok signed.command)
      (issuedAt : record.field? "issued_at" Instant.ofJson? = some signed.issuedAt)
      (issuedHeight : record.field? "issued_height" Json.uint64? = some signed.issuedHeight)
      (delta : record.field? "expiration_delta" Json.uint64? = some signed.expirationDelta)
      -- The window is not too long.
      (delta_le : signed.expirationDelta ≤ params.maxExpirationDelta)
      -- The block lies within the window.
      (height_le : now.height.toNat ≤ signed.issuedHeight.toNat + signed.expirationDelta.toNat)
      (signed : token.SignedBy signed.actor resolver)

/-- **A signed command is accepted exactly if it is valid.** -/
theorem authenticate_eq_ok_iff {source : String} {resolver : Resolver} {now : Timestamp}
    {params : Params} {signed : SignedCommand} :
    authenticate source resolver now params = .ok signed ↔
      Valid source resolver now params signed := by
  simp only [authenticate, bind_eq_ok_iff, mapError_eq_ok_iff, Jws.ofText_eq_ok_iff]
  constructor
  · rintro ⟨jws, hwritten, h⟩
    split at h
    · rename_i payload hpayload
      simp only [bind_eq_ok_iff, mapError_eq_ok_iff, Did.ofText_eq_ok_iff] at h
      obtain ⟨actor, hactor, ⟨⟩, hverify, command, hcommand, h⟩ := h
      split at h
      · cases h
      · rename_i hdelta
        split at h
        · cases h
        · rename_i hheight
          cases h
          obtain ⟨json, hjson, hfields⟩ := Option.bind_eq_some_iff.mp hpayload
          obtain ⟨record, hrecord, hpolicy, hname, hcontent, hissued, hissuedHeight,
            hexpirationDelta⟩ := SignedPayload.ofJson?_eq_some_iff.mp hfields
          rw [hactor] at hname
          rw [lastValidHeight_lt_iff, Nat.not_lt] at hheight
          exact .intro hwritten hjson hrecord hpolicy hname hcontent hcommand hissued hissuedHeight
            hexpirationDelta (UInt64.not_lt.mp hdelta) hheight (Jws.verify_eq_ok_iff.mp hverify)
    · cases h
  · rintro ⟨hwritten, hjson, hrecord, hpolicy, hname, hcontent, hcommand, hissued, hissuedHeight,
      hexpirationDelta, hdelta, hheight, hsigned⟩
    rename_i jws json record settled
    have hpayload : jws.claims? SignedPayload.ofJson? = some {
        policyId := signed.policyId
        actor := signed.actor.text
        command := settled
        issuedAt := signed.issuedAt
        issuedHeight := signed.issuedHeight
        expirationDelta := signed.expirationDelta } := by
      rw [Jws.claims?, hjson, Option.bind_some, SignedPayload.ofJson?_eq_some_iff]
      exact ⟨record, hrecord, hpolicy, hname, hcontent, hissued, hissuedHeight, hexpirationDelta⟩
    refine ⟨jws, hwritten, ?_⟩
    rw [hpayload]
    simp only [bind_eq_ok_iff, mapError_eq_ok_iff, Did.ofText_eq_ok_iff]
    refine ⟨signed.actor, rfl, (), Jws.verify_eq_ok_iff.mpr hsigned, signed.command, hcommand, ?_⟩
    rw [if_neg (UInt64.not_lt.mpr hdelta), if_neg]
    rw [lastValidHeight_lt_iff]
    exact Nat.not_lt.mpr hheight

/-- The token of a command that its actor signed is valid, if the command can be read back, and
carries it with the time that a clock shows. -/
theorem valid_sign {signed : SignedCommand} {key : SigningKey} {resolver : Resolver}
    {now : Timestamp} {params : Params} {settled : Json}
    (hcontent : Json.settle? (Json.maxDepth - 1) signed.command.toJson = some settled)
    (hcommand : Command.ofSettled settled = .ok signed.command)
    (hdelta : signed.expirationDelta ≤ params.maxExpirationDelta)
    (hheight : now.height.toNat ≤ signed.issuedHeight.toNat + signed.expirationDelta.toNat)
    (hsigned : Jws.SignedBy {
      header := ⟨key.type.algorithm, some "JWT"⟩
      signingInput := Jws.signingInputOf signed.toJson key.type
      payload := signed.toJson.render
      signature := key.sign (.ofText (Jws.signingInputOf signed.toJson key.type)) }
      signed.actor resolver) :
    Valid (signed.sign key) resolver now params signed.civil := by
  have hwritten := Jws.writes_sign signed.toJson key
  have hpayload := Json.parse?_render signed.toJson
  have hrecord : signed.toJson.record? SignedPayload.names .refuse = some
      [("policy_id", .ofText signed.policyId), ("actor", signed.actor.toJson),
        ("cmd", signed.command.toJson), ("issued_at", signed.issuedAt.toJson),
        ("issued_height", .ofUInt64 signed.issuedHeight),
        ("expiration_delta", .ofUInt64 signed.expirationDelta)] := by
    unfold toJson SignedPayload.names
    exact Json.record?_ofMembers (by simp) (by simp)
  apply Valid.intro hwritten hpayload hrecord
  case command => exact hcommand
  case content => simpa using hcontent
  case delta_le => exact hdelta
  case height_le => exact hheight
  case signed => exact hsigned
  case actor => simp [Did.toJson, civil]
  all_goals simp [civil]

end SignedCommand

end AccessControl
