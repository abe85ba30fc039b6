import AccessControl.Proofs.Token.Checks
import AccessControl.Proofs.Token.Lifetime

/-!
# What is reported of a token

`BearerToken.checked_authenticate` and `SignedCommand.checked_authenticate` say that a token is
answered with the first of its checks that fails. Step by step, a check fails with an error exactly
if the program does, so the checks follow one another as the steps do.

The signature comes before the time, the account, the command and the window. So errors about these
are heard of by nobody who cannot sign as the actor that the token names:
`authenticate_reports_first`.
-/

namespace AccessControl

/-! ### Bearer tokens -/

theorem Address.ofTextUnder_eq_ok_iff {readable text : String} {address : Address} :
    ofTextUnder readable text = .ok address ↔
      ofText text = .ok address ∧ address.readable = readable := by
  rw [ofTextUnder, bind_eq_ok_iff]
  constructor
  · rintro ⟨found, hfound, hunder⟩
    split at hunder
    · rename_i hreadable
      cases hunder
      exact ⟨hfound, hreadable⟩
    · cases hunder
  · rintro ⟨hread, rfl⟩
    exact ⟨address, hread, if_pos rfl⟩

namespace BearerCheck

variable [SignatureSuite] {source : String} {resolver : Resolver} {signer : Address}
  {now : Instant} {params : Params} {token : Jws} {claims : BearerClaims} {other : AuthError}

theorem fails_token_iff {check : JwsCheck} :
    Fails source resolver signer now params (.token check) other ↔
      JwsCheck.Fails source resolver BearerClaims.ofJson? BearerClaims.issuer
        (.invalidBearerToken .claims) check other := by
  constructor
  · rintro ⟨h⟩
    exact h
  · exact .token

theorem fails_made_iff {α : Type} {claim : BearerClaim} {found : Option α}
    (h : Jws.Carries BearerClaims.ofJson? source token claims)
    (hfound : claims.makes claim = found.isSome) :
    Fails source resolver signer now params (.made claim) other ↔
      BearerClaims.require claim found = .error other := by
  constructor
  · intro hfails
    cases hfails with
    | made hcarries hmade =>
      obtain ⟨-, rfl⟩ := h.eq hcarries
      cases found with
      | none => rfl
      | some value => cases hfound.symm.trans hmade
  · intro hrequire
    cases found with
    | none =>
      cases hrequire
      exact .made h hfound
    | some value => cases hrequire

theorem fails_issuer_iff {text : String}
    (h : Jws.Carries BearerClaims.ofJson? source token claims)
    (hissuer : claims.issuer = some text) :
    Fails source resolver signer now params .issuer other ↔
      (Did.ofText text).mapError (.invalidIssuer text) = .error other := by
  rw [mapError_eq_error_iff]
  constructor
  · intro hfails
    cases hfails with
    | issuer hcarries hissuer' hdid =>
      obtain ⟨-, rfl⟩ := h.eq hcarries
      obtain rfl := Option.some.inj (hissuer.symm.trans hissuer')
      exact ⟨_, hdid, rfl⟩
  · rintro ⟨error, hdid, rfl⟩
    exact .issuer h hissuer hdid

theorem fails_inCalendar_iff {claim : BearerClaim} {seconds : Int}
    (h : Jws.Carries BearerClaims.ofJson? source token claims)
    (hseconds : claims.seconds? claim = some seconds) :
    Fails source resolver signer now params (.inCalendar claim) other ↔
      BearerClaims.instant claim seconds = .error other := by
  unfold BearerClaims.instant
  constructor
  · intro hfails
    cases hfails with
    | inCalendar hcarries hseconds' hinstant =>
      obtain ⟨-, rfl⟩ := h.eq hcarries
      obtain rfl := Option.some.inj (hseconds.symm.trans hseconds')
      rw [hinstant]
  · intro hinstant
    split at hinstant
    · cases hinstant
    · rename_i hnone
      cases hinstant
      exact .inCalendar h hseconds hnone

theorem fails_order_iff {issuedAt expiresAt : Instant}
    (h : Jws.Carries BearerClaims.ofJson? source token claims)
    (hissued : claims.time? .issuedAt = some issuedAt)
    (hexpires : claims.time? .expiresAt = some expiresAt) :
    Fails source resolver signer now params .order other ↔
      expiresAt < issuedAt ∧
        AuthError.invalidBearerToken (.expiresFirst expiresAt issuedAt) = other := by
  constructor
  · intro hfails
    cases hfails with
    | order hcarries hissued' hexpires' hlt =>
      obtain ⟨-, rfl⟩ := h.eq hcarries
      obtain rfl := Option.some.inj (hissued.symm.trans hissued')
      obtain rfl := Option.some.inj (hexpires.symm.trans hexpires')
      exact ⟨hlt, rfl⟩
  · rintro ⟨hlt, rfl⟩
    exact .order h hissued hexpires hlt

theorem fails_expiry_iff {expiresAt : Instant}
    (h : Jws.Carries BearerClaims.ofJson? source token claims)
    (hexpires : claims.time? .expiresAt = some expiresAt) :
    Fails source resolver signer now params .expiry other ↔
      expiresAt < now ∧ AuthError.tokenExpired now expiresAt = other := by
  constructor
  · intro hfails
    cases hfails with
    | expiry hcarries hexpires' hlt =>
      obtain ⟨-, rfl⟩ := h.eq hcarries
      obtain rfl := Option.some.inj (hexpires.symm.trans hexpires')
      exact ⟨hlt, rfl⟩
  · rintro ⟨hlt, rfl⟩
    exact .expiry h hexpires hlt

theorem fails_signer_iff {text : String} {account : Address}
    (h : Jws.Carries BearerClaims.ofJson? source token claims)
    (htext : claims.authorizedAccount = some text) (haccount : Address.ofText text = .ok account) :
    Fails source resolver signer now params .signer other ↔
      signer ≠ account ∧ AuthError.msgUnauthorized account signer = other := by
  constructor
  · intro hfails
    cases hfails with
    | signer hcarries htext' haccount' hne =>
      obtain ⟨-, rfl⟩ := h.eq hcarries
      obtain rfl := Option.some.inj (htext.symm.trans htext')
      obtain rfl := Except.ok.inj (haccount.symm.trans haccount')
      exact ⟨hne, rfl⟩
  · rintro ⟨hne, rfl⟩
    exact .signer h htext haccount hne

theorem fails_account_iff {text : String}
    (h : Jws.Carries BearerClaims.ofJson? source token claims)
    (htext : claims.authorizedAccount = some text) :
    Fails source resolver signer now params .account other ↔
      ∃ error, Address.ofText text = .error error ∧
        AuthError.invalidAuthorizedAccount text error = other := by
  constructor
  · intro hfails
    cases hfails with
    | account hcarries htext' haccount =>
      obtain ⟨-, rfl⟩ := h.eq hcarries
      obtain rfl := Option.some.inj (htext.symm.trans htext')
      exact ⟨_, haccount, rfl⟩
  · rintro ⟨error, haccount, rfl⟩
    exact .account h htext haccount

theorem fails_readable_iff {text : String} {account : Address}
    (h : Jws.Carries BearerClaims.ofJson? source token claims)
    (htext : claims.authorizedAccount = some text) (haccount : Address.ofText text = .ok account) :
    Fails source resolver signer now params .readable other ↔
      account.readable ≠ params.addressReadable ∧
        AuthError.invalidAuthorizedAccount text
          (.unexpectedReadable params.addressReadable account.readable) = other := by
  constructor
  · intro hfails
    cases hfails with
    | readable hcarries htext' haccount' hne =>
      obtain ⟨-, rfl⟩ := h.eq hcarries
      obtain rfl := Option.some.inj (htext.symm.trans htext')
      obtain rfl := Except.ok.inj (haccount.symm.trans haccount')
      exact ⟨hne, rfl⟩
  · rintro ⟨hne, rfl⟩
    exact .readable h htext haccount hne

/-- An account is read, and then held against the human-readable part of the chain. -/
theorem checked_account {text : String}
    (h : Jws.Carries BearerClaims.ofJson? source token claims)
    (htext : claims.authorizedAccount = some text) :
    Checked (Fails source resolver signer now params) [.account, .readable]
      ((Address.ofTextUnder params.addressReadable text).mapError
        (.invalidAuthorizedAccount text)) := by
  unfold Address.ofTextUnder
  cases hresult : Address.ofText text with
  | error error =>
    refine .fails fun other => ?_
    simp [fails_account_iff h htext, hresult]
  | ok account =>
    refine .passes (fun other => by simp [fails_account_iff h htext, hresult]) ?_
    apply Checked.of_iff
    intro other
    rw [mapError_eq_error_iff, fails_readable_iff h htext hresult]
    by_cases hreadable : account.readable = params.addressReadable <;>
      simp [bind, Except.bind, hreadable]

/-- What the claims say is checked claim by claim: which ones are made, what each of them says, and
how the times agree. -/
theorem checked_claims (h : Jws.Carries BearerClaims.ofJson? source token claims) :
    Checked (Fails source resolver signer now params) ofClaims (claims.token params) := by
  unfold BearerClaims.token
  -- All four claims are asked for before any of them is looked at.
  apply Checked.bind (.of_iff fun _ => fails_made_iff h rfl)
  intro issuer hissuer
  apply Checked.bind (.of_iff fun _ => fails_made_iff h rfl)
  intro text htext
  apply Checked.bind (.of_iff fun _ => fails_made_iff h rfl)
  intro iat hiat
  apply Checked.bind (.of_iff fun _ => fails_made_iff h rfl)
  intro exp hexp
  rw [BearerClaims.require_eq_ok_iff] at hissuer htext hiat hexp
  have hiat : claims.seconds? .issuedAt = some iat := hiat
  have hexp : claims.seconds? .expiresAt = some exp := hexp
  apply Checked.bind (.of_iff fun _ => fails_issuer_iff h hissuer)
  intro did _
  show Checked _ ([account, readable] ++ [inCalendar .issuedAt, inCalendar .expiresAt, order]) _
  apply Checked.bind (checked_account h htext)
  intro address _
  apply Checked.bind (.of_iff fun _ => fails_inCalendar_iff h hiat)
  intro issuedAt hissued
  apply Checked.bind (.of_iff fun _ => fails_inCalendar_iff h hexp)
  intro expiresAt hexpires
  rw [BearerClaims.instant_eq_ok_iff] at hissued hexpires
  have hissued : claims.time? .issuedAt = some issuedAt :=
    Option.bind_eq_some_iff.mpr ⟨iat, hiat, hissued⟩
  have hexpires : claims.time? .expiresAt = some expiresAt :=
    Option.bind_eq_some_iff.mpr ⟨exp, hexp, hexpires⟩
  exact .guard (fun _ => fails_order_iff h hissued hexpires) fun _ => .passed

end BearerCheck

/-- **A bearer token is answered with the first check that fails**, or with its issuer. -/
theorem BearerToken.checked_authenticate [SignatureSuite] {source : String} {resolver : Resolver}
    {signer : Address} {now : Instant} {params : Params} :
    Checked (BearerCheck.Fails source resolver signer now params) BearerCheck.inOrder
      (authenticate source resolver signer now params) := by
  unfold authenticate
  apply Checked.bind (.of_iff fun _ => BearerCheck.fails_token_iff.trans JwsCheck.fails_form_iff)
  intro jws hjws
  rw [mapError_eq_ok_iff] at hjws
  have hpayload : ∀ other, BearerCheck.Fails source resolver signer now params (.token .payload)
      other ↔ jws.claims? BearerClaims.ofJson? = none ∧ .invalidBearerToken .claims = other :=
    fun _ => BearerCheck.fails_token_iff.trans (JwsCheck.fails_payload_iff hjws)
  cases hclaims : jws.claims? BearerClaims.ofJson? with
  | none =>
    refine .fails fun other => ?_
    rw [hpayload, and_iff_right hclaims]
  | some claims =>
    have h : Jws.Carries BearerClaims.ofJson? source jws claims := ⟨hjws, hclaims⟩
    refine .passes (fun other => by simp [hpayload, hclaims]) ?_
    apply Checked.bind (BearerCheck.checked_claims h)
    intro token htoken
    obtain ⟨text, iat, exp, rfl, haddress, -, hexpires, -⟩ :=
      BearerClaims.token_eq_ok_iff.mp htoken
    apply Checked.bind (Jws.checked_verify
      (fun _ => BearerCheck.fails_token_iff.trans (JwsCheck.fails_resolution_iff h rfl))
      (fun _ => BearerCheck.fails_token_iff.trans (JwsCheck.fails_signature_iff h rfl)))
    -- From here on the signature holds.
    intro _ _
    refine .guard (fun _ => BearerCheck.fails_expiry_iff h hexpires) fun _ => ?_
    have haccount := (Address.ofTextUnder_eq_ok_iff.mp haddress).1
    exact .guard (fun _ => BearerCheck.fails_signer_iff h rfl haccount) fun _ => .passed

/-- Errors that follow the signature are those of the last two checks. -/
theorem BearerCheck.not_fails_of_mem_ofActor [SignatureSuite] {source : String}
    {resolver : Resolver} {signer : Address} {now : Instant} {params : Params} {error : AuthError}
    (hafter : error.followsSignature = true) :
    ∀ check ∈ ofActor, ¬ Fails source resolver signer now params check error := by
  intro check hmem hfails
  cases hfails with
  | expiry => exact absurd hmem (by decide)
  | signer => exact absurd hmem (by decide)
  | token h => cases h <;> cases hafter
  | _ => cases hafter

/-- If none of the checks up to the one of the signature fails, the issuer signed the token. -/
theorem BearerCheck.exists_signedBy [SignatureSuite] {source : String} {resolver : Resolver}
    {signer : Address} {now : Instant} {params : Params}
    (h : ∀ check ∈ ofActor, ∀ error, ¬ Fails source resolver signer now params check error) :
    ∃ token claims did, Jws.Carries BearerClaims.ofJson? source token claims ∧
      claims.issuer = some did.text ∧ token.SignedBy did resolver := by
  apply JwsCheck.exists_signedBy
  case h =>
    intro check error hfails
    exact h (.token check) (by cases check <;> decide) error (.token hfails)
  case hsigner =>
    intro token claims hcarries
    cases hissuer : claims.issuer with
    | none =>
      have hmade : claims.makes .issuer = false := by simp [BearerClaims.makes, hissuer]
      exact absurd (.made hcarries hmade) (h (.made .issuer) (by decide) _)
    | some text =>
      cases hdid : Did.ofText text with
      | error error => exact absurd (.issuer hcarries hissuer hdid) (h .issuer (by decide) _)
      | ok did => exact ⟨did, congrArg some (Did.ofText_eq_ok_iff.mp hdid)⟩

/-! ### Signed commands -/

namespace SignedCheck

variable [SignatureSuite] {source : String} {resolver : Resolver} {now : Timestamp}
  {params : Params} {token : Jws} {payload : SignedPayload} {other : AuthError}

theorem fails_token_iff {check : JwsCheck} :
    Fails source resolver now params (.token check) other ↔
      JwsCheck.Fails source resolver SignedPayload.ofJson? (fun payload => some payload.actor)
        .invalidPayload check other := by
  constructor
  · rintro ⟨h⟩
    exact h
  · exact .token

theorem fails_actor_iff (h : Jws.Carries SignedPayload.ofJson? source token payload) :
    Fails source resolver now params .actor other ↔
      (Did.ofText payload.actor).mapError (.invalidActor payload.actor) = .error other := by
  rw [mapError_eq_error_iff]
  constructor
  · intro hfails
    cases hfails with
    | actor hcarries hdid =>
      obtain ⟨-, rfl⟩ := h.eq hcarries
      exact ⟨_, hdid, rfl⟩
  · rintro ⟨error, hdid, rfl⟩
    exact .actor h hdid

theorem fails_command_iff (h : Jws.Carries SignedPayload.ofJson? source token payload) :
    Fails source resolver now params .command other ↔
      (Command.ofSettled payload.command).mapError .command = .error other := by
  rw [mapError_eq_error_iff]
  constructor
  · intro hfails
    cases hfails with
    | command hcarries hcommand =>
      obtain ⟨-, rfl⟩ := h.eq hcarries
      exact ⟨_, hcommand, rfl⟩
  · rintro ⟨error, hcommand, rfl⟩
    exact .command h hcommand

theorem fails_delta_iff (h : Jws.Carries SignedPayload.ofJson? source token payload) :
    Fails source resolver now params .delta other ↔
      params.maxExpirationDelta < payload.expirationDelta ∧
        .expirationDeltaTooLarge payload.expirationDelta params.maxExpirationDelta = other := by
  constructor
  · intro hfails
    cases hfails with
    | delta hcarries hlt =>
      obtain ⟨-, rfl⟩ := h.eq hcarries
      exact ⟨hlt, rfl⟩
  · rintro ⟨hlt, rfl⟩
    exact .delta h hlt

theorem fails_height_iff (h : Jws.Carries SignedPayload.ofJson? source token payload) :
    Fails source resolver now params .height other ↔
      payload.issuedHeight.toNat + payload.expirationDelta.toNat < now.height.toNat ∧
        .commandExpired payload.issuedHeight payload.expirationDelta now.height = other := by
  constructor
  · intro hfails
    cases hfails with
    | height hcarries hlt =>
      obtain ⟨-, rfl⟩ := h.eq hcarries
      exact ⟨hlt, rfl⟩
  · rintro ⟨hlt, rfl⟩
    exact .height h hlt

end SignedCheck

/-- **A signed command is answered with the first check that fails**, or is accepted. -/
theorem SignedCommand.checked_authenticate [SignatureSuite] {source : String} {resolver : Resolver}
    {now : Timestamp} {params : Params} :
    Checked (SignedCheck.Fails source resolver now params) SignedCheck.inOrder
      (authenticate source resolver now params) := by
  unfold authenticate
  apply Checked.bind (.of_iff fun _ => SignedCheck.fails_token_iff.trans JwsCheck.fails_form_iff)
  intro jws hjws
  rw [mapError_eq_ok_iff] at hjws
  have hform : ∀ other, SignedCheck.Fails source resolver now params (.token .payload) other ↔
      jws.claims? SignedPayload.ofJson? = none ∧ .invalidPayload = other :=
    fun _ => SignedCheck.fails_token_iff.trans (JwsCheck.fails_payload_iff hjws)
  cases hpayload : jws.claims? SignedPayload.ofJson? with
  | none =>
    refine .fails fun other => ?_
    rw [hform, and_iff_right hpayload]
  | some payload =>
    have h : Jws.Carries SignedPayload.ofJson? source jws payload := ⟨hjws, hpayload⟩
    refine .passes (fun other => by simp [hform, hpayload]) ?_
    apply Checked.bind (.of_iff fun _ => SignedCheck.fails_actor_iff h)
    intro actor hactor
    rw [mapError_eq_ok_iff, Did.ofText_eq_ok_iff] at hactor
    have hactor := congrArg some hactor
    apply Checked.bind (Jws.checked_verify
      (fun _ => SignedCheck.fails_token_iff.trans (JwsCheck.fails_resolution_iff h hactor))
      (fun _ => SignedCheck.fails_token_iff.trans (JwsCheck.fails_signature_iff h hactor)))
    -- From here on the signature holds.
    intro _ _
    apply Checked.bind (.of_iff fun _ => SignedCheck.fails_command_iff h)
    intro command _
    refine .guard (fun _ => SignedCheck.fails_delta_iff h) fun _ => ?_
    refine .guard (fun _ => ?_) fun _ => .passed
    rw [SignedCommand.lastValidHeight_lt_iff]
    exact SignedCheck.fails_height_iff h

/-- Errors that follow the signature are those of the last three checks. -/
theorem SignedCheck.not_fails_of_mem_ofActor [SignatureSuite] {source : String}
    {resolver : Resolver} {now : Timestamp} {params : Params} {error : AuthError}
    (hafter : error.followsSignature = true) :
    ∀ check ∈ ofActor, ¬ Fails source resolver now params check error := by
  intro check hmem hfails
  cases hfails with
  | command => exact absurd hmem (by decide)
  | delta => exact absurd hmem (by decide)
  | height => exact absurd hmem (by decide)
  | token h => cases h <;> cases hafter
  | _ => cases hafter

/-- If none of the checks up to the one of the signature fails, the actor signed the command. -/
theorem SignedCheck.exists_signedBy [SignatureSuite] {source : String} {resolver : Resolver}
    {now : Timestamp} {params : Params}
    (h : ∀ check ∈ ofActor, ∀ error, ¬ Fails source resolver now params check error) :
    ∃ token payload did, Jws.Carries SignedPayload.ofJson? source token payload ∧
      payload.actor = did.text ∧ token.SignedBy did resolver := by
  have hsigned := @JwsCheck.exists_signedBy _ _ SignedPayload.ofJson?
    (fun payload => some payload.actor) .invalidPayload source resolver
  simp only [Option.some.injEq] at hsigned
  apply hsigned
  · intro check error hfails
    exact h (.token check) (by cases check <;> decide) error (.token hfails)
  · intro token payload hcarries
    cases hdid : Did.ofText payload.actor with
    | error error => exact absurd (.actor hcarries hdid) (h .actor (by decide) _)
    | ok did => exact ⟨did, Did.ofText_eq_ok_iff.mp hdid⟩

/-! ### What is reported -/

/-- **Of the checks that fail, the first is reported**, for bearer tokens and for signed commands;
and an error about the time, the account, the command or the window is reported of no token but one
that is signed with the first key of the actor that it names. -/
theorem authenticate_reports_first [SignatureSuite] (source : String) (resolver : Resolver)
    (signer : Address) (now : Timestamp) (params : Params) :
    (Checked (BearerCheck.Fails source resolver signer now.wall params) BearerCheck.inOrder
        (BearerToken.authenticate source resolver signer now.wall params) ∧
      ∀ error, BearerToken.authenticate source resolver signer now.wall params = .error error →
        error.followsSignature = true →
        ∃ token claims did, Jws.Carries BearerClaims.ofJson? source token claims ∧
          claims.issuer = some did.text ∧ token.SignedBy did resolver) ∧
    (Checked (SignedCheck.Fails source resolver now params) SignedCheck.inOrder
        (SignedCommand.authenticate source resolver now params) ∧
      ∀ error, SignedCommand.authenticate source resolver now params = .error error →
        error.followsSignature = true →
        ∃ token payload did, Jws.Carries SignedPayload.ofJson? source token payload ∧
          payload.actor = did.text ∧ token.SignedBy did resolver) := by
  refine ⟨⟨BearerToken.checked_authenticate, fun error herror hafter => ?_⟩,
    SignedCommand.checked_authenticate, fun error herror hafter => ?_⟩
  · have hchecked := @BearerToken.checked_authenticate _ source resolver signer now.wall params
    rw [herror] at hchecked
    exact BearerCheck.exists_signedBy
      (hchecked.passes_of_append (BearerCheck.not_fails_of_mem_ofActor hafter))
  · have hchecked := @SignedCommand.checked_authenticate _ source resolver now params
    rw [herror] at hchecked
    exact SignedCheck.exists_signedBy
      (hchecked.passes_of_append (SignedCheck.not_fails_of_mem_ofActor hafter))

/-- A bearer token that has expired and is presented by a stranger, and a command past its window:
each of them is signed by the actor that it names. -/
theorem authenticate_reports_first_expired :
    let bearer := BearerToken.ofHalfSecond.sign SignedCommand.actorKey
    let signed := SignedCommand.ofBlockThousand.sign SignedCommand.actorKey
    let stranger : Address := { relayer with octets := [] }
    let now : Timestamp := ⟨BearerToken.ofHalfSecond.expiresAt, 1006⟩
    let params : Params := { Params.default with maxExpirationDelta := 5 }
    (BearerToken.authenticate bearer .key stranger now.wall params =
        .error (.tokenExpired now.wall now.wall.startOfSecond) ∧
      ∃ token claims did, Jws.Carries BearerClaims.ofJson? bearer token claims ∧
        claims.issuer = some did.text ∧ token.SignedBy did .key) ∧
    (SignedCommand.authenticate signed .key now params = .error (.commandExpired 1000 5 1006) ∧
      ∃ token payload did, Jws.Carries SignedPayload.ofJson? signed token payload ∧
        payload.actor = did.text ∧ token.SignedBy did .key) := by
  intro bearer signed stranger now params
  have horder : BearerToken.ofHalfSecond.issuedAt ≤ BearerToken.ofHalfSecond.expiresAt := by decide
  have hbearer : BearerToken.authenticate bearer .key stranger now.wall params =
      .error (.tokenExpired now.wall now.wall.startOfSecond) := by
    rw [BearerToken.authenticate_sign rfl encoded_actorKey verifies_ofHalfSecond
      isObtained_relayer rfl horder]
    exact if_pos (by decide)
  have haccepted : SignedCommand.authenticate signed .key ⟨now.wall, 1000⟩ params =
      .ok SignedCommand.ofBlockThousand :=
    SignedCommand.authenticate_eq_ok_iff.mpr
      (SignedCommand.valid_ofBlockThousand (by decide) (by decide))
  have hsigned : SignedCommand.authenticate signed .key now params =
      .error (.commandExpired 1000 5 1006) := by
    rw [SignedCommand.authenticate_eq_ite haccepted]
    exact if_pos (by decide)
  exact ⟨⟨hbearer, (authenticate_reports_first bearer .key stranger now params).1.2 _ hbearer rfl⟩,
    hsigned, (authenticate_reports_first signed .key stranger now params).2.2 _ hsigned rfl⟩

end AccessControl
