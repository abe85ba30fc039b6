import AccessControl.Proofs.Checked
import AccessControl.Proofs.Token.Signed

/-!
# What is checked of a token

What it is for a check of a token to fail is said of each check by itself, from the text and what it
is held against, so that the checks can fail in any combination (`BearerCheck.Fails` and
`SignedCheck.Fails`). A check of something that is not there does not fail: where a claim is
missing, nothing is wrong with what it says. `BearerCheck.inOrder` and `SignedCheck.inOrder` are the
orders of the checks.

Both kinds of token share the checks of the token itself and of its signature, which differ only in
who should have signed it (`JwsCheck.Fails`). If none of these fails, the signature holds
(`JwsCheck.exists_signedBy`).
-/

namespace AccessControl

/-- A text is a token with some content. -/
structure Jws.Carries {α : Type} (ofJson? : Json → Option α) (source : String) (token : Jws)
    (content : α) : Prop where
  ofText_eq : Jws.ofText source = .ok token
  claims?_eq : token.claims? ofJson? = some content

/-- The first key of an identifier's document. -/
def Resolver.firstMethod (resolver : Resolver) (did : Did) :
    Except ResolveError VerificationMethod := do
  (← resolver.resolve did).firstMethod

/-! ### The checks -/

/-- The checks of any token that names its signer. -/
inductive JwsCheck where
  /-- The text is a token. -/
  | form
  /-- The payload is of the right form. -/
  | payload
  /-- There is a key of the signer. -/
  | resolution
  /-- The signature holds under this key. -/
  | signature
  deriving DecidableEq

/-- The checks of a bearer token. -/
inductive BearerCheck where
  /-- A check of the token, which the issuer signs. -/
  | token (check : JwsCheck)
  /-- A claim is made. -/
  | made (claim : BearerClaim)
  /-- The issuer is an identifier. -/
  | issuer
  /-- The authorized account is an address. -/
  | account
  /-- The address is one of this chain. -/
  | readable
  /-- A time lies in the calendar. -/
  | inCalendar (claim : BearerClaim)
  /-- The token does not expire before it is issued. -/
  | order
  /-- The token has not expired. -/
  | expiry
  /-- The signer is the authorized account. -/
  | signer
  deriving DecidableEq

namespace BearerCheck

/-- The checks of what the claims say, in order. -/
def ofClaims : List BearerCheck :=
  [.made .issuer, .made .authorizedAccount, .made .issuedAt, .made .expiresAt, .issuer, .account,
    .readable, .inCalendar .issuedAt, .inCalendar .expiresAt, .order]

/-- The checks up to the one of the signature, in order. -/
def ofActor : List BearerCheck :=
  [.token .form, .token .payload] ++ ofClaims ++ [.token .resolution, .token .signature]

/-- All checks, in order. -/
def inOrder : List BearerCheck :=
  ofActor ++ [.expiry, .signer]

end BearerCheck

/-- The checks of a signed command. -/
inductive SignedCheck where
  /-- A check of the token, which the actor signs. -/
  | token (check : JwsCheck)
  /-- The actor is an identifier. -/
  | actor
  /-- The command is one. -/
  | command
  /-- The command asks for no more blocks than it may. -/
  | delta
  /-- The command has not expired. -/
  | height
  deriving DecidableEq

namespace SignedCheck

/-- The checks up to the one of the signature, in order. -/
def ofActor : List SignedCheck :=
  [.token .form, .token .payload, .actor, .token .resolution, .token .signature]

/-- All checks, in order. -/
def inOrder : List SignedCheck :=
  ofActor ++ [.command, .delta, .height]

end SignedCheck

/-- The errors about a token whose signature holds. -/
def AuthError.followsSignature : AuthError → Bool
  | tokenExpired _ _ => true
  | msgUnauthorized _ _ => true
  | command _ => true
  | expirationDeltaTooLarge _ _ => true
  | commandExpired _ _ _ => true
  | _ => false

namespace BearerClaims

/-- Whether a claim is made. -/
def makes (claims : BearerClaims) : BearerClaim → Bool
  | .issuer => claims.issuer.isSome
  | .authorizedAccount => claims.authorizedAccount.isSome
  | .issuedAt => claims.issuedAt.isSome
  | .expiresAt => claims.expiresAt.isSome

/-- The seconds that a claim gives, if it is one of a time. -/
def seconds? (claims : BearerClaims) : BearerClaim → Option Int
  | .issuedAt => claims.issuedAt
  | .expiresAt => claims.expiresAt
  | _ => none

/-- The time that a claim gives, if it lies in the calendar. -/
def time? (claims : BearerClaims) (claim : BearerClaim) : Option Instant :=
  (claims.seconds? claim).bind Instant.ofSecond?

end BearerClaims

/-! ### What it is for a check to fail -/

section
variable [SignatureSuite] (source : String) (resolver : Resolver)

/-- A check of a token fails with an error. The content of the token names the signer, and
`malformed` is the error of a payload of another form. -/
inductive JwsCheck.Fails {α : Type} (ofJson? : Json → Option α) (signer? : α → Option String)
    (malformed : AuthError) : JwsCheck → AuthError → Prop where
  | form {error : JwsError} :
    Jws.ofText source = .error error →
    Fails ofJson? signer? malformed .form (.jws error)
  | payload {token : Jws} :
    Jws.ofText source = .ok token → token.claims? ofJson? = none →
    Fails ofJson? signer? malformed .payload malformed
  | resolution {token : Jws} {content : α} {did : Did} {error : ResolveError} :
    Jws.Carries ofJson? source token content →
    signer? content = some did.text → resolver.firstMethod did = .error error →
    Fails ofJson? signer? malformed .resolution (.jws (.resolve error))
  | signature {token : Jws} {content : α} {did : Did} {method : VerificationMethod} :
    Jws.Carries ofJson? source token content →
    signer? content = some did.text → resolver.firstMethod did = .ok method →
    method.key.verify (.ofText token.signingInput) token.signature = false →
    Fails ofJson? signer? malformed .signature (.jws (.invalidSignature did method.key.type))

/-- A check of a bearer token fails with an error. -/
inductive BearerCheck.Fails (signer : Address) (now : Instant) (params : Params) :
    BearerCheck → AuthError → Prop where
  | token {check : JwsCheck} {error : AuthError} :
    JwsCheck.Fails source resolver BearerClaims.ofJson? BearerClaims.issuer
      (.invalidBearerToken .claims) check error →
    Fails signer now params (.token check) error
  | made {token : Jws} {claims : BearerClaims} {claim : BearerClaim} :
    Jws.Carries BearerClaims.ofJson? source token claims →
    claims.makes claim = false →
    Fails signer now params (.made claim) (.missingClaim claim)
  | issuer {token : Jws} {claims : BearerClaims} {text : String} {error : DidError} :
    Jws.Carries BearerClaims.ofJson? source token claims →
    claims.issuer = some text → Did.ofText text = .error error →
    Fails signer now params .issuer (.invalidIssuer text error)
  | account {token : Jws} {claims : BearerClaims} {text : String} {error : AddressError} :
    Jws.Carries BearerClaims.ofJson? source token claims →
    claims.authorizedAccount = some text → Address.ofText text = .error error →
    Fails signer now params .account (.invalidAuthorizedAccount text error)
  | readable {token : Jws} {claims : BearerClaims} {text : String} {account : Address} :
    Jws.Carries BearerClaims.ofJson? source token claims →
    claims.authorizedAccount = some text → Address.ofText text = .ok account →
    account.readable ≠ params.addressReadable →
    Fails signer now params .readable (.invalidAuthorizedAccount text
      (.unexpectedReadable params.addressReadable account.readable))
  | inCalendar {token : Jws} {claims : BearerClaims} {claim : BearerClaim} {seconds : Int} :
    Jws.Carries BearerClaims.ofJson? source token claims →
    claims.seconds? claim = some seconds → Instant.ofSecond? seconds = none →
    Fails signer now params (.inCalendar claim) (.invalidBearerToken (.outOfRange claim seconds))
  | order {token : Jws} {claims : BearerClaims} {issuedAt expiresAt : Instant} :
    Jws.Carries BearerClaims.ofJson? source token claims →
    claims.time? .issuedAt = some issuedAt → claims.time? .expiresAt = some expiresAt →
    expiresAt < issuedAt →
    Fails signer now params .order (.invalidBearerToken (.expiresFirst expiresAt issuedAt))
  | expiry {token : Jws} {claims : BearerClaims} {expiresAt : Instant} :
    Jws.Carries BearerClaims.ofJson? source token claims →
    claims.time? .expiresAt = some expiresAt → expiresAt < now →
    Fails signer now params .expiry (.tokenExpired now expiresAt)
  | signer {token : Jws} {claims : BearerClaims} {text : String} {account : Address} :
    Jws.Carries BearerClaims.ofJson? source token claims →
    claims.authorizedAccount = some text → Address.ofText text = .ok account → signer ≠ account →
    Fails signer now params .signer (.msgUnauthorized account signer)

/-- A check of a signed command fails with an error. -/
inductive SignedCheck.Fails (now : Timestamp) (params : Params) :
    SignedCheck → AuthError → Prop where
  | token {check : JwsCheck} {error : AuthError} :
    JwsCheck.Fails source resolver SignedPayload.ofJson? (fun payload => some payload.actor)
      .invalidPayload check error →
    Fails now params (.token check) error
  | actor {token : Jws} {payload : SignedPayload} {error : DidError} :
    Jws.Carries SignedPayload.ofJson? source token payload →
    Did.ofText payload.actor = .error error →
    Fails now params .actor (.invalidActor payload.actor error)
  | command {token : Jws} {payload : SignedPayload} {error : CommandError} :
    Jws.Carries SignedPayload.ofJson? source token payload →
    Command.ofSettled payload.command = .error error →
    Fails now params .command (.command error)
  | delta {token : Jws} {payload : SignedPayload} :
    Jws.Carries SignedPayload.ofJson? source token payload →
    params.maxExpirationDelta < payload.expirationDelta →
    Fails now params .delta
      (.expirationDeltaTooLarge payload.expirationDelta params.maxExpirationDelta)
  | height {token : Jws} {payload : SignedPayload} :
    Jws.Carries SignedPayload.ofJson? source token payload →
    payload.issuedHeight.toNat + payload.expirationDelta.toNat < now.height.toNat →
    Fails now params .height
      (.commandExpired payload.issuedHeight payload.expirationDelta now.height)

end

/-! ### What both kinds of token have in common -/

section
variable {α : Type} {ofJson? : Json → Option α} {source : String} {token other : Jws}
  {content content' : α}

theorem Jws.Carries.eq (h : Jws.Carries ofJson? source token content)
    (h' : Jws.Carries ofJson? source other content') : other = token ∧ content' = content := by
  obtain rfl : other = token := Except.ok.inj (h'.ofText_eq.symm.trans h.ofText_eq)
  exact ⟨rfl, Option.some.inj (h'.claims?_eq.symm.trans h.claims?_eq)⟩

end

section
variable [SignatureSuite] {α : Type} {ofJson? : Json → Option α} {signer? : α → Option String}
  {malformed other : AuthError} {source : String} {resolver : Resolver} {token : Jws} {content : α}
  {did : Did}

/-- The first key of the document is found, and then the signature is held against it. -/
theorem Jws.verify_eq : token.verify did resolver =
    (resolver.firstMethod did).mapError .resolve >>= fun method =>
      if method.key.verify (.ofText token.signingInput) token.signature = false then
        .error (.invalidSignature did method.key.type)
      else .ok () := by
  unfold verify Resolver.firstMethod
  cases resolver.resolve did with
  | error error => rfl
  | ok document =>
    cases hmethod : document.firstMethod with
    | error error => simp [hmethod, Except.mapError, bind, Except.bind]
    | ok method =>
      simp only [hmethod, Except.mapError, bind, Except.bind]
      cases method.key.verify (.ofText token.signingInput) token.signature <;> rfl

/-- Holding a token against its signer is two checks. -/
theorem Jws.checked_verify {κ : Type} {Fails : κ → AuthError → Prop} {resolution signature : κ}
    (hresolution : ∀ other, Fails resolution other ↔
      ∃ error, resolver.firstMethod did = .error error ∧ AuthError.jws (.resolve error) = other)
    (hsignature : ∀ other, Fails signature other ↔
      ∃ method, resolver.firstMethod did = .ok method ∧
        method.key.verify (.ofText token.signingInput) token.signature = false ∧
        AuthError.jws (.invalidSignature did method.key.type) = other) :
    Checked Fails [resolution, signature] ((token.verify did resolver).mapError AuthError.jws) := by
  rw [Jws.verify_eq]
  cases hmethod : resolver.firstMethod did with
  | error error =>
    refine .fails fun other => ?_
    simp [hresolution, hmethod]
  | ok method =>
    refine .passes (fun other => by simp [hresolution, hmethod]) ?_
    apply Checked.of_iff
    intro other
    rw [mapError_eq_error_iff, hsignature]
    cases hverify : method.key.verify (.ofText token.signingInput) token.signature <;>
      simp [Except.mapError, bind, Except.bind, hmethod, hverify]

namespace JwsCheck

theorem fails_form_iff : Fails source resolver ofJson? signer? malformed .form other ↔
    (Jws.ofText source).mapError .jws = .error other := by
  rw [mapError_eq_error_iff]
  constructor
  · rintro ⟨hsource⟩
    exact ⟨_, hsource, rfl⟩
  · rintro ⟨error, hsource, rfl⟩
    exact .form hsource

theorem fails_payload_iff (h : Jws.ofText source = .ok token) :
    Fails source resolver ofJson? signer? malformed .payload other ↔
      token.claims? ofJson? = none ∧ malformed = other := by
  constructor
  · intro hfails
    cases hfails with
    | payload h' hcontent =>
      obtain rfl := Except.ok.inj (h.symm.trans h')
      exact ⟨hcontent, rfl⟩
  · rintro ⟨hcontent, rfl⟩
    exact .payload h hcontent

theorem fails_resolution_iff (h : Jws.Carries ofJson? source token content)
    (hsigner : signer? content = some did.text) :
    Fails source resolver ofJson? signer? malformed .resolution other ↔
      ∃ error, resolver.firstMethod did = .error error ∧ .jws (.resolve error) = other := by
  constructor
  · intro hfails
    cases hfails with
    | resolution hcarries hsigner' hmethod =>
      obtain ⟨-, rfl⟩ := h.eq hcarries
      obtain rfl := Did.text_inj (Option.some.inj (hsigner.symm.trans hsigner'))
      exact ⟨_, hmethod, rfl⟩
  · rintro ⟨error, hmethod, rfl⟩
    exact .resolution h hsigner hmethod

theorem fails_signature_iff (h : Jws.Carries ofJson? source token content)
    (hsigner : signer? content = some did.text) :
    Fails source resolver ofJson? signer? malformed .signature other ↔
      ∃ method, resolver.firstMethod did = .ok method ∧
        method.key.verify (.ofText token.signingInput) token.signature = false ∧
        .jws (.invalidSignature did method.key.type) = other := by
  constructor
  · intro hfails
    cases hfails with
    | signature hcarries hsigner' hmethod hverify =>
      obtain ⟨rfl, rfl⟩ := h.eq hcarries
      obtain rfl := Did.text_inj (Option.some.inj (hsigner.symm.trans hsigner'))
      exact ⟨_, hmethod, hverify, rfl⟩
  · rintro ⟨method, hmethod, hverify, rfl⟩
    exact .signature h hsigner hmethod hverify

/-- If no check fails, the text is a token that the signer has signed, if it names one. -/
theorem exists_signedBy
    (h : ∀ check error, ¬ Fails source resolver ofJson? signer? malformed check error)
    (hsigner : ∀ token content, Jws.Carries ofJson? source token content →
      ∃ did : Did, signer? content = some did.text) :
    ∃ token content did, Jws.Carries ofJson? source token content ∧
      signer? content = some did.text ∧ token.SignedBy did resolver := by
  cases hsource : Jws.ofText source with
  | error error => exact absurd (.form hsource) (h .form _)
  | ok token =>
    cases hcontent : token.claims? ofJson? with
    | none => exact absurd (.payload hsource hcontent) (h .payload _)
    | some content =>
      have hcarries : Jws.Carries ofJson? source token content := ⟨hsource, hcontent⟩
      obtain ⟨did, hdid⟩ := hsigner token content hcarries
      refine ⟨token, content, did, hcarries, hdid, ?_⟩
      rw [← Jws.verify_eq_ok_iff, Jws.verify_eq]
      cases hmethod : resolver.firstMethod did with
      | error error => exact absurd (.resolution hcarries hdid hmethod) (h .resolution _)
      | ok method =>
        refine if_neg fun hverify => ?_
        exact h .signature _ (.signature hcarries hdid hmethod hverify)

end JwsCheck

end

end AccessControl
