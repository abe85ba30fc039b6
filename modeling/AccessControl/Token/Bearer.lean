import AccessControl.Policy.Params
import AccessControl.Token.AuthError

/-!
# Bearer tokens

With a bearer token an actor lets one account send commands in its name, for a limited time. The
actor signs the token itself, so the token names the actor, the account, and when it was issued and
expires; it is still valid in the instant in which it expires.
-/

namespace AccessControl

/-- What a bearer token says. -/
structure BearerToken where
  /-- The actor that grants authority. -/
  issuer : Did
  /-- The account that may send commands. -/
  authorizedAccount : Address
  issuedAt : Instant
  /-- The last instant in which the token is valid. -/
  expiresAt : Instant

/-- The claims of a bearer token as they are written, before they are known to make sense. -/
structure BearerClaims where
  issuer : Option String
  authorizedAccount : Option String
  /-- Seconds of universal time. -/
  issuedAt : Option Int
  /-- Seconds of universal time. -/
  expiresAt : Option Int

namespace BearerClaims

/-- Reads claims from JSON. -/
def ofJson? (json : Json) : Option BearerClaims := do
  let record ← json.record? ["iss", "authorized_account", "iat", "exp"] .refuse
  return {
    issuer := ← record.optional? "iss" Json.text?
    authorizedAccount := ← record.optional? "authorized_account" Json.text?
    issuedAt := ← record.optional? "iat" Json.int64?
    expiresAt := ← record.optional? "exp" Json.int64? }

/-- A claim that must be made. -/
def require {α : Type} (claim : BearerClaim) : Option α → Except AuthError α
  | some value => .ok value
  | none => .error (.missingClaim claim)

/-- The instant of a claim. -/
def instant (claim : BearerClaim) (seconds : Int) : Except AuthError Instant :=
  match Instant.ofSecond? seconds with
  | some instant => .ok instant
  | none => .error (.invalidBearerToken (.outOfRange claim seconds))

/-- What the claims say, if all are made and make sense. -/
def token (claims : BearerClaims) (params : Params) : Except AuthError BearerToken := do
  let issuer ← require .issuer claims.issuer
  let account ← require .authorizedAccount claims.authorizedAccount
  let issuedAt ← require .issuedAt claims.issuedAt
  let expiresAt ← require .expiresAt claims.expiresAt
  let did ← (Did.ofText issuer).mapError (.invalidIssuer issuer)
  let address ← (Address.ofTextUnder params.addressReadable account).mapError
    (.invalidAuthorizedAccount account)
  let issuedAt ← instant .issuedAt issuedAt
  let expiresAt ← instant .expiresAt expiresAt
  if expiresAt < issuedAt then
    .error (.invalidBearerToken (.expiresFirst expiresAt issuedAt))
  else .ok ⟨did, address, issuedAt, expiresAt⟩

end BearerClaims

namespace BearerToken

/-- The claims of a token in JSON. -/
def toJson (token : BearerToken) : Json :=
  .ofMembers [("iss", token.issuer.toJson),
    ("authorized_account", token.authorizedAccount.toJson),
    ("iat", .integer token.issuedAt.second), ("exp", .integer token.expiresAt.second)]

variable [SignatureSuite]

/-- The actor for which an account may send commands with a token. The signature is checked before
the token is held against the time and the account. -/
def authenticate (source : String) (resolver : Resolver) (signer : Address) (now : Instant)
    (params : Params) : Except AuthError Did := do
  let jws ← (Jws.ofText source).mapError .jws
  let some claims := jws.claims? BearerClaims.ofJson?
    | .error (.invalidBearerToken .claims)
  let token ← claims.token params
  (jws.verify token.issuer resolver).mapError .jws
  -- The last instant of the token is still one in which it is valid.
  if token.expiresAt < now then .error (.tokenExpired now token.expiresAt)
  else if signer ≠ token.authorizedAccount then
    .error (.msgUnauthorized token.authorizedAccount signer)
  else .ok token.issuer

/-- The signed text of a token. -/
def sign (token : BearerToken) (key : SigningKey) : String :=
  Jws.sign token.toJson key

end BearerToken

/-- What a bearer token is made of. -/
structure BearerRequest where
  /-- The key of the actor that grants authority. -/
  issuer : Option SigningKey
  authorizedAccount : Option Address
  issuedAt : Option Instant
  /-- When the token expires; it counts before `validFor`. -/
  expiresAt : Option Instant
  /-- For how many seconds after it was issued the token is valid. -/
  validFor : Option Int

namespace BearerRequest

/-- When the token expires. -/
def expiry (request : BearerRequest) (issuedAt : Instant) : Except BuildError Instant :=
  match request.expiresAt, request.validFor with
  | some expiresAt, _ => .ok expiresAt
  | none, some seconds =>
    match issuedAt.addSeconds? seconds with
    | some expiresAt => .ok expiresAt
    | none => .error .invalidWindow
  | none, none => .error (.missingField "expires_at")

/-- The signed text of the token. -/
def build [SignatureSuite] (request : BearerRequest) : Except BuildError String := do
  let key ← BuildError.require "issuer" request.issuer
  let account ← BuildError.require "authorized_account" request.authorizedAccount
  let issuedAt ← BuildError.require "issued_at" request.issuedAt
  let expiresAt ← request.expiry issuedAt
  return BearerToken.sign ⟨key.did, account, issuedAt, expiresAt⟩ key

end BearerRequest

end AccessControl
