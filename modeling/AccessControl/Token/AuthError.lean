import AccessControl.Account.Address
import AccessControl.Command.Basic
import AccessControl.Token.Jws

/-!
# Failures of authentication

Why it cannot be established which actor sent a command.
-/

namespace AccessControl

/-- The claims of a bearer token. -/
inductive BearerClaim where
  | issuer
  | authorizedAccount
  | issuedAt
  | expiresAt
  deriving DecidableEq

/-- The name of a claim. -/
def BearerClaim.name : BearerClaim → String
  | issuer => "iss"
  | authorizedAccount => "authorized_account"
  | issuedAt => "iat"
  | expiresAt => "exp"

/-- What is wrong with the claims of a bearer token. -/
inductive BearerDefect where
  /-- They are not JSON of the right form. -/
  | claims
  /-- A time lies outside of the calendar. -/
  | outOfRange (claim : BearerClaim) (seconds : Int)
  /-- The token expires before it is issued. -/
  | expiresFirst (expiresAt issuedAt : Instant)

/-- The defect in words. -/
def BearerDefect.message : BearerDefect → String
  | claims => decoderDetail
  | outOfRange claim seconds => s!"{claim.name} {seconds} is out of range"
  | expiresFirst expiresAt issuedAt =>
    "exp " ++ expiresAt.text .message ++ " precedes iat " ++ issuedAt.text .message

/-- Why the actor of a command is not established. -/
inductive AuthError where
  /-- A token cannot be read, or its signature does not hold. -/
  | jws (error : JwsError)
  /-- A claim is missing. -/
  | missingClaim (claim : BearerClaim)
  /-- The issuer is no identifier. -/
  | invalidIssuer (issuer : String) (error : DidError)
  /-- The authorized account is no address, or one of another chain. -/
  | invalidAuthorizedAccount (account : String) (error : AddressError)
  | invalidBearerToken (defect : BearerDefect)
  /-- The token has expired. -/
  | tokenExpired (now expiresAt : Instant)
  /-- The token is presented by another account than the authorized one. -/
  | msgUnauthorized (authorized signer : Address)
  /-- The payload is not a signed command. -/
  | invalidPayload
  /-- The actor of a signed command is no identifier. -/
  | invalidActor (actor : String) (error : DidError)
  /-- The signed command is no command. -/
  | command (error : CommandError)
  /-- The signed command asks for more blocks than it may. -/
  | expirationDeltaTooLarge (delta max : UInt64)
  /-- The signed command has expired. -/
  | commandExpired (issuedHeight delta height : UInt64)
  /-- The signer has no account. -/
  | accountNotFound (signer : Address)
  /-- The account of the signer has no key. -/
  | accountWithoutKey (signer : Address)
  /-- The key of the account cannot be used. -/
  | key (error : KeyError)

namespace AuthError

/-- The error in words. -/
def message : AuthError → String
  | jws error => error.message
  | missingClaim claim => "bearer token is missing claim " ++ claim.name
  | invalidIssuer issuer error =>
    "invalid bearer token issuer " ++ Text.quoted issuer ++ ": " ++ error.message
  | invalidAuthorizedAccount account error =>
    "invalid authorized account " ++ Text.quoted account ++ ": " ++ error.message
  | invalidBearerToken defect => "invalid bearer token: " ++ defect.message
  | tokenExpired now expiresAt =>
    "bearer token expired: now " ++ now.text .message ++ ", expired at " ++ expiresAt.text .message
  | msgUnauthorized authorized signer =>
    "bearer token authorizes " ++ authorized.text ++ " but the message was signed by " ++
      signer.text
  | invalidPayload => "invalid signed command payload: " ++ decoderDetail
  | invalidActor actor error =>
    "invalid signed command actor " ++ Text.quoted actor ++ ": " ++ error.message
  | command error => error.message
  | expirationDeltaTooLarge delta max =>
    s!"expiration delta {delta} exceeds the maximum of {max} blocks"
  | commandExpired issuedHeight delta height =>
    s!"signed command issued at height {issuedHeight} with delta {delta} expired at height {height}"
  | accountNotFound signer => "no account for signer " ++ signer.text
  | accountWithoutKey signer => "account " ++ signer.text ++ " has no public key"
  | key error => error.message

/-- The kind of the error. -/
def kind : AuthError → ErrorKind
  | jws error => error.kind
  | missingClaim _ => .badInput
  | invalidIssuer _ _ => .badInput
  | invalidAuthorizedAccount _ _ => .badInput
  | invalidBearerToken _ => .badInput
  | tokenExpired _ _ => .unauthenticated
  | msgUnauthorized _ _ => .unauthorized
  | invalidPayload => .badInput
  | invalidActor _ _ => .badInput
  | command error => error.kind
  | expirationDeltaTooLarge _ _ => .badInput
  | commandExpired _ _ _ => .unauthenticated
  | accountNotFound _ => .notFound
  | accountWithoutKey _ => .unauthenticated
  | key error => error.kind

end AuthError

/-- Why a token cannot be made. -/
inductive BuildError where
  /-- Something that the token must say was not given. -/
  | missingField (name : String)
  /-- The token would expire beyond the calendar. -/
  | invalidWindow
  deriving DecidableEq

namespace BuildError

/-- The error in words. -/
def message : BuildError → String
  | missingField name => "missing required field " ++ name
  | invalidWindow => "validity window overflows"

/-- All these errors are bad input. -/
def kind (_ : BuildError) : ErrorKind := .badInput

/-- A value that must be given. -/
def require {α : Type} (name : String) : Option α → Except BuildError α
  | some value => .ok value
  | none => .error (.missingField name)

end BuildError

end AccessControl
