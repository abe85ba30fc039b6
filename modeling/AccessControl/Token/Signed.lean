import AccessControl.Policy.Params
import AccessControl.Token.AuthError

/-!
# Signed commands

An actor can sign a command itself, so that anybody may send it. The command is valid up to a height
that it names itself, but for no more blocks than the parameters allow.
-/

namespace AccessControl

/-- A command with what its actor signed beside it. -/
structure SignedCommand where
  policyId : String
  /-- The actor, which signed. -/
  actor : Did
  command : Command
  /-- The time at which the actor signed. -/
  issuedAt : Instant
  /-- The height at which the actor signed. -/
  issuedHeight : UInt64
  /-- For how many blocks after that the command is valid. -/
  expirationDelta : UInt64
  deriving DecidableEq

/-- A signed command as it is written, before its actor and its command are known to be such. -/
structure SignedPayload where
  policyId : String
  actor : String
  /-- The settled value of the command. -/
  command : Json
  issuedAt : Instant
  issuedHeight : UInt64
  expirationDelta : UInt64

namespace SignedPayload

/-- Reads a payload from JSON. The command lies within the payload, so its own nesting is bounded by
one less. -/
def ofJson? (json : Json) : Option SignedPayload := do
  let record ← json.record?
    ["policy_id", "actor", "cmd", "issued_at", "issued_height", "expiration_delta"] .refuse
  return {
    policyId := ← record.field? "policy_id" Json.text?
    actor := ← record.field? "actor" Json.text?
    command := ← record.field? "cmd" (Json.settle? (Json.maxDepth - 1))
    issuedAt := ← record.field? "issued_at" Instant.ofJson?
    issuedHeight := ← record.field? "issued_height" Json.uint64?
    expirationDelta := ← record.field? "expiration_delta" Json.uint64? }

end SignedPayload

namespace SignedCommand

/-- The last height at which the command is valid. -/
def lastValidHeight (signed : SignedCommand) : UInt64 :=
  Word.addSaturating signed.issuedHeight signed.expirationDelta

/-- A signed command in JSON. -/
def toJson (signed : SignedCommand) : Json :=
  .ofMembers [("policy_id", .ofText signed.policyId), ("actor", signed.actor.toJson),
    ("cmd", signed.command.toJson), ("issued_at", signed.issuedAt.toJson),
    ("issued_height", .ofUInt64 signed.issuedHeight),
    ("expiration_delta", .ofUInt64 signed.expirationDelta)]

variable [SignatureSuite]

/-- The signed command that a token carries. The signature is checked before the command is read and
held against the height. -/
def authenticate (source : String) (resolver : Resolver) (now : Timestamp) (params : Params) :
    Except AuthError SignedCommand := do
  let jws ← (Jws.ofText source).mapError .jws
  let some payload := jws.claims? SignedPayload.ofJson?
    | .error .invalidPayload
  let actor ← (Did.ofText payload.actor).mapError (.invalidActor payload.actor)
  (jws.verify actor resolver).mapError .jws
  let command ← (Command.ofSettled payload.command).mapError .command
  let signed : SignedCommand := {
    policyId := payload.policyId
    actor := actor
    command := command
    issuedAt := payload.issuedAt
    issuedHeight := payload.issuedHeight
    expirationDelta := payload.expirationDelta }
  if params.maxExpirationDelta < signed.expirationDelta then
    .error (.expirationDeltaTooLarge signed.expirationDelta params.maxExpirationDelta)
  else if signed.lastValidHeight < now.height then
    .error (.commandExpired signed.issuedHeight signed.expirationDelta now.height)
  else .ok signed

/-- The text of a command that is signed with the key of its actor. -/
def sign (signed : SignedCommand) (key : SigningKey) : String :=
  Jws.sign signed.toJson key

end SignedCommand

/-- What a signed command is made of. -/
structure SignedRequest where
  /-- The key of the actor. -/
  actor : Option SigningKey
  policyId : Option String
  command : Option Command
  /-- The block in which the actor signs. -/
  issuedAt : Option Timestamp
  expirationDelta : Option UInt64

namespace SignedRequest

/-- The text of the signed command. -/
def build [SignatureSuite] (request : SignedRequest) : Except BuildError String := do
  let key ← BuildError.require "actor" request.actor
  let issuedAt ← BuildError.require "issued_at" request.issuedAt
  let policyId ← BuildError.require "policy_id" request.policyId
  let command ← BuildError.require "cmd" request.command
  let expirationDelta ← BuildError.require "expiration_delta" request.expirationDelta
  let signed : SignedCommand :=
    ⟨policyId, key.did, command, issuedAt.wall, issuedAt.height, expirationDelta⟩
  return signed.sign key

end SignedRequest

end AccessControl
