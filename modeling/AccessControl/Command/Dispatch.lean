import AccessControl.Command.Authentication
import AccessControl.Command.Outcome
import AccessControl.Registration.Service

/-!
# Carrying out commands

Each command of an established actor is a change to the relationships or to the commitments. The
engine is changed last, so a command that fails has not changed it; what it has written to the store
before is for the caller to undo.

Opening a commitment makes the actor the owner of an object as of the time of the commitment. If
somebody else owns the object already, it changes hands only if the commitment is older than the
registration and the actor's own.
-/

namespace AccessControl

/-- Why a command is not carried out. -/
inductive HandlerError where
  /-- The message is malformed. -/
  | message
  | command (error : CommandError)
  | auth (error : AuthError)
  | engine (error : EngineError)
  | registration (error : RegistrationError)
  | store (error : StoreError)
  | params (error : ParamsError)
  /-- The commitment belongs to another policy. -/
  | commitmentPolicyMismatch (id : UInt64) (expected actual : String)
  /-- The proof does not open the commitment for the actor. -/
  | invalidProof (commitmentId : UInt64) (object : Object) (actor : Did)
  /-- Somebody else published the commitment with which an owned object is claimed. -/
  | notCommitmentOwner (commitmentId : UInt64) (actor : Did)
  /-- The object was owned before the commitment was published. -/
  | priorClaim (object : Object) (owner : Did) (commitmentId committedHeight : UInt64)
      (registeredHeight : UInt64)

namespace HandlerError

/-- What a message that cannot be read is to its sender. -/
def ofMessage : MessageError → HandlerError
  | .malformed => message
  | .command error => command error

/-- The error in words. -/
def text : HandlerError → String
  | message => "malformed policy command message: " ++ decoderDetail
  | command error => error.message
  | auth error => error.message
  | engine error => error.message
  | registration error => error.message
  | store error => error.message
  | params error => error.message
  | commitmentPolicyMismatch id expected actual =>
    s!"registrations commitment {id} belongs to policy {actual}, not {expected}"
  | invalidProof commitmentId object actor =>
    s!"proof for {object.text} does not open registrations commitment {commitmentId} " ++
      s!"for {actor.text}"
  | notCommitmentOwner commitmentId actor =>
    s!"actor {actor.text} did not publish registrations commitment {commitmentId}"
  | priorClaim object owner commitmentId committedHeight registeredHeight =>
    s!"{object.text} was registered to {owner.text} at height {registeredHeight}, " ++
      s!"not after commitment {commitmentId} at height {committedHeight}"

/-- The kind of the error. -/
def kind : HandlerError → ErrorKind
  | message => .badInput
  | command error => error.kind
  | auth error => error.kind
  | engine error => error.kind
  | registration error => error.kind
  | store error => error.kind
  | params error => error.kind
  | commitmentPolicyMismatch _ _ _ => .badInput
  | invalidProof _ _ _ => .unauthorized
  | notCommitmentOwner _ _ => .operationForbidden
  | priorClaim _ _ _ _ _ => .operationForbidden

end HandlerError

namespace Host

variable {σ ρ α : Type}

/-- An action on the engine. -/
def onEngine (action : Action ρ EngineError α) : Action (Host σ ρ) HandlerError α :=
  (action.mapError .engine).within engine fun host engine => { host with engine }

/-- An action on commitments and amendments. -/
def onCommitments (action : Action (Host σ ρ) RegistrationError α) :
    Action (Host σ ρ) HandlerError α :=
  action.mapError .registration

variable [Store σ] [RelationshipEngine ρ]

omit [RelationshipEngine ρ] in
/-- The commitment of a policy that a proof opens for an actor. -/
def openedCommitment (policyId : String) (actor : Did) (commitmentId : UInt64)
    (proof : RegistrationProof) (now : Timestamp) (host : Host σ ρ) :
    Except HandlerError Commitment := do
  let (commitment, opens) ←
    (host.openCommitment commitmentId proof actor now).mapError .registration
  if commitment.policyId ≠ policyId then
    .error (.commitmentPolicyMismatch commitment.id policyId commitment.policyId)
  else if !opens then .error (.invalidProof commitment.id proof.object actor)
  else return commitment

/-- Accepts a commitment with which an actor may take over an object: it is the actor's own, and
older than the registration of the object. -/
def requirePriority (commitment : Commitment) (actor : Did) (object : Object)
    (registration : RelationshipRecord) : Except HandlerError Unit :=
  let committed := commitment.createdAt.height
  let registered := registration.provenance.createdAt.height
  if commitment.owner ≠ actor then .error (.notCommitmentOwner commitment.id actor)
  else if registered ≤ committed then
    .error (.priorClaim object registration.owner commitment.id committed registered)
  else .ok ()

/-- Makes an actor the owner of an object to which a commitment is opened. -/
def reveal (policyId : String) (actor : Did) (commitmentId : UInt64) (proof : RegistrationProof)
    (transaction : Transaction) :
    Action (Host σ ρ) HandlerError (RelationshipRecord × Amendment) := do
  let commitment ←
    Action.read (openedCommitment policyId actor commitmentId proof transaction.now)
  let provenance := transaction.provenance actor
  -- The claim is as old as the commitment; the amendment is of this transaction.
  let claim := { provenance with createdAt := commitment.createdAt }
  let registration ← Action.read fun host =>
    (RelationshipEngine.registration? host.engine policyId proof.object).mapError .engine
  match registration with
  | none =>
    let amendment ← onCommitments (recordAmendment commitment proof.object none provenance)
    let outcome ← onEngine (RelationshipEngine.register policyId proof.object claim)
    return (outcome.record, amendment)
  | some registration =>
    Action.read fun _ => requirePriority commitment actor proof.object registration
    let amendment ← onCommitments
      (recordAmendment commitment proof.object (some registration.owner) provenance)
    let record ← onEngine (RelationshipEngine.amend policyId proof.object claim)
    return (record, amendment)

/-- Carries out a command of an actor in a policy. -/
def dispatch (params : Params) (actor : Did) (policyId : String) (transaction : Transaction) :
    Command → Action (Host σ ρ) HandlerError CommandOutcome
  | .setRelationship relationship => do
    return .setRelationship (← onEngine
      (RelationshipEngine.setRelationship policyId relationship (transaction.provenance actor)))
  | .deleteRelationship relationship => do
    return .deleteRelationship (← onEngine
      (RelationshipEngine.deleteRelationship policyId relationship actor))
  | .registerObject object => do
    return .registerObject (← onEngine
      (RelationshipEngine.register policyId object (transaction.provenance actor)))
  | .unregisterObject object => do
    return .unregisterObject (← onEngine (RelationshipEngine.unregister policyId object actor))
  | .archiveObject object => do
    return .archiveObject (← onEngine (RelationshipEngine.archive policyId object actor))
  | .unarchiveObject object => do
    return .unarchiveObject (← onEngine (RelationshipEngine.unarchive policyId object actor))
  | .commitRegistrations root => do
    return .commitRegistrations (← onCommitments
      (publishCommitment policyId root params.commitmentValidity (transaction.provenance actor)))
  | .revealRegistration commitmentId proof => do
    let (record, amendment) ← reveal policyId actor commitmentId proof transaction
    return .revealRegistration record amendment
  | .flagHijackAttempt amendmentId => do
    return .flagHijackAttempt (← onCommitments (disputeAmendment policyId amendmentId actor))

end Host

end AccessControl
