import AccessControl.Policy.Engine
import AccessControl.Policy.Params
import AccessControl.Registration.Opening
import AccessControl.Registration.Repository

/-!
# Commitments in use

What actors can do with commitments: build one over objects that nobody owns, publish it, open it,
dispute what an opening led to; and what happens to commitments by themselves: they expire. Nothing
here changes who owns an object.
-/

namespace AccessControl

/-- What the host keeps: a store, and a relationship engine. -/
structure Host (σ ρ : Type) where
  store : σ
  engine : ρ

/-- Why a commitment or an amendment cannot be used as asked. -/
inductive RegistrationError where
  | commitment (error : CommitmentError)
  | engine (error : EngineError)
  | store (error : StoreError)
  /-- The policy does not exist. -/
  | policyNotFound (policyId : String)
  /-- Somebody owns an object that is to be committed to. -/
  | objectAlreadyRegistered (object : Object) (owner : Did)
  /-- No commitment has the number. -/
  | commitmentNotFound (id : UInt64)
  /-- The commitment can no longer be opened. -/
  | commitmentExpired (id : UInt64) (created : Timestamp) (validity : Validity) (now : Timestamp)
  /-- No amendment has the number. -/
  | amendmentNotFound (id : UInt64)
  /-- The amendment belongs to another policy. -/
  | amendmentPolicyMismatch (id : UInt64) (expected actual : String)
  /-- Nobody lost the object by the amendment. -/
  | nothingToDispute (id : UInt64)
  /-- Somebody else lost the object by the amendment. -/
  | notPreviousOwner (id : UInt64) (actor : Did)

namespace RegistrationError

/-- The error in words. -/
def message : RegistrationError → String
  | commitment error => error.message
  | engine error => error.message
  | store error => error.message
  | policyNotFound policyId => "policy " ++ policyId ++ " not found"
  | objectAlreadyRegistered object owner =>
    "object " ++ object.text ++ " is already registered to " ++ owner.text
  | commitmentNotFound id => s!"registrations commitment {id} not found"
  | commitmentExpired id created validity now =>
    s!"registrations commitment {id} created at {created.text} with validity {validity.text} " ++
      s!"expired before {now.text}"
  | amendmentNotFound id => s!"amendment event {id} not found"
  | amendmentPolicyMismatch id expected actual =>
    s!"amendment event {id} belongs to policy {actual}, not {expected}"
  | nothingToDispute id => s!"amendment event {id} has no previous owner to dispute it"
  | notPreviousOwner id actor =>
    s!"actor {actor.text} is not the previous owner in amendment event {id}"

/-- The kind of the error. -/
def kind : RegistrationError → ErrorKind
  | commitment error => error.kind
  | engine error => error.kind
  | store error => error.kind
  | policyNotFound _ => .notFound
  | objectAlreadyRegistered _ _ => .badInput
  | commitmentNotFound _ => .notFound
  | commitmentExpired _ _ _ _ => .operationForbidden
  | amendmentNotFound _ => .notFound
  | amendmentPolicyMismatch _ _ _ => .badInput
  | nothingToDispute _ => .operationForbidden
  | notPreviousOwner _ _ => .unauthorized

end RegistrationError

namespace Host

variable {σ ρ α : Type}

/-- An action on the store. -/
def onStore (action : Action σ StoreError α) : Action (Host σ ρ) RegistrationError α :=
  (action.mapError .store).within store fun host store => { host with store }

/-- A look into the store. -/
def readStore (view : σ → Except StoreError α) (host : Host σ ρ) : Except RegistrationError α :=
  (view host.store).mapError .store

variable [Store σ] [RelationshipEngine ρ]

omit [Store σ] in
/-- Accepts a policy that exists. -/
def requirePolicy (policyId : String) (host : Host σ ρ) : Except RegistrationError Unit := do
  if ← (RelationshipEngine.policyExists host.engine policyId).mapError .engine then return ()
  else .error (.policyNotFound policyId)

omit [Store σ] in
/-- Accepts objects of a policy that nobody owns. -/
def requireUnclaimed (policyId : String) (objects : List Object) (host : Host σ ρ) :
    Except RegistrationError Unit := do
  host.requirePolicy policyId
  objects.forM fun object => do
    match ← (RelationshipEngine.registration? host.engine policyId object).mapError .engine with
    | some record => .error (.objectAlreadyRegistered object record.owner)
    | none => return ()

omit [Store σ] in
/-- The root that commits an actor to registering objects that nobody owns. -/
def buildCommitment (policyId : String) (actor : Did) (objects : List Object)
    (host : Host σ ρ) : Except RegistrationError Digest := do
  host.requireUnclaimed policyId objects
  (Opening.root policyId actor objects).mapError .commitment

omit [Store σ] in
/-- The same, with the proofs that open the commitment for each of the objects. -/
def buildCommitmentWithProofs (policyId : String) (actor : Did) (objects : List Object)
    (host : Host σ ρ) : Except RegistrationError (Digest × List RegistrationProof) := do
  host.requireUnclaimed policyId objects
  (Opening.rootWithProofs policyId actor objects).mapError .commitment

/-- Publishes a commitment for the owner that the provenance names. -/
def publishCommitment (policyId : String) (root : Bytes) (validity : Validity)
    (provenance : Provenance) : Action (Host σ ρ) RegistrationError Commitment := do
  Action.read (requirePolicy policyId)
  let root ← Action.read fun _ => (Opening.rootOfOctets root).mapError .commitment
  onStore (Repository.createCommitment policyId root validity provenance)

omit [RelationshipEngine ρ] in
/-- Marks those of some commitments that have expired at a time, and returns them. -/
def markExpired (now : Timestamp) :
    List Commitment → Action (Host σ ρ) RegistrationError (List Commitment)
  | [] => return []
  | commitment :: rest =>
    if commitment.isExpiredAt now then do
      let marked ← onStore (Repository.markExpired commitment)
      return marked :: (← markExpired now rest)
    else markExpired now rest

omit [RelationshipEngine ρ] in
/-- Marks all commitments that have expired at a time, and returns those that were not marked. -/
def sweepExpired (now : Timestamp) :
    Action (Host σ ρ) RegistrationError (List Commitment) := do
  markExpired now (← Action.read (readStore Repository.activeCommitments))

omit [RelationshipEngine ρ] in
/-- The commitment with a number. -/
def commitment (id : UInt64) (host : Host σ ρ) : Except RegistrationError Commitment := do
  match ← readStore (Repository.commitment? id) host with
  | some commitment => return commitment
  | none => .error (.commitmentNotFound id)

omit [RelationshipEngine ρ] in
/-- The commitments with a root. -/
def commitmentsByRoot (root : Bytes) (host : Host σ ρ) :
    Except RegistrationError (List Commitment) := do
  let root ← (Opening.rootOfOctets root).mapError .commitment
  readStore (Repository.commitmentsByRoot root) host

omit [RelationshipEngine ρ] in
/-- The commitment with a number, if it can be opened, and whether a proof opens it for an actor. -/
def openCommitment (id : UInt64) (proof : RegistrationProof) (actor : Did) (now : Timestamp)
    (host : Host σ ρ) : Except RegistrationError (Commitment × Bool) := do
  let commitment ← host.commitment id
  if commitment.expired || commitment.isExpiredAt now then
    .error (.commitmentExpired commitment.id commitment.createdAt commitment.validity now)
  else
    let opens ← (Opening.verify commitment.root.octets commitment.policyId actor proof).mapError
      .commitment
    return (commitment, opens)

omit [RelationshipEngine ρ] in
/-- Records that the owner that the provenance names opened a commitment for an object. -/
def recordAmendment (commitment : Commitment) (object : Object) (previousOwner : Option Did)
    (provenance : Provenance) : Action (Host σ ρ) RegistrationError Amendment :=
  onStore (Repository.createAmendment commitment.policyId object provenance.owner previousOwner
    commitment.id provenance)

omit [RelationshipEngine ρ] in
/-- The amendment with a number. -/
def amendment (id : UInt64) (host : Host σ ρ) : Except RegistrationError Amendment := do
  match ← readStore (Repository.amendment? id) host with
  | some amendment => return amendment
  | none => .error (.amendmentNotFound id)

omit [RelationshipEngine ρ] in
/-- The amendment with a number, if it is one of the policy and the actor lost the object by it. -/
def disputableAmendment (policyId : String) (id : UInt64) (actor : Did) (host : Host σ ρ) :
    Except RegistrationError Amendment := do
  let amendment ← host.amendment id
  if amendment.policyId ≠ policyId then
    .error (.amendmentPolicyMismatch id policyId amendment.policyId)
  else
    match amendment.previousOwner with
    | none => .error (.nothingToDispute id)
    | some previous =>
      if previous = actor then return amendment else .error (.notPreviousOwner id actor)

omit [RelationshipEngine ρ] in
/-- Marks an amendment as disputed by the actor that lost the object by it. -/
def disputeAmendment (policyId : String) (id : UInt64) (actor : Did) :
    Action (Host σ ρ) RegistrationError Amendment := do
  let amendment ← Action.read (disputableAmendment policyId id actor)
  -- To dispute an amendment once more changes nothing.
  if amendment.disputed then return amendment
  else onStore (Repository.markDisputed amendment)

omit [RelationshipEngine ρ] in
/-- The disputed amendments of a policy. -/
def disputedAmendments (policyId : String) (host : Host σ ρ) :
    Except RegistrationError (List Amendment) :=
  readStore (Repository.disputedAmendments policyId) host

end Host

end AccessControl
