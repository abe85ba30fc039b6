import AccessControl.Command.Dispatch
import AccessControl.Store.Overlay

/-!
# The keeper

The keeper is what a ledger sees of the library. It establishes the actor of a message and carries
out the command. Store writes of a command are held back until it has succeeded; after each block
the commitments that have expired are marked.

`Keeper.execute` returns the new keeper also when it fails: should the store fail while the
held-back writes are made, those made before remain.
-/

namespace AccessControl

/-- The state of the library on a ledger. -/
structure Keeper (σ ρ : Type) where
  host : Host σ ρ
  authenticator : Authenticator
  params : Params

namespace Keeper

variable {σ ρ α : Type}

/-- The keeper with given parameters, which must be valid. -/
def create (host : Host σ ρ) (authenticator : Authenticator) (params : Params) :
    Except HandlerError (Keeper σ ρ) := do
  params.validate.mapError .params
  return ⟨host, authenticator, params⟩

/-- Replaces the parameters by valid ones. -/
def setParams (params : Params) : Action (Keeper σ ρ) HandlerError Unit :=
  .attempt fun keeper => do
    params.validate.mapError .params
    return ((), { keeper with params })

variable [Store σ]

/-- An action whose store writes are made only if it succeeds. Changes to the engine are made at
once. -/
def buffered (action : Action (Host (Overlay σ) ρ) HandlerError α) :
    Action (Host σ ρ) HandlerError α :=
  .ofStep fun host =>
    let (result, buffer) := action.run ⟨Overlay.ofStore host.store, host.engine⟩
    match result with
    -- The held-back writes are dropped.
    | .error error => (.error error, ⟨buffer.store.backend, buffer.engine⟩)
    | .ok value =>
      let (committed, store) := buffer.store.commit
      ((committed.mapError HandlerError.store).map fun _ => value, ⟨store, buffer.engine⟩)

/-- An action on what the host keeps. -/
def onHost (action : Action (Host σ ρ) HandlerError α) : Action (Keeper σ ρ) HandlerError α :=
  action.within host fun keeper host => { keeper with host }

variable [RelationshipEngine ρ]

/-- Carries out a command of an established actor. -/
def execute (actor : Did) (policyId : String) (command : Command) (transaction : Transaction) :
    Action (Keeper σ ρ) HandlerError CommandOutcome := do
  let keeper ← Action.read Except.ok
  onHost (buffered (Host.dispatch keeper.params actor policyId transaction command))

/-- Marks the commitments that have expired at the end of a block, and returns them. -/
def endBlock (now : Timestamp) : Action (Keeper σ ρ) HandlerError (List Commitment) :=
  onHost (buffered (Host.onCommitments (Host.sweepExpired now)))

variable [SignatureSuite]

/-- Establishes the actor of a message and carries out its command. -/
def handle (message : CommandMessage) (transaction : Transaction) :
    Action (Keeper σ ρ) HandlerError CommandOutcome := do
  let authenticated ← Action.read fun keeper =>
    (keeper.authenticator.authenticate keeper.params transaction.signer transaction.now
      message).mapError .auth
  execute authenticated.actor authenticated.policyId authenticated.command transaction

/-- Reads a message from a document and handles it. -/
def handleBytes (document : Bytes) (transaction : Transaction) :
    Action (Keeper σ ρ) HandlerError CommandOutcome := do
  let message ← Action.read fun _ =>
    (CommandMessage.ofBytes document).mapError HandlerError.ofMessage
  handle message transaction

omit [Store σ] [SignatureSuite] in
/-- The record of who owns an object, if somebody does. -/
def registration? (policyId : String) (object : Object) (keeper : Keeper σ ρ) :
    Except HandlerError (Option RelationshipRecord) :=
  (RelationshipEngine.registration? keeper.host.engine policyId object).mapError .engine

end Keeper

end AccessControl
