import AccessControl.Account.Account
import AccessControl.Command.Message
import AccessControl.Token.Bearer
import AccessControl.Token.Signed

/-!
# Establishing the actor of a command

The actor of a message that is sent directly is the identifier of the key of the account that signed
the transaction. With the other two ways a token establishes the actor.
-/

namespace AccessControl

/-- What the ledger knows of the transaction with which a message came. -/
structure Transaction where
  /-- The account that signed the transaction. -/
  signer : Address
  /-- The block in which the transaction is executed. -/
  now : Timestamp
  /-- The hash of the transaction, if it is known. -/
  hash : Option String
  deriving DecidableEq

/-- The provenance of what an actor makes in a transaction. -/
def Transaction.provenance (transaction : Transaction) (actor : Did) : Provenance :=
  ⟨transaction.now, actor, transaction.signer.text, transaction.hash⟩

/-- A command whose actor is established. -/
structure AuthenticatedCommand where
  actor : Did
  policyId : String
  command : Command
  deriving DecidableEq

/-- What establishes actors: the accounts of the ledger, and a resolver of identifiers. -/
structure Authenticator where
  accounts : AccountKeeper
  resolver : Resolver

namespace Authenticator

variable [SignatureSuite]

/-- The actor that an account is by its key. -/
def signerDid (accounts : AccountKeeper) (signer : Address) : Except AuthError Did := do
  let some account := accounts.account? signer
    | .error (.accountNotFound signer)
  let some key := account.key
    | .error (.accountWithoutKey signer)
  let publicKey ← key.publicKey.mapError .key
  return publicKey.did

/-- The command of a message and its actor. -/
def authenticate (authenticator : Authenticator) (params : Params) (signer : Address)
    (now : Timestamp) : CommandMessage → Except AuthError AuthenticatedCommand
  | .direct policyId command => do
    return ⟨← signerDid authenticator.accounts signer, policyId, command⟩
  | .bearer token policyId command => do
    let actor ← BearerToken.authenticate token authenticator.resolver signer now.wall params
    return ⟨actor, policyId, command⟩
  | .signed token => do
    let signed ← SignedCommand.authenticate token authenticator.resolver now params
    return ⟨signed.actor, signed.policyId, signed.command⟩

end Authenticator

end AccessControl
