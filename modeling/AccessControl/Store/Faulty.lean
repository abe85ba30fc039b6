import AccessControl.Policy.Engine
import AccessControl.Store.Basic

/-!
# Failing hosts

A store and an engine some of whose calls fail before they do anything. They stand for a host whose
storage is down, and show what the library leaves behind when that happens.
-/

namespace AccessControl

/-- The calls to a store. -/
inductive StoreCall where
  | get
  | set
  | delete
  | scan
  deriving DecidableEq

/-- The name of a call. -/
def StoreCall.name : StoreCall → String
  | get => "get"
  | set => "set"
  | delete => "delete"
  | scan => "scan"

/-- A store some of whose calls fail. -/
structure FaultyStore (σ : Type) where
  backend : σ
  /-- The calls that fail. -/
  faults : List StoreCall

namespace FaultyStore

variable {σ : Type}

/-- Refuses a call that fails. -/
def check (store : FaultyStore σ) (call : StoreCall) : Except StoreError Unit :=
  if call ∈ store.faults then .error (.backend (call.name ++ " failed")) else .ok ()

instance [Store σ] : Store (FaultyStore σ) where
  get? store key := do
    store.check .get
    Store.get? store.backend key
  set store key value := do
    store.check .set
    return { store with backend := ← Store.set store.backend key value }
  delete store key := do
    store.check .delete
    return { store with backend := ← Store.delete store.backend key }
  scan store start := do
    store.check .scan
    Store.scan store.backend start

end FaultyStore

/-- The calls to an engine: the question for a policy, that for an owner, and all that change. -/
inductive EngineCall where
  | policyExists
  | read
  | write
  deriving DecidableEq

/-- The name of a call. -/
def EngineCall.name : EngineCall → String
  | policyExists => "policy_exists"
  | read => "read"
  | write => "write"

/-- An engine some of whose calls fail. -/
structure FaultyEngine (ρ : Type) where
  backend : ρ
  /-- The calls that fail. -/
  faults : List EngineCall

namespace FaultyEngine

variable {ρ α : Type}

/-- Refuses a call that fails. -/
def check (engine : FaultyEngine ρ) (call : EngineCall) : Except EngineError Unit :=
  if call ∈ engine.faults then .error (.backend (call.name ++ " failed")) else .ok ()

/-- A change that fails where changes do. -/
def change (action : Action ρ EngineError α) : Action (FaultyEngine ρ) EngineError α := do
  Action.read fun engine => engine.check .write
  action.within backend fun engine backend => { engine with backend }

instance [RelationshipEngine ρ] : RelationshipEngine (FaultyEngine ρ) where
  policyExists engine policyId := do
    engine.check .policyExists
    RelationshipEngine.policyExists engine.backend policyId
  registration? engine policyId object := do
    engine.check .read
    RelationshipEngine.registration? engine.backend policyId object
  setRelationship policyId relationship provenance :=
    change (RelationshipEngine.setRelationship policyId relationship provenance)
  deleteRelationship policyId relationship actor :=
    change (RelationshipEngine.deleteRelationship policyId relationship actor)
  register policyId object provenance :=
    change (RelationshipEngine.register policyId object provenance)
  unregister policyId object actor :=
    change (RelationshipEngine.unregister policyId object actor)
  archive policyId object actor := change (RelationshipEngine.archive policyId object actor)
  unarchive policyId object actor := change (RelationshipEngine.unarchive policyId object actor)
  amend policyId object provenance := change (RelationshipEngine.amend policyId object provenance)

end FaultyEngine

end AccessControl
