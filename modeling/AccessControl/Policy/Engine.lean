import AccessControl.Action
import AccessControl.ErrorKind
import AccessControl.Policy.Outcome

/-!
# Relationship engines

The engine keeps the relationships of each policy. The rest of the library changes them only through
the operations of `RelationshipEngine`, each of which acts for an actor: the owner that a provenance
names, or the actor that is given.

An operation is an `Action`, so an engine may in principle change and then fail. `FailsClean` is the
law that it does not.
-/

namespace AccessControl

/-- Why an engine refuses an operation. -/
inductive EngineError where
  /-- The policy does not exist. -/
  | policyNotFound (policyId : String)
  /-- Nobody owns the object. -/
  | objectNotRegistered (policyId : String) (object : Object)
  /-- Somebody else owns the object. -/
  | notOwner (object : Object) (actor : Did)
  /-- Somebody else owns the object that the actor claims. -/
  | alreadyRegistered (object : Object) (owner : Did)
  /-- The object is out of use. -/
  | objectArchived (object : Object)
  /-- A part of the relationship has no name. -/
  | malformedRelationship (relationship : Relationship)
  /-- The relationship is an ownership, which only registrations make. -/
  | ownershipRelation
  /-- A part of the object has no name. -/
  | malformedObject (object : Object)
  /-- The engine failed. -/
  | backend (reason : String)

namespace EngineError

/-- The error in words. -/
def message : EngineError → String
  | policyNotFound policyId => "policy " ++ policyId ++ " not found"
  | objectNotRegistered policyId object =>
    "object " ++ object.text ++ " is not registered in policy " ++ policyId
  | notOwner object actor => "actor " ++ actor.text ++ " is not the owner of " ++ object.text
  | alreadyRegistered object owner =>
    "object " ++ object.text ++ " is already registered to " ++ owner.text
  | objectArchived object => "object " ++ object.text ++ " is archived"
  | malformedRelationship relationship => "invalid relationship: " ++ relationship.text
  | ownershipRelation =>
    "invalid relationship: the " ++ Relationship.ownerRelation ++
      " relation is managed through object registration"
  | malformedObject object =>
    "invalid relationship: object " ++ object.text ++ " needs a resource and an id"
  | backend reason => "relationship engine failure: " ++ reason

/-- The kind of the error. -/
def kind : EngineError → ErrorKind
  | policyNotFound _ => .notFound
  | objectNotRegistered _ _ => .notFound
  | notOwner _ _ => .unauthorized
  | alreadyRegistered _ _ => .operationForbidden
  | objectArchived _ => .operationForbidden
  | malformedRelationship _ => .badInput
  | ownershipRelation => .badInput
  | malformedObject _ => .badInput
  | backend _ => .internal

end EngineError

/-- The operations on the relationships of policies. -/
class RelationshipEngine (ρ : Type) where
  /-- Whether a policy exists. -/
  policyExists (engine : ρ) (policyId : String) : Except EngineError Bool
  /-- The record of who owns an object, if somebody does. -/
  registration? (engine : ρ) (policyId : String) (object : Object) :
    Except EngineError (Option RelationshipRecord)
  /-- Adds a relationship for the owner that the provenance names. -/
  setRelationship (policyId : String) (relationship : Relationship) (provenance : Provenance) :
    Action ρ EngineError SetOutcome
  /-- Removes a relationship. -/
  deleteRelationship (policyId : String) (relationship : Relationship) (actor : Did) :
    Action ρ EngineError DeleteOutcome
  /-- Makes the owner that the provenance names the owner of an object. -/
  register (policyId : String) (object : Object) (provenance : Provenance) :
    Action ρ EngineError RegisterOutcome
  /-- Gives up an object, and removes all relationships on it. -/
  unregister (policyId : String) (object : Object) (actor : Did) :
    Action ρ EngineError UnregisterOutcome
  /-- Takes an object out of use and removes the other relationships on it. -/
  archive (policyId : String) (object : Object) (actor : Did) : Action ρ EngineError ArchiveOutcome
  /-- Takes an object into use again. -/
  unarchive (policyId : String) (object : Object) (actor : Did) :
    Action ρ EngineError UnarchiveOutcome
  /-- Gives a registered object to the owner that the provenance names. The object stays in or out
  of use, and the other relationships on it stay. -/
  amend (policyId : String) (object : Object) (provenance : Provenance) :
    Action ρ EngineError RelationshipRecord

/-- An action that changes nothing when it fails. -/
def Action.FailsClean {σ ε α : Type} (action : Action σ ε α) : Prop :=
  ∀ state error, (action.run state).1 = .error error → (action.run state).2 = state

theorem Action.failsClean_attempt {σ ε α : Type} (step : σ → Except ε (α × σ)) :
    (Action.attempt step).FailsClean := by
  intro state error h
  rw [Action.run_attempt] at h ⊢
  split at h
  · cases h
  · rfl

end AccessControl
