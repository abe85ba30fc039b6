import AccessControl.Policy.Engine
import AccessControl.Store.SortedMap

/-!
# The relationship engine in memory

Each policy is a map from relationships to their records. The owner of an object may change the
relationships on it, and nobody else may; no other permissions are evaluated.

The operations work on the records in place, and nothing undoes what an operation did before it
failed. They are written as sequences of checks (`Action.read`) and of writes to the records of one
policy (`MemoryEngine.onPolicy`), in the order in which these are made.
-/

namespace AccessControl

/-- The records of one policy. -/
abbrev PolicyRecords := SortedMap Relationship RelationshipRecord

namespace PolicyRecords

/-- The ownership of an object and its record, if somebody owns it. -/
def registration? (records : PolicyRecords) (object : Object) :
    Option (Relationship × RelationshipRecord) :=
  records.entries.find? fun entry => entry.1.object = object && entry.1.isOwnership

/-- The records without the relationships on an object that are no ownership. -/
def withoutRelationships (records : PolicyRecords) (object : Object) : PolicyRecords :=
  records.filter fun relationship _ => relationship.object ≠ object || relationship.isOwnership

/-- How many relationships on an object are no ownership. -/
def relationshipCount (records : PolicyRecords) (object : Object) : UInt64 :=
  UInt64.ofNat (records.size - (records.withoutRelationships object).size)

/-! ### Writes -/

/-- Sets the record of a relationship. -/
def put (relationship : Relationship) (record : RelationshipRecord) :
    Action PolicyRecords EngineError Unit :=
  .change fun records => ((), records.insert relationship record)

/-- Removes the record of a relationship, and says whether there was one. -/
def remove (relationship : Relationship) : Action PolicyRecords EngineError Bool :=
  .change fun records => ((records.get? relationship).isSome, records.erase relationship)

/-- Removes the relationships on an object that are no ownership, and says how many there were. -/
def removeRelationships (object : Object) : Action PolicyRecords EngineError UInt64 :=
  .change fun records => (records.relationshipCount object, records.withoutRelationships object)

end PolicyRecords

/-- The relationships of all policies. -/
structure MemoryEngine where
  policies : SortedMap String PolicyRecords

namespace MemoryEngine

/-- The engine without policies. -/
def empty : MemoryEngine := ⟨.empty⟩

/-- The engine with a policy added, and whether there was none of that name. -/
def createPolicy (engine : MemoryEngine) (policyId : String) : Bool × MemoryEngine :=
  match engine.policies.get? policyId with
  | some _ => (false, engine)
  | none => (true, ⟨engine.policies.insert policyId .empty⟩)

/-- The records of a policy in the order of their relationships. -/
def records (engine : MemoryEngine) (policyId : String) : List RelationshipRecord :=
  match engine.policies.get? policyId with
  | some records => records.entries.map (·.2)
  | none => []

/-- The records of a policy that must exist. -/
def policy (engine : MemoryEngine) (policyId : String) : Except EngineError PolicyRecords :=
  match engine.policies.get? policyId with
  | some records => .ok records
  | none => .error (.policyNotFound policyId)

/-- The engine with the records of a policy replaced. -/
def withPolicy (engine : MemoryEngine) (policyId : String) (records : PolicyRecords) :
    MemoryEngine :=
  ⟨engine.policies.insert policyId records⟩

/-- Acts on the records of a policy that must exist. What was changed before a failure stays
changed. -/
def onPolicy {α : Type} (policyId : String) (action : Action PolicyRecords EngineError α) :
    Action MemoryEngine EngineError α :=
  .ofStep fun engine =>
    match engine.policies.get? policyId with
    | some records =>
      let (result, records) := action.run records
      (result, engine.withPolicy policyId records)
    | none => (.error (.policyNotFound policyId), engine)

/-- The ownership of an object that nobody but the actor may own. -/
def ownedRegistration? (policyId : String) (object : Object) (actor : Did)
    (engine : MemoryEngine) : Except EngineError (Option (Relationship × RelationshipRecord)) := do
  let records ← engine.policy policyId
  match records.registration? object with
  | some (relationship, record) =>
    if record.owner = actor then .ok (some (relationship, record))
    else .error (.notOwner object actor)
  | none => .ok none

/-- Accepts a relationship that may be set or deleted. -/
def checkRelationship (relationship : Relationship) : Except EngineError Unit :=
  if !relationship.object.isWellFormed || relationship.relation.isEmpty then
    .error (.malformedRelationship relationship)
  else if relationship.isOwnership then .error .ownershipRelation
  else if relationship.subject.target?.all Object.isWellFormed then .ok ()
  else .error (.malformedRelationship relationship)

/-- Accepts an object whose parts have names. -/
def checkObject (object : Object) : Except EngineError Unit :=
  if object.isWellFormed then .ok () else .error (.malformedObject object)

/-- Adds a relationship, unless it is there. -/
def setRelationship (policyId : String) (relationship : Relationship) (provenance : Provenance) :
    Action MemoryEngine EngineError SetOutcome := do
  .read fun _ => checkRelationship relationship
  match ← .read (ownedRegistration? policyId relationship.object provenance.owner) with
  | none => throw (.objectNotRegistered policyId relationship.object)
  | some (_, registration) =>
    if registration.archived then throw (.objectArchived relationship.object)
    else
      onPolicy policyId do
        match ← .read fun records => .ok (records.get? relationship) with
        | some record => return ⟨true, record⟩
        | none =>
          let record : RelationshipRecord := ⟨policyId, relationship, false, provenance⟩
          PolicyRecords.put relationship record
          return ⟨false, record⟩

/-- Removes a relationship, if it is there. -/
def deleteRelationship (policyId : String) (relationship : Relationship) (actor : Did) :
    Action MemoryEngine EngineError DeleteOutcome := do
  .read fun _ => checkRelationship relationship
  match ← .read (ownedRegistration? policyId relationship.object actor) with
  | none => throw (.objectNotRegistered policyId relationship.object)
  | some _ =>
    onPolicy policyId do
      let found ← PolicyRecords.remove relationship
      return ⟨found⟩

/-- Registers an object that nobody owns, or takes it into use again if its owner asks. -/
def register (policyId : String) (object : Object) (provenance : Provenance) :
    Action MemoryEngine EngineError RegisterOutcome := do
  .read fun _ => checkObject object
  onPolicy policyId do
    match ← .read fun records => .ok (records.registration? object) with
    | some (relationship, record) =>
      if record.owner ≠ provenance.owner then throw (.alreadyRegistered object record.owner)
      else if record.archived then
        let record := { record with archived := false }
        PolicyRecords.put relationship record
        return ⟨.unarchived, record⟩
      else return ⟨.unchanged, record⟩
    | none =>
      let relationship := Relationship.owner object provenance.owner
      let record : RelationshipRecord := ⟨policyId, relationship, false, provenance⟩
      PolicyRecords.put relationship record
      return ⟨.registered, record⟩

/-- Removes the ownership of an object and all other relationships on it. -/
def unregister (policyId : String) (object : Object) (actor : Did) :
    Action MemoryEngine EngineError UnregisterOutcome := do
  match ← .read (ownedRegistration? policyId object actor) with
  | none => return ⟨false, 0⟩
  | some (relationship, _) =>
    onPolicy policyId do
      let removed ← PolicyRecords.removeRelationships object
      let _ ← PolicyRecords.remove relationship
      return ⟨true, removed⟩

/-- Takes an object out of use, unless it is. -/
def archive (policyId : String) (object : Object) (actor : Did) :
    Action MemoryEngine EngineError ArchiveOutcome := do
  match ← .read (ownedRegistration? policyId object actor) with
  | none => return ⟨false, 0, false⟩
  | some (relationship, record) =>
    if record.archived then return ⟨true, 0, false⟩
    else
      onPolicy policyId do
        let removed ← PolicyRecords.removeRelationships object
        PolicyRecords.put relationship { record with archived := true }
        return ⟨true, removed, true⟩

/-- Takes an object into use again, unless it is. -/
def unarchive (policyId : String) (object : Object) (actor : Did) :
    Action MemoryEngine EngineError UnarchiveOutcome := do
  match ← .read (ownedRegistration? policyId object actor) with
  | none => throw (.objectNotRegistered policyId object)
  | some (relationship, record) =>
    if record.archived then
      let record := { record with archived := false }
      onPolicy policyId (PolicyRecords.put relationship record)
      return ⟨record, true⟩
    else return ⟨record, false⟩

/-- Replaces the ownership of a registered object. -/
def amend (policyId : String) (object : Object) (provenance : Provenance) :
    Action MemoryEngine EngineError RelationshipRecord :=
  onPolicy policyId do
    match ← .read fun records => .ok (records.registration? object) with
    | none => throw (.objectNotRegistered policyId object)
    | some (previous, previousRecord) =>
      let _ ← PolicyRecords.remove previous
      let relationship := Relationship.owner object provenance.owner
      -- The object stays in or out of use.
      let record : RelationshipRecord :=
        ⟨policyId, relationship, previousRecord.archived, provenance⟩
      PolicyRecords.put relationship record
      return record

instance : RelationshipEngine MemoryEngine where
  policyExists engine policyId := .ok (engine.policies.get? policyId).isSome
  registration? engine policyId object := do
    return ((← engine.policy policyId).registration? object).map (·.2)
  setRelationship := setRelationship
  deleteRelationship := deleteRelationship
  register := register
  unregister := unregister
  archive := archive
  unarchive := unarchive
  amend := amend

end MemoryEngine

end AccessControl
