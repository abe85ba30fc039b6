import AccessControl.Proofs.Policy.Operations
import Mathlib.Data.Finmap

/-!
# A relationship engine in two tables

`TableEngine` is what one would write down if asked what a relationship engine does. For each policy
it has two tables: one says of an object who owns it and whether it is out of use, the other one has
the records of the relationships that are no ownership. An owner is looked up and not searched for,
nobody can own an object twice, and what goes with an object is counted before it goes. Records of
ownerships are not kept but written from the first table when somebody asks.

`PolicyEngine.carryOut` carries out an operation on any engine that has policies and collects its
answer, so that two engines can be asked the same and their answers compared.
-/

namespace AccessControl

/-! ### One policy -/

/-- Who owns an object, and whether the object is out of use. -/
structure Registration where
  provenance : Provenance
  archived : Bool
  deriving DecidableEq

namespace Registration

/-- The actor that owns the object. -/
def owner (registration : Registration) : Did :=
  registration.provenance.owner

/-- The record that says who owns an object of a policy. -/
def record (registration : Registration) (policyId : String) (object : Object) :
    RelationshipRecord :=
  ⟨policyId, .owner object registration.owner, registration.archived, registration.provenance⟩

end Registration

/-- The two tables of a policy. -/
structure PolicyTables where
  registrations : Finmap fun _ : Object => Registration
  /-- The records of the relationships that are no ownership. -/
  relationships : Finmap fun _ : Relationship => RelationshipRecord

namespace PolicyTables

/-- The tables of a policy without objects. -/
def empty : PolicyTables := ⟨∅, ∅⟩

variable (tables : PolicyTables)

/-- The relationships on an object. -/
def relationshipsOn (object : Object) : Finset Relationship :=
  tables.relationships.keys.filter (·.object = object)

/-- The tables with the registration of an object set. -/
def register (object : Object) (registration : Registration) : PolicyTables :=
  { tables with registrations := tables.registrations.insert object registration }

/-- The tables with an object given up. -/
def unregister (object : Object) : PolicyTables :=
  { tables with registrations := tables.registrations.erase object }

/-- The tables with a relationship added. -/
def relate (record : RelationshipRecord) : PolicyTables :=
  { tables with relationships := tables.relationships.insert record.relationship record }

/-- The tables with a relationship removed. -/
def unrelate (relationship : Relationship) : PolicyTables :=
  { tables with relationships := tables.relationships.erase relationship }

/-- The tables with all relationships on an object removed. -/
def clear (object : Object) : PolicyTables where
  registrations := tables.registrations
  relationships := {
    entries := tables.relationships.entries.filter fun entry => entry.1.object ≠ object
    nodupKeys := Multiset.nodup_keys.mp <|
      Multiset.nodup_of_le (Multiset.map_le_map (Multiset.filter_le _ _))
        tables.relationships.nodupKeys.nodup_keys }

/-- The registration of an object that nobody but the actor may own. -/
def owned? (object : Object) (actor : Did) : Except EngineError (Option Registration) :=
  match tables.registrations.lookup object with
  | none => .ok none
  | some registration =>
    if registration.owner = actor then .ok (some registration)
    else .error (.notOwner object actor)

end PolicyTables

/-! ### All policies -/

/-- An engine that keeps two tables for each policy. -/
structure TableEngine where
  policies : Finmap fun _ : String => PolicyTables

namespace TableEngine

/-- The engine without policies. -/
def empty : TableEngine := ⟨∅⟩

/-- The tables of a policy that must exist. -/
def policy (engine : TableEngine) (policyId : String) : Except EngineError PolicyTables :=
  match engine.policies.lookup policyId with
  | some tables => .ok tables
  | none => .error (.policyNotFound policyId)

/-- The engine with the tables of a policy replaced. -/
def withPolicy (engine : TableEngine) (policyId : String) (tables : PolicyTables) : TableEngine :=
  ⟨engine.policies.insert policyId tables⟩

/-- Adds a policy, and says whether there was none of that name. -/
def createPolicy (policyId : String) (engine : TableEngine) : Bool × TableEngine :=
  if policyId ∈ engine.policies then (false, engine)
  else (true, engine.withPolicy policyId .empty)

/-- Why a relationship can be set or deleted in no policy: a part of it has no name, or it is for
registrations to make. -/
def refusal? (relationship : Relationship) : Option EngineError :=
  if ¬ relationship.object.isWellFormed ∨ relationship.relation = "" then
    some (.malformedRelationship relationship)
  else if relationship.relation = Relationship.ownerRelation then some .ownershipRelation
  else
    match relationship.subject with
    | .object target | .actorSet target _ =>
      if target.isWellFormed then none else some (.malformedRelationship relationship)
    | .actor _ | .allActors => none

/-- Adds a relationship, unless it is there. -/
def setRelationship (policyId : String) (relationship : Relationship) (provenance : Provenance)
    (engine : TableEngine) : Except EngineError (SetOutcome × TableEngine) :=
  match refusal? relationship with
  | some error => .error error
  | none => do
    let tables ← engine.policy policyId
    match ← tables.owned? relationship.object provenance.owner with
    | none => .error (.objectNotRegistered policyId relationship.object)
    | some registration =>
      if registration.archived then .error (.objectArchived relationship.object)
      else
        match tables.relationships.lookup relationship with
        | some record => .ok (⟨true, record⟩, engine)
        | none =>
          let record : RelationshipRecord := ⟨policyId, relationship, false, provenance⟩
          .ok (⟨false, record⟩, engine.withPolicy policyId (tables.relate record))

/-- Removes a relationship, if it is there. -/
def deleteRelationship (policyId : String) (relationship : Relationship) (actor : Did)
    (engine : TableEngine) : Except EngineError (DeleteOutcome × TableEngine) :=
  match refusal? relationship with
  | some error => .error error
  | none => do
    let tables ← engine.policy policyId
    match ← tables.owned? relationship.object actor with
    | none => .error (.objectNotRegistered policyId relationship.object)
    | some _ =>
      .ok (⟨relationship ∈ tables.relationships⟩,
        engine.withPolicy policyId (tables.unrelate relationship))

/-- Registers an object that nobody owns, or takes it into use again if its owner asks. -/
def register (policyId : String) (object : Object) (provenance : Provenance)
    (engine : TableEngine) : Except EngineError (RegisterOutcome × TableEngine) :=
  if ¬ object.isWellFormed then .error (.malformedObject object)
  else do
    let tables ← engine.policy policyId
    match tables.registrations.lookup object with
    | none =>
      let registration : Registration := ⟨provenance, false⟩
      .ok (⟨.registered, registration.record policyId object⟩,
        engine.withPolicy policyId (tables.register object registration))
    | some registration =>
      if registration.owner ≠ provenance.owner then
        .error (.alreadyRegistered object registration.owner)
      else if registration.archived then
        let registration := { registration with archived := false }
        .ok (⟨.unarchived, registration.record policyId object⟩,
          engine.withPolicy policyId (tables.register object registration))
      else .ok (⟨.unchanged, registration.record policyId object⟩, engine)

/-- Gives up an object, and removes the relationships on it. -/
def unregister (policyId : String) (object : Object) (actor : Did) (engine : TableEngine) :
    Except EngineError (UnregisterOutcome × TableEngine) := do
  let tables ← engine.policy policyId
  match ← tables.owned? object actor with
  | none => .ok (⟨false, 0⟩, engine)
  | some _ =>
    .ok (⟨true, UInt64.ofNat (tables.relationshipsOn object).card⟩,
      engine.withPolicy policyId ((tables.clear object).unregister object))

/-- Takes an object out of use and removes the relationships on it, unless it is. -/
def archive (policyId : String) (object : Object) (actor : Did) (engine : TableEngine) :
    Except EngineError (ArchiveOutcome × TableEngine) := do
  let tables ← engine.policy policyId
  match ← tables.owned? object actor with
  | none => .ok (⟨false, 0, false⟩, engine)
  | some registration =>
    if registration.archived then .ok (⟨true, 0, false⟩, engine)
    else
      .ok (⟨true, UInt64.ofNat (tables.relationshipsOn object).card, true⟩,
        engine.withPolicy policyId
          ((tables.clear object).register object { registration with archived := true }))

/-- Takes an object into use again, unless it is. -/
def unarchive (policyId : String) (object : Object) (actor : Did) (engine : TableEngine) :
    Except EngineError (UnarchiveOutcome × TableEngine) := do
  let tables ← engine.policy policyId
  match ← tables.owned? object actor with
  | none => .error (.objectNotRegistered policyId object)
  | some registration =>
    if registration.archived then
      let registration := { registration with archived := false }
      .ok (⟨registration.record policyId object, true⟩,
        engine.withPolicy policyId (tables.register object registration))
    else .ok (⟨registration.record policyId object, false⟩, engine)

/-- Gives a registered object to somebody else. -/
def amend (policyId : String) (object : Object) (provenance : Provenance) (engine : TableEngine) :
    Except EngineError (RelationshipRecord × TableEngine) := do
  let tables ← engine.policy policyId
  match tables.registrations.lookup object with
  | none => .error (.objectNotRegistered policyId object)
  | some previous =>
    let registration : Registration := ⟨provenance, previous.archived⟩
    .ok (registration.record policyId object,
      engine.withPolicy policyId (tables.register object registration))

instance : RelationshipEngine TableEngine where
  policyExists engine policyId := .ok (policyId ∈ engine.policies)
  registration? engine policyId object := do
    let tables ← engine.policy policyId
    return (tables.registrations.lookup object).map (·.record policyId object)
  setRelationship policyId relationship provenance :=
    .attempt (setRelationship policyId relationship provenance)
  deleteRelationship policyId relationship actor :=
    .attempt (deleteRelationship policyId relationship actor)
  register policyId object provenance := .attempt (register policyId object provenance)
  unregister policyId object actor := .attempt (unregister policyId object actor)
  archive policyId object actor := .attempt (archive policyId object actor)
  unarchive policyId object actor := .attempt (unarchive policyId object actor)
  amend policyId object provenance := .attempt (amend policyId object provenance)

/-- How many relationships there are on an object of a policy, its ownership not counted. -/
def relationshipCount (engine : TableEngine) (policyId : String) (object : Object) : Nat :=
  match engine.policies.lookup policyId with
  | some tables => (tables.relationshipsOn object).card
  | none => 0

end TableEngine

/-! ### Operations and answers -/

/-- An engine to which the host can add policies. -/
class PolicyEngine (ρ : Type) extends RelationshipEngine ρ where
  /-- Adds a policy, and says whether there was none of that name. -/
  createPolicy : String → ρ → Bool × ρ

instance : PolicyEngine MemoryEngine where
  createPolicy policyId engine := engine.createPolicy policyId

instance : PolicyEngine TableEngine where
  createPolicy := TableEngine.createPolicy

/-- What an engine answers to an operation. -/
inductive EngineAnswer where
  | policyCreated (isNew : Bool)
  | relationshipSet (result : Except EngineError SetOutcome)
  | relationshipDeleted (result : Except EngineError DeleteOutcome)
  | registered (result : Except EngineError RegisterOutcome)
  | unregistered (result : Except EngineError UnregisterOutcome)
  | archived (result : Except EngineError ArchiveOutcome)
  | unarchived (result : Except EngineError UnarchiveOutcome)
  | amended (result : Except EngineError RelationshipRecord)

namespace PolicyEngine

variable {ρ : Type} [PolicyEngine ρ]

/-- Carries out an operation: the answer, and the engine afterwards. -/
def carryOut (engine : ρ) : MemoryEngine.Operation → EngineAnswer × ρ
  | .createPolicy policyId => (createPolicy policyId engine).map .policyCreated id
  | .setRelationship policyId relationship provenance =>
    ((RelationshipEngine.setRelationship policyId relationship provenance).run engine).map
      .relationshipSet id
  | .deleteRelationship policyId relationship actor =>
    ((RelationshipEngine.deleteRelationship policyId relationship actor).run engine).map
      .relationshipDeleted id
  | .register policyId object provenance =>
    ((RelationshipEngine.register policyId object provenance).run engine).map .registered id
  | .unregister policyId object actor =>
    ((RelationshipEngine.unregister policyId object actor).run engine).map .unregistered id
  | .archive policyId object actor =>
    ((RelationshipEngine.archive policyId object actor).run engine).map .archived id
  | .unarchive policyId object actor =>
    ((RelationshipEngine.unarchive policyId object actor).run engine).map .unarchived id
  | .amend policyId object provenance =>
    ((RelationshipEngine.amend policyId object provenance).run engine).map .amended id

/-- Carries out operations one after the other, whether they succeed or fail: the answers, and the
engine in the end. -/
def carryOutAll : List MemoryEngine.Operation → ρ → List EngineAnswer × ρ
  | [], engine => ([], engine)
  | operation :: rest, engine =>
    let (answer, engine) := carryOut engine operation
    let (answers, engine) := carryOutAll rest engine
    (answer :: answers, engine)

theorem carryOutAll_cons (operation : MemoryEngine.Operation)
    (rest : List MemoryEngine.Operation) (engine : ρ) :
    carryOutAll (operation :: rest) engine =
      ((carryOut engine operation).1 :: (carryOutAll rest (carryOut engine operation).2).1,
        (carryOutAll rest (carryOut engine operation).2).2) :=
  rfl

end PolicyEngine

end AccessControl
