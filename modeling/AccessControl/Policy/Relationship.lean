import AccessControl.Identity.Did
import AccessControl.Policy.Object
import AccessControl.Time.Timestamp

/-!
# Relationships

A relationship is a fact: a subject holds a relation on an object. Who owns an object is the fact
with the relation `owner`. Facts are kept as records together with their provenance: when, for whom
and by which transaction they were made.

Relationships are ordered by object, relation and subject, where actors come before objects, objects
before actor sets and these before all actors. `Relationship.sortKey` is the order's key, a list of
texts; relationships with the same key are equal.
-/

namespace AccessControl

/-- Who holds a relation. -/
inductive Subject where
  /-- One actor. -/
  | actor (did : Did)
  /-- An object. -/
  | object (target : Object)
  /-- Every actor that holds a relation on an object. -/
  | actorSet (target : Object) (relation : String)
  /-- Every actor. -/
  | allActors
  deriving DecidableEq

namespace Subject

/-- A subject in messages. -/
def text : Subject → String
  | .actor did => did.text
  | .object target => target.text
  | .actorSet target relation => target.text ++ "#" ++ relation
  | .allActors => "*"

/-- The object that a subject refers to, if it does. -/
def target? : Subject → Option Object
  | .object target => some target
  | .actorSet target _ => some target
  | _ => none

/-- The kind of the subject in its order, and then its parts. -/
def sortKey : Subject → List String
  | .actor did => ["0", did.text]
  | .object target => ["1", target.resource, target.id]
  | .actorSet target relation => ["2", target.resource, target.id, relation]
  | .allActors => ["3"]

theorem sortKey_inj {first second : Subject} (h : first.sortKey = second.sortKey) :
    first = second := by
  cases first with
  | actor did =>
    cases second with
    | actor other =>
      have htext : did.text = other.text := by simpa [sortKey] using h
      rw [Did.text_inj htext]
    | _ => simp [sortKey] at h
  | object target =>
    obtain ⟨resource, id⟩ := target
    cases second <;> simp_all [sortKey]
  | actorSet target relation =>
    obtain ⟨resource, id⟩ := target
    cases second <;> simp_all [sortKey]
  | allActors => cases second <;> simp_all [sortKey]

/-- A subject in JSON. -/
def toJson : Subject → Json
  | .actor did => .ofVariant "actor" did.toJson
  | .object target => .ofVariant "object" target.toJson
  | .actorSet target relation =>
    .ofVariant "actor_set" (.ofMembers
      [("object", target.toJson), ("relation", .ofText relation)])
  | .allActors => .ofText "all_actors"

/-- Reads a subject from JSON. -/
def ofJson? (form : Json.Form) (json : Json) : Option Subject :=
  match json.variant? with
  | some ("actor", some content) => (Did.ofJson? content).map actor
  | some ("object", some content) => (Object.ofJson? content).map object
  | some ("actor_set", some content) => do
    let record ← content.content? form ["object", "relation"]
    let target ← record.field? "object" Object.ofJson?
    let relation ← record.field? "relation" Json.text?
    return actorSet target relation
  | some ("all_actors", content) => (Json.noContent? content).map fun _ => allActors
  | _ => none

end Subject

/-- The fact that a subject holds a relation on an object. -/
structure Relationship where
  object : Object
  relation : String
  subject : Subject
  deriving DecidableEq

namespace Relationship

/-- The relation that the owner of an object holds. -/
def ownerRelation : String := "owner"

/-- The fact that an actor owns an object. -/
def owner (object : Object) (actor : Did) : Relationship :=
  ⟨object, ownerRelation, .actor actor⟩

/-- Whether the fact says who owns an object. -/
def isOwnership (relationship : Relationship) : Bool :=
  relationship.relation == ownerRelation

/-- A relationship in messages. -/
def text (relationship : Relationship) : String :=
  relationship.object.text ++ "#" ++ relationship.relation ++ "@" ++ relationship.subject.text

/-- What relationships are ordered by. -/
def sortKey (relationship : Relationship) : List String :=
  relationship.object.resource :: relationship.object.id :: relationship.relation ::
    relationship.subject.sortKey

theorem sortKey_inj {first second : Relationship} (h : first.sortKey = second.sortKey) :
    first = second := by
  obtain ⟨⟨resource, id⟩, relation, subject⟩ := first
  obtain ⟨⟨resource', id'⟩, relation', subject'⟩ := second
  simp only [sortKey, List.cons.injEq] at h
  obtain ⟨rfl, rfl, rfl, h⟩ := h
  rw [Subject.sortKey_inj h]

instance : Ord Relationship where
  compare first second := compare first.sortKey second.sortKey

instance : Std.TransOrd Relationship where
  eq_swap {first second} :=
    show compare first.sortKey second.sortKey = (compare second.sortKey first.sortKey).swap from
      Std.OrientedOrd.eq_swap
  isLE_trans {first second third} (h : (compare first.sortKey second.sortKey).isLE)
      (h' : (compare second.sortKey third.sortKey).isLE) :=
    show (compare first.sortKey third.sortKey).isLE from Std.TransOrd.isLE_trans h h'

instance : Std.LawfulEqOrd Relationship where
  compare_self {relationship} :=
    show compare relationship.sortKey relationship.sortKey = .eq from Std.ReflOrd.compare_self
  eq_of_compare {first second} (h : compare first.sortKey second.sortKey = .eq) :=
    sortKey_inj (Std.LawfulEqOrd.eq_of_compare h)

/-- A relationship in JSON. -/
def toJson (relationship : Relationship) : Json :=
  .ofMembers [("object", relationship.object.toJson), ("relation", .ofText relationship.relation),
    ("subject", relationship.subject.toJson)]

/-- Reads a relationship from JSON. -/
def ofJson? (form : Json.Form) (json : Json) : Option Relationship := do
  let record ← json.record? ["object", "relation", "subject"] .skip
  return {
    object := ← record.field? "object" Object.ofJson?
    relation := ← record.field? "relation" Json.text?
    subject := ← record.field? "subject" (Subject.ofJson? form) }

end Relationship

/-- When, for whom and by which transaction a record was made. -/
structure Provenance where
  /-- The time of the block. -/
  createdAt : Timestamp
  /-- The actor that owns the record. -/
  owner : Did
  /-- The address of the signer of the transaction. -/
  txSigner : String
  /-- The hash of the transaction, if it is known. -/
  txHash : Option String
  deriving DecidableEq

namespace Provenance

/-- A provenance in JSON; a missing hash is left out. -/
def toJson (provenance : Provenance) : Json :=
  .ofMembers ([("creation_ts", provenance.createdAt.toJson),
      ("owner_did", provenance.owner.toJson), ("tx_signer", .ofText provenance.txSigner)] ++
    (provenance.txHash.map fun hash => ("tx_hash", Json.ofText hash)).toList)

/-- Reads a provenance from JSON. -/
def ofJson? (json : Json) : Option Provenance := do
  let record ← json.record? ["creation_ts", "owner_did", "tx_signer", "tx_hash"] .skip
  return {
    createdAt := ← record.field? "creation_ts" Timestamp.ofJson?
    owner := ← record.field? "owner_did" Did.ofJson?
    txSigner := ← record.field? "tx_signer" Json.text?
    txHash := ← record.optional? "tx_hash" Json.text? }

end Provenance

/-- A fact as it is kept. -/
structure RelationshipRecord where
  /-- The policy that the fact belongs to. -/
  policyId : String
  relationship : Relationship
  /-- Whether the object is out of use; its owner keeps it. -/
  archived : Bool
  provenance : Provenance
  deriving DecidableEq

namespace RelationshipRecord

/-- The actor that owns the record, and the object if the record says who does. -/
def owner (record : RelationshipRecord) : Did :=
  record.provenance.owner

/-- A record in JSON. -/
def toJson (record : RelationshipRecord) : Json :=
  .ofMembers [("policy_id", .ofText record.policyId),
    ("relationship", record.relationship.toJson), ("archived", .bool record.archived),
    ("metadata", record.provenance.toJson)]

/-- Reads a record from JSON. -/
def ofJson? (form : Json.Form) (json : Json) : Option RelationshipRecord := do
  let record ← json.record? ["policy_id", "relationship", "archived", "metadata"] .skip
  return {
    policyId := ← record.field? "policy_id" Json.text?
    relationship := ← record.field? "relationship" (Relationship.ofJson? form)
    archived := ← record.field? "archived" Json.bool?
    provenance := ← record.field? "metadata" Provenance.ofJson? }

end RelationshipRecord

end AccessControl
