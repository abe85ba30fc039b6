import AccessControl.Policy.Relationship

/-!
# Outcomes of changes to a policy

What the relationship engine answers to each change that it made.
-/

namespace AccessControl

/-- The outcome of setting a relationship. -/
structure SetOutcome where
  /-- Whether the fact was there before; then it is left as it was. -/
  existed : Bool
  record : RelationshipRecord
  deriving DecidableEq

/-- The outcome of deleting a relationship. -/
structure DeleteOutcome where
  /-- Whether the fact was there. -/
  found : Bool
  deriving DecidableEq

/-- How a registration came about. -/
inductive RegistrationChange where
  /-- The actor owned the object already. -/
  | unchanged
  /-- The object was nobody's before. -/
  | registered
  /-- The actor owned the object and it was out of use. -/
  | unarchived
  deriving DecidableEq

/-- The outcome of registering an object. -/
structure RegisterOutcome where
  change : RegistrationChange
  record : RelationshipRecord
  deriving DecidableEq

/-- The outcome of giving up an object. -/
structure UnregisterOutcome where
  /-- Whether the object was registered. -/
  found : Bool
  /-- How many relationships on the object went with it. -/
  removed : UInt64
  deriving DecidableEq

/-- The outcome of taking an object out of use. -/
structure ArchiveOutcome where
  /-- Whether the object is registered. -/
  found : Bool
  /-- How many relationships on the object were removed. -/
  removed : UInt64
  /-- Whether the object was in use before. -/
  modified : Bool
  deriving DecidableEq

/-- The outcome of taking an object into use again. -/
structure UnarchiveOutcome where
  record : RelationshipRecord
  /-- Whether the object was out of use before. -/
  modified : Bool
  deriving DecidableEq

namespace SetOutcome

/-- The outcome in JSON. -/
def toJson (outcome : SetOutcome) : Json :=
  .ofMembers [("record_existed", .bool outcome.existed), ("record", outcome.record.toJson)]

/-- Reads the outcome from JSON. -/
def ofJson? (form : Json.Form) (json : Json) : Option SetOutcome := do
  let record ← json.record? ["record_existed", "record"] .skip
  return {
    existed := ← record.field? "record_existed" Json.bool?
    record := ← record.field? "record" (RelationshipRecord.ofJson? form) }

end SetOutcome

namespace DeleteOutcome

/-- The outcome in JSON. -/
def toJson (outcome : DeleteOutcome) : Json :=
  .ofMembers [("record_found", .bool outcome.found)]

/-- Reads the outcome from JSON. -/
def ofJson? (json : Json) : Option DeleteOutcome := do
  let record ← json.record? ["record_found"] .skip
  return { found := ← record.field? "record_found" Json.bool? }

end DeleteOutcome

namespace RegistrationChange

/-- The name of the change. -/
def name : RegistrationChange → String
  | unchanged => "no_op"
  | registered => "registered"
  | unarchived => "unarchived"

/-- All changes. -/
def all : List RegistrationChange :=
  [unchanged, registered, unarchived]

/-- A change in JSON is its name. -/
def toJson (change : RegistrationChange) : Json :=
  .ofText change.name

/-- Reads a change from JSON. -/
def ofJson? (json : Json) : Option RegistrationChange := do
  let (tag, content) ← json.variant?
  Json.noContent? content
  all.find? (·.name == tag)

end RegistrationChange

namespace RegisterOutcome

/-- The outcome in JSON. -/
def toJson (outcome : RegisterOutcome) : Json :=
  .ofMembers [("result", outcome.change.toJson), ("record", outcome.record.toJson)]

/-- Reads the outcome from JSON. -/
def ofJson? (form : Json.Form) (json : Json) : Option RegisterOutcome := do
  let record ← json.record? ["result", "record"] .skip
  return {
    change := ← record.field? "result" RegistrationChange.ofJson?
    record := ← record.field? "record" (RelationshipRecord.ofJson? form) }

end RegisterOutcome

namespace UnregisterOutcome

/-- The outcome in JSON. -/
def toJson (outcome : UnregisterOutcome) : Json :=
  .ofMembers [("found", .bool outcome.found), ("relationships_removed", .ofUInt64 outcome.removed)]

/-- Reads the outcome from JSON. -/
def ofJson? (json : Json) : Option UnregisterOutcome := do
  let record ← json.record? ["found", "relationships_removed"] .skip
  return {
    found := ← record.field? "found" Json.bool?
    removed := ← record.field? "relationships_removed" Json.uint64? }

end UnregisterOutcome

namespace ArchiveOutcome

/-- The outcome in JSON. -/
def toJson (outcome : ArchiveOutcome) : Json :=
  .ofMembers [("found", .bool outcome.found), ("relationships_removed", .ofUInt64 outcome.removed),
    ("record_modified", .bool outcome.modified)]

/-- Reads the outcome from JSON. -/
def ofJson? (json : Json) : Option ArchiveOutcome := do
  let record ← json.record? ["found", "relationships_removed", "record_modified"] .skip
  return {
    found := ← record.field? "found" Json.bool?
    removed := ← record.field? "relationships_removed" Json.uint64?
    modified := ← record.field? "record_modified" Json.bool? }

end ArchiveOutcome

namespace UnarchiveOutcome

/-- The outcome in JSON. -/
def toJson (outcome : UnarchiveOutcome) : Json :=
  .ofMembers [("record", outcome.record.toJson), ("record_modified", .bool outcome.modified)]

/-- Reads the outcome from JSON. -/
def ofJson? (form : Json.Form) (json : Json) : Option UnarchiveOutcome := do
  let record ← json.record? ["record", "record_modified"] .skip
  return {
    record := ← record.field? "record" (RelationshipRecord.ofJson? form)
    modified := ← record.field? "record_modified" Json.bool? }

end UnarchiveOutcome

end AccessControl
