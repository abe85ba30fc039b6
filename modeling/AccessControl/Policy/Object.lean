import AccessControl.Json.Record

/-!
# Objects

What a policy protects: an object is named by the kind of resource it is and an identifier among the
resources of that kind.
-/

namespace AccessControl

/-- An object of a policy. -/
structure Object where
  /-- The kind of resource. -/
  resource : String
  /-- The identifier among the resources of its kind. -/
  id : String
  deriving DecidableEq

namespace Object

/-- Whether both parts of the name are given. -/
def isWellFormed (object : Object) : Bool :=
  !object.resource.isEmpty && !object.id.isEmpty

/-- An object in messages. -/
def text (object : Object) : String :=
  object.resource ++ ":" ++ object.id

/-- An object in JSON. -/
def toJson (object : Object) : Json :=
  .ofMembers [("resource", .ofText object.resource), ("id", .ofText object.id)]

/-- Reads an object from JSON. -/
def ofJson? (json : Json) : Option Object := do
  let record ← json.record? ["resource", "id"] .skip
  return {
    resource := ← record.field? "resource" Json.text?
    id := ← record.field? "id" Json.text? }

end Object

end AccessControl
