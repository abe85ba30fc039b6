import AccessControl.Policy.Relationship

/-!
# Amendments

Every opened commitment leaves an amendment behind: who owns the object since then, and who owned it
before. The previous owner may dispute it, which marks the amendment and changes nothing else.
-/

namespace AccessControl

/-- What became of an object when a commitment to it was opened. -/
structure Amendment where
  /-- The number of the amendment, from 1 on. -/
  id : UInt64
  /-- The policy of the object. -/
  policyId : String
  object : Object
  /-- The owner since the amendment. -/
  newOwner : Did
  /-- The owner before, if there was one. -/
  previousOwner : Option Did
  /-- The number of the opened commitment. -/
  commitmentId : UInt64
  /-- Whether the previous owner disputes the amendment. -/
  disputed : Bool
  provenance : Provenance
  deriving DecidableEq

namespace Amendment

/-- An amendment in JSON; a missing previous owner is left out. -/
def toJson (amendment : Amendment) : Json :=
  .ofMembers ([("id", .ofUInt64 amendment.id), ("policy_id", .ofText amendment.policyId),
      ("object", amendment.object.toJson), ("new_owner", amendment.newOwner.toJson)] ++
    (amendment.previousOwner.map fun owner => ("previous_owner", owner.toJson)).toList ++
    [("commitment_id", .ofUInt64 amendment.commitmentId),
      ("hijack_flag", .bool amendment.disputed), ("metadata", amendment.provenance.toJson)])

/-- Reads an amendment from JSON. -/
def ofJson? (json : Json) : Option Amendment := do
  let record ← json.record? ["id", "policy_id", "object", "new_owner", "previous_owner",
    "commitment_id", "hijack_flag", "metadata"] .skip
  return {
    id := ← record.field? "id" Json.uint64?
    policyId := ← record.field? "policy_id" Json.text?
    object := ← record.field? "object" Object.ofJson?
    newOwner := ← record.field? "new_owner" Did.ofJson?
    previousOwner := ← record.optional? "previous_owner" Did.ofJson?
    commitmentId := ← record.field? "commitment_id" Json.uint64?
    disputed := ← record.field? "hijack_flag" Json.bool?
    provenance := ← record.field? "metadata" Provenance.ofJson? }

end Amendment

end AccessControl
