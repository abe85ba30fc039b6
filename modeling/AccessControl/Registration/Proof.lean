import AccessControl.Crypto.Digest
import AccessControl.Json.Record
import AccessControl.Policy.Object

/-!
# Registration proofs

A proof opens one leaf of a commitment: it shows the committed object and the way from its leaf to
the root.
-/

namespace AccessControl

/-- The opening of one object of a commitment. -/
structure RegistrationProof where
  /-- The siblings from the leaf up to the root. -/
  path : List Digest
  /-- The committed object. -/
  object : Object
  /-- How many objects are committed. -/
  leafCount : UInt64
  /-- The position of the object among them. -/
  leafIndex : UInt64
  deriving DecidableEq

namespace RegistrationProof

/-- A proof in JSON. -/
def toJson (proof : RegistrationProof) : Json :=
  .ofMembers [("merkle_proof", .array (proof.path.map Digest.toJson)),
    ("object", proof.object.toJson), ("leaf_count", .ofUInt64 proof.leafCount),
    ("leaf_index", .ofUInt64 proof.leafIndex)]

/-- Reads a proof from JSON. -/
def ofJson? (json : Json) : Option RegistrationProof := do
  let record ← json.record? ["merkle_proof", "object", "leaf_count", "leaf_index"] .skip
  return {
    path := ← record.field? "merkle_proof" (Json.list? Digest.ofJson?)
    object := ← record.field? "object" Object.ofJson?
    leafCount := ← record.field? "leaf_count" Json.uint64?
    leafIndex := ← record.field? "leaf_index" Json.uint64? }

end RegistrationProof

end AccessControl
