import AccessControl.Crypto.Digest
import AccessControl.Policy.Relationship

/-!
# Commitments

A commitment announces registrations without naming the objects: it holds the root of a tree over
them. Its owner may open it as long as it is valid. It is never deleted; the only change to it is
that it is marked when it has expired.
-/

namespace AccessControl

/-- A commitment to registrations. -/
structure Commitment where
  /-- The number of the commitment, from 1 on. -/
  id : UInt64
  /-- The policy that the registrations belong to. -/
  policyId : String
  /-- The root of the tree over the committed objects. -/
  root : Digest
  /-- Whether the commitment has been marked as expired. -/
  expired : Bool
  /-- How long the commitment can be opened. -/
  validity : Validity
  provenance : Provenance
  deriving DecidableEq

namespace Commitment

/-- The actor that made the commitment. -/
def owner (commitment : Commitment) : Did :=
  commitment.provenance.owner

/-- The time at which the commitment was made. -/
def createdAt (commitment : Commitment) : Timestamp :=
  commitment.provenance.createdAt

/-- Whether the commitment can no longer be opened at a time, marked or not. -/
def isExpiredAt (commitment : Commitment) (now : Timestamp) : Bool :=
  commitment.createdAt.expiredAt commitment.validity now

/-- A commitment in JSON. -/
def toJson (commitment : Commitment) : Json :=
  .ofMembers [("id", .ofUInt64 commitment.id), ("policy_id", .ofText commitment.policyId),
    ("commitment", commitment.root.toJson), ("expired", .bool commitment.expired),
    ("validity", commitment.validity.toJson), ("metadata", commitment.provenance.toJson)]

/-- Reads a commitment from JSON. -/
def ofJson? (json : Json) : Option Commitment := do
  let record ←
    json.record? ["id", "policy_id", "commitment", "expired", "validity", "metadata"] .skip
  return {
    id := ← record.field? "id" Json.uint64?
    policyId := ← record.field? "policy_id" Json.text?
    root := ← record.field? "commitment" Digest.ofJson?
    expired := ← record.field? "expired" Json.bool?
    validity := ← record.field? "validity" Validity.ofJson?
    provenance := ← record.field? "metadata" Provenance.ofJson? }

end Commitment

end AccessControl
