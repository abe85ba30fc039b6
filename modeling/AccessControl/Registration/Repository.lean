import AccessControl.Registration.Amendment
import AccessControl.Registration.Commitment
import AccessControl.Store.Sequence

/-!
# Where commitments and amendments are kept

Commitments and amendments are records in a store, each at a key that ends with its number. Beside
them stand entries without a value, whose keys lead to the records:

| key | value |
|---|---|
| `reg/commitment/seq` | the number of the last commitment |
| `reg/commitment/id/` number | a commitment |
| `reg/commitment/expired/` 0 or 1 `/` number | a commitment that is not or is marked as expired |
| `reg/commitment/root/` root `/` number | a commitment with the root |
| `reg/event/seq` | the number of the last amendment |
| `reg/event/id/` number | an amendment |
| `reg/event/hijack/` length, policy `/` number | a disputed amendment in the policy |

Numbers have eight octets with the most significant one first, so the order of the keys is that of
the numbers.
-/

namespace AccessControl.Repository

/-! ### Keys -/

/-- The sequence that numbers commitments. -/
def commitmentSequence : Sequence := ⟨Bytes.ofText "reg/commitment/seq"⟩

/-- The sequence that numbers amendments. -/
def amendmentSequence : Sequence := ⟨Bytes.ofText "reg/event/seq"⟩

/-- The octets of a number at the end of a key. -/
def idOctets (id : UInt64) : Bytes :=
  Bytes.bigEndian 8 id.toNat

/-- Where a commitment is kept. -/
def commitmentKey (id : UInt64) : Bytes :=
  Bytes.ofText "reg/commitment/id/" ++ idOctets id

/-- Where the keys of the commitments that are or are not marked as expired begin. -/
def expiredIndex (expired : Bool) : Bytes :=
  Bytes.ofText "reg/commitment/expired/" ++ [if expired then 1 else 0] ++ Bytes.ofText "/"

/-- Where the keys of the commitments with a root begin. -/
def rootIndex (root : Digest) : Bytes :=
  Bytes.ofText "reg/commitment/root/" ++ root.octets ++ Bytes.ofText "/"

/-- Where an amendment is kept. -/
def amendmentKey (id : UInt64) : Bytes :=
  Bytes.ofText "reg/event/id/" ++ idOctets id

/-- Where the keys of the disputed amendments of a policy begin. The length of the policy's name
stands before it, so no other policy's keys begin in the same way. -/
def disputeIndex (policyId : String) : Bytes :=
  Bytes.ofText "reg/event/hijack/" ++ Bytes.bigEndian 4 policyId.utf8ByteSize ++
    Bytes.ofText policyId ++ Bytes.ofText "/"

/-- The number at the end of a key. -/
def trailingId (key : Bytes) : Except StoreError UInt64 :=
  if 8 ≤ key.length then
    .ok (UInt64.ofNat (Bytes.ofBigEndian (key.drop (key.length - 8))))
  else .error (.unreadable key .indexKey)

/-! ### Commitments -/

variable {σ : Type} [Store σ]

/-- The commitment with a number. -/
def commitment? (id : UInt64) (store : σ) : Except StoreError (Option Commitment) :=
  Store.record? Commitment.ofJson? store (commitmentKey id)

/-- The commitment that a key leads to. -/
def indexedCommitment (store : σ) (key : Bytes) : Except StoreError Commitment := do
  let id ← trailingId key
  match ← commitment? id store with
  | some commitment => return commitment
  | none => .error (.unreadable key (.danglingCommitment id))

/-- The commitments that the keys with a beginning lead to. -/
def commitmentsUnder (start : Bytes) (store : σ) : Except StoreError (List Commitment) := do
  (← Store.scan store start).mapM fun entry => indexedCommitment store entry.1

/-- The commitments that are not marked as expired. -/
def activeCommitments (store : σ) : Except StoreError (List Commitment) :=
  commitmentsUnder (expiredIndex false) store

/-- The commitments with a root. -/
def commitmentsByRoot (root : Digest) (store : σ) : Except StoreError (List Commitment) :=
  commitmentsUnder (rootIndex root) store

/-- Keeps a new commitment under the next number. -/
def createCommitment (policyId : String) (root : Digest) (validity : Validity)
    (provenance : Provenance) : Action σ StoreError Commitment := do
  let id ← commitmentSequence.next
  let commitment : Commitment := ⟨id, policyId, root, false, validity, provenance⟩
  Store.writeRecord (commitmentKey id) commitment.toJson
  Store.write (expiredIndex false ++ idOctets id) []
  Store.write (rootIndex root ++ idOctets id) []
  return commitment

/-- Marks a commitment as expired. -/
def markExpired (commitment : Commitment) : Action σ StoreError Commitment := do
  let commitment := { commitment with expired := true }
  Store.writeRecord (commitmentKey commitment.id) commitment.toJson
  -- The index entry moves from one side to the other.
  Store.remove (expiredIndex false ++ idOctets commitment.id)
  Store.write (expiredIndex true ++ idOctets commitment.id) []
  return commitment

/-! ### Amendments -/

/-- The amendment with a number. -/
def amendment? (id : UInt64) (store : σ) : Except StoreError (Option Amendment) :=
  Store.record? Amendment.ofJson? store (amendmentKey id)

/-- The disputed amendments of a policy. -/
def disputedAmendments (policyId : String) (store : σ) : Except StoreError (List Amendment) := do
  let found ← (← Store.scan store (disputeIndex policyId)).mapM fun entry => do
    amendment? (← trailingId entry.1) store
  return found.filterMap id

/-- Keeps a new amendment under the next number. -/
def createAmendment (policyId : String) (object : Object) (newOwner : Did)
    (previousOwner : Option Did) (commitmentId : UInt64) (provenance : Provenance) :
    Action σ StoreError Amendment := do
  let id ← amendmentSequence.next
  let amendment : Amendment :=
    ⟨id, policyId, object, newOwner, previousOwner, commitmentId, false, provenance⟩
  Store.writeRecord (amendmentKey id) amendment.toJson
  return amendment

/-- Marks an amendment as disputed. -/
def markDisputed (amendment : Amendment) : Action σ StoreError Amendment := do
  let amendment := { amendment with disputed := true }
  Store.writeRecord (amendmentKey amendment.id) amendment.toJson
  Store.write (disputeIndex amendment.policyId ++ idOctets amendment.id) []
  return amendment

end AccessControl.Repository
