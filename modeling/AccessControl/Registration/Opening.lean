import AccessControl.ErrorKind
import AccessControl.Identity.Did
import AccessControl.Registration.Merkle
import AccessControl.Registration.Proof

/-!
# Committing to objects and opening the commitment

An actor commits to registering some objects in a policy by the root of the tree whose leaves name
policy, object and actor. A proof opens it for one of the objects. Since the actor is part of every
leaf, nobody else can use the proof.

A leaf is the parts of the names one after the other, with nothing between them.
-/

namespace AccessControl

/-- Why nothing can be committed or opened. -/
inductive CommitmentError where
  /-- No objects are given. -/
  | noObjects
  /-- A part of an object has no name. -/
  | malformedObject (object : Object)
  /-- There is no leaf at the position. -/
  | indexOutOfRange (index count : UInt64)
  /-- The root is no digest. -/
  | invalidRootLength (actual : Nat)
  deriving DecidableEq

namespace CommitmentError

/-- The error in words. -/
def message : CommitmentError → String
  | noObjects => "cannot commit to an empty set of objects"
  | malformedObject object => "object " ++ object.text ++ " needs a resource and an id"
  | indexOutOfRange index count => s!"leaf index {index} out of range for {count} leaves"
  | invalidRootLength actual =>
    s!"commitment root must be {Digest.size} bytes, got {actual}"

/-- All these errors are bad input. -/
def kind (_ : CommitmentError) : ErrorKind := .badInput

end CommitmentError

namespace Opening

/-- The message of the leaf for an actor that is to register an object in a policy. -/
def leafData (policyId : String) (actor : Did) (object : Object) : Bytes :=
  .ofText policyId ++ .ofText object.resource ++ .ofText object.id ++ .ofText actor.text

/-- The leaf for an object whose parts have names. -/
def leaf (policyId : String) (actor : Did) (object : Object) : Except CommitmentError Digest :=
  if object.isWellFormed then .ok (Merkle.leaf (leafData policyId actor object))
  else .error (.malformedObject object)

/-- The leaves for some objects. -/
def leaves (policyId : String) (actor : Did) (objects : List Object) :
    Except CommitmentError (List Digest) :=
  if objects.isEmpty then .error .noObjects else objects.mapM (leaf policyId actor)

/-- The root that commits an actor to registering objects in a policy. -/
def root (policyId : String) (actor : Did) (objects : List Object) :
    Except CommitmentError Digest := do
  match Merkle.root? (← leaves policyId actor objects) with
  | some root => .ok root
  | none => .error .noObjects

/-- The proof that opens the commitment to the objects for the one at a position. -/
def proof (policyId : String) (actor : Did) (objects : List Object) (index : Nat) :
    Except CommitmentError RegistrationProof := do
  let leaves ← leaves policyId actor objects
  match Merkle.path? leaves index, objects[index]? with
  | some path, some object =>
    .ok ⟨path, object, UInt64.ofNat objects.length, UInt64.ofNat index⟩
  | _, _ => .error (.indexOutOfRange (UInt64.ofNat index) (UInt64.ofNat objects.length))

/-- The root that commits to the objects, and the proofs that open it for each of them. -/
def rootWithProofs (policyId : String) (actor : Did) (objects : List Object) :
    Except CommitmentError (Digest × List RegistrationProof) := do
  let root ← root policyId actor objects
  let proofs ← (List.range objects.length).mapM (proof policyId actor objects)
  return (root, proofs)

/-- The digest that is a root of 32 octets. -/
def rootOfOctets (octets : Bytes) : Except CommitmentError Digest :=
  match Digest.ofOctets? octets with
  | some root => .ok root
  | none => .error (.invalidRootLength octets.length)

/-- Whether a proof opens a root for an actor in a policy. A proof that cannot open any root is an
error. -/
def verify (root : Bytes) (policyId : String) (actor : Did) (proof : RegistrationProof) :
    Except CommitmentError Bool := do
  let root ← rootOfOctets root
  let leaf ← leaf policyId actor proof.object
  if proof.leafIndex < proof.leafCount then
    .ok (Merkle.verify leaf proof.leafIndex proof.leafCount proof.path root)
  else .error (.indexOutOfRange proof.leafIndex proof.leafCount)

end Opening

end AccessControl
