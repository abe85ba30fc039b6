import AccessControl.Crypto.Digest
import AccessControl.ErrorKind
import AccessControl.Json.Parser
import AccessControl.Json.Settled
import AccessControl.Policy.Relationship
import AccessControl.Registration.Proof

/-!
# Commands

What an actor can ask of a policy. A command in JSON is an object with one member, whose key is the
name of the command. `Command.ofSettled` tells a name that no command has from a command whose
content is malformed; `Command.ofJson?` only accepts or refuses.
-/

namespace AccessControl

/-- What an actor asks of a policy. -/
inductive Command where
  /-- Add a relationship. -/
  | setRelationship (relationship : Relationship)
  /-- Remove a relationship. -/
  | deleteRelationship (relationship : Relationship)
  /-- Become the owner of an object. -/
  | registerObject (object : Object)
  /-- Give up an object and remove the relationships on it. -/
  | unregisterObject (object : Object)
  /-- Take an object out of use and remove the relationships on it. -/
  | archiveObject (object : Object)
  /-- Take an object into use again. -/
  | unarchiveObject (object : Object)
  /-- Publish a commitment to registrations. Its root should be a digest. -/
  | commitRegistrations (root : Bytes)
  /-- Open a commitment for one object. -/
  | revealRegistration (commitmentId : UInt64) (proof : RegistrationProof)
  /-- Dispute an amendment. -/
  | flagHijackAttempt (amendmentId : UInt64)
  deriving DecidableEq

/-- Why something is no command. -/
inductive CommandError where
  /-- No command has the name. -/
  | unknownName (name : String)
  /-- There are several names, or none. -/
  | notTagged (count : Nat)
  /-- The content is not what the command takes. -/
  | malformed (name : String)
  /-- It is no JSON. -/
  | encoding
  deriving DecidableEq

namespace CommandError

/-- The error in words. -/
def message : CommandError → String
  | unknownName name => "unknown policy command variant: " ++ name
  | notTagged count => s!"policy command must carry exactly one variant, found {count}"
  | malformed name => "malformed " ++ name ++ " command: " ++ decoderDetail
  | encoding => "invalid policy command encoding: " ++ decoderDetail

/-- What is no command is bad input. -/
def kind (_ : CommandError) : ErrorKind := .badInput

end CommandError

namespace Command

/-- The names of all commands. -/
def names : List String :=
  ["set_relationship", "delete_relationship", "register_object", "unregister_object",
    "archive_object", "unarchive_object", "commit_registrations", "reveal_registration",
    "flag_hijack_attempt"]

/-- The name of a command. -/
def name : Command → String
  | setRelationship _ => "set_relationship"
  | deleteRelationship _ => "delete_relationship"
  | registerObject _ => "register_object"
  | unregisterObject _ => "unregister_object"
  | archiveObject _ => "archive_object"
  | unarchiveObject _ => "unarchive_object"
  | commitRegistrations _ => "commit_registrations"
  | revealRegistration _ _ => "reveal_registration"
  | flagHijackAttempt _ => "flag_hijack_attempt"

/-- The content of a command in JSON. -/
def contentJson : Command → Json
  | setRelationship relationship => .ofMembers [("relationship", relationship.toJson)]
  | deleteRelationship relationship => .ofMembers [("relationship", relationship.toJson)]
  | registerObject object => .ofMembers [("object", object.toJson)]
  | unregisterObject object => .ofMembers [("object", object.toJson)]
  | archiveObject object => .ofMembers [("object", object.toJson)]
  | unarchiveObject object => .ofMembers [("object", object.toJson)]
  | commitRegistrations root => .ofMembers [("commitment", Bytes.toJson root)]
  | revealRegistration commitmentId proof =>
    .ofMembers [("registrations_commitment_id", .ofUInt64 commitmentId), ("proof", proof.toJson)]
  | flagHijackAttempt amendmentId => .ofMembers [("event_id", .ofUInt64 amendmentId)]

/-- A command in JSON. -/
def toJson (command : Command) : Json :=
  .ofVariant command.name command.contentJson

/-- The only field of a command's content. -/
def soleField? {α : Type} (field : String) (read? : Json → Option α) (content : Json) :
    Option α := do
  (← content.record? [field] .refuse).field? field read?

/-- Reads the content of the command with a name. -/
def ofContent? (form : Json.Form) (name : String) (content : Json) : Option Command :=
  match name with
  | "set_relationship" =>
    (soleField? "relationship" (Relationship.ofJson? form) content).map setRelationship
  | "delete_relationship" =>
    (soleField? "relationship" (Relationship.ofJson? form) content).map deleteRelationship
  | "register_object" => (soleField? "object" Object.ofJson? content).map registerObject
  | "unregister_object" => (soleField? "object" Object.ofJson? content).map unregisterObject
  | "archive_object" => (soleField? "object" Object.ofJson? content).map archiveObject
  | "unarchive_object" => (soleField? "object" Object.ofJson? content).map unarchiveObject
  | "commit_registrations" =>
    (soleField? "commitment" Bytes.ofJson? content).map commitRegistrations
  | "reveal_registration" => do
    let record ← content.record? ["registrations_commitment_id", "proof"] .refuse
    let commitmentId ← record.field? "registrations_commitment_id" Json.uint64?
    let proof ← record.field? "proof" RegistrationProof.ofJson?
    return revealRegistration commitmentId proof
  | "flag_hijack_attempt" => (soleField? "event_id" Json.uint64? content).map flagHijackAttempt
  | _ => none

/-- Reads a command from JSON. -/
def ofJson? (form : Json.Form) (json : Json) : Option Command :=
  match json.variant? with
  | some (name, some content) => ofContent? form name content
  | _ => none

/-- The command that a settled value writes. -/
def ofSettled : Json → Except CommandError Command
  | .object [(some name, content)] =>
    if name ∈ names then
      match ofContent? .settled name content with
      | some command => .ok command
      | none => .error (.malformed name)
    else .error (.unknownName name)
  | .object members => .error (.notTagged members.length)
  | _ => .error (.notTagged 0)

/-- The command that a document writes. -/
def ofBytes (document : Bytes) : Except CommandError Command :=
  match (Json.parse? document).bind (Json.settle? Json.maxDepth) with
  | some json => ofSettled json
  | none => .error .encoding

theorem name_mem_names (command : Command) : command.name ∈ names := by
  cases command <;> simp [name, names]

end Command

end AccessControl
