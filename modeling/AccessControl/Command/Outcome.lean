import AccessControl.Command.Basic
import AccessControl.Policy.Outcome
import AccessControl.Registration.Amendment
import AccessControl.Registration.Commitment

/-!
# Outcomes of commands

What an actor is told when a command was carried out: for each command its own kind of outcome.
-/

namespace AccessControl

/-- The outcome of a command. -/
inductive CommandOutcome where
  | setRelationship (outcome : SetOutcome)
  | deleteRelationship (outcome : DeleteOutcome)
  | registerObject (outcome : RegisterOutcome)
  | unregisterObject (outcome : UnregisterOutcome)
  | archiveObject (outcome : ArchiveOutcome)
  | unarchiveObject (outcome : UnarchiveOutcome)
  /-- The commitment that was published. -/
  | commitRegistrations (commitment : Commitment)
  /-- The record of the new owner, and the amendment that was recorded. -/
  | revealRegistration (record : RelationshipRecord) (amendment : Amendment)
  /-- The amendment that is disputed now. -/
  | flagHijackAttempt (amendment : Amendment)
  deriving DecidableEq

namespace CommandOutcome

/-- The name of the command. -/
def name : CommandOutcome → String
  | setRelationship _ => "set_relationship"
  | deleteRelationship _ => "delete_relationship"
  | registerObject _ => "register_object"
  | unregisterObject _ => "unregister_object"
  | archiveObject _ => "archive_object"
  | unarchiveObject _ => "unarchive_object"
  | commitRegistrations _ => "commit_registrations"
  | revealRegistration _ _ => "reveal_registration"
  | flagHijackAttempt _ => "flag_hijack_attempt"

/-- What the outcome tells, in JSON. -/
def contentJson : CommandOutcome → Json
  | setRelationship outcome => outcome.toJson
  | deleteRelationship outcome => outcome.toJson
  | registerObject outcome => outcome.toJson
  | unregisterObject outcome => outcome.toJson
  | archiveObject outcome => outcome.toJson
  | unarchiveObject outcome => outcome.toJson
  | commitRegistrations commitment =>
    .ofMembers [("registrations_commitment", commitment.toJson)]
  | revealRegistration record amendment =>
    .ofMembers [("record", record.toJson), ("event", amendment.toJson)]
  | flagHijackAttempt amendment => .ofMembers [("event", amendment.toJson)]

/-- An outcome in JSON. -/
def toJson (outcome : CommandOutcome) : Json :=
  .ofVariant outcome.name outcome.contentJson

/-- Reads what an outcome of the command with a name tells. -/
def ofContent? (form : Json.Form) (name : String) (content : Json) : Option CommandOutcome :=
  match name with
  | "set_relationship" => (SetOutcome.ofJson? form content).map setRelationship
  | "delete_relationship" => (DeleteOutcome.ofJson? content).map deleteRelationship
  | "register_object" => (RegisterOutcome.ofJson? form content).map registerObject
  | "unregister_object" => (UnregisterOutcome.ofJson? content).map unregisterObject
  | "archive_object" => (ArchiveOutcome.ofJson? content).map archiveObject
  | "unarchive_object" => (UnarchiveOutcome.ofJson? form content).map unarchiveObject
  | "commit_registrations" => do
    let record ← content.record? ["registrations_commitment"] .skip
    return commitRegistrations (← record.field? "registrations_commitment" Commitment.ofJson?)
  | "reveal_registration" => do
    let record ← content.record? ["record", "event"] .skip
    let ownership ← record.field? "record" (RelationshipRecord.ofJson? form)
    let amendment ← record.field? "event" Amendment.ofJson?
    return revealRegistration ownership amendment
  | "flag_hijack_attempt" => do
    let record ← content.record? ["event"] .skip
    return flagHijackAttempt (← record.field? "event" Amendment.ofJson?)
  | _ => none

/-- Reads an outcome from JSON. -/
def ofJson? (form : Json.Form) (json : Json) : Option CommandOutcome :=
  match json.variant? with
  | some (name, some content) => ofContent? form name content
  | _ => none

end CommandOutcome

end AccessControl
