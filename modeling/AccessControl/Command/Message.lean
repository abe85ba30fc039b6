import AccessControl.Command.Basic

/-!
# Command messages

How a command reaches the library: sent by the actor itself, with a bearer token of the actor, or
signed by the actor. A message in JSON is an object with one member, whose key is one of these ways.

A message is read in two steps, so that a message that is malformed and a command that is unknown
can be told apart.
-/

namespace AccessControl

/-- A command and how its actor is to be established. -/
inductive CommandMessage where
  /-- Sent by the actor itself. -/
  | direct (policyId : String) (command : Command)
  /-- Sent with a bearer token of the actor. -/
  | bearer (token policyId : String) (command : Command)
  /-- Signed by the actor; the token says all the rest. -/
  | signed (token : String)
  deriving DecidableEq

/-- Why something is no message. -/
inductive MessageError where
  /-- It has not the form of a message. -/
  | malformed
  /-- The command in it is no command. -/
  | command (error : CommandError)

namespace CommandMessage

/-- How the actor is to be established. -/
def strategy : CommandMessage → String
  | direct _ _ => "direct"
  | bearer _ _ _ => "bearer"
  | signed _ => "signed"

/-- What is written beside the way, in JSON. -/
def contentJson : CommandMessage → Json
  | direct policyId command =>
    .ofMembers [("policy_id", .ofText policyId), ("cmd", command.toJson)]
  | bearer token policyId command =>
    .ofMembers [("bearer_token", .ofText token), ("policy_id", .ofText policyId),
      ("cmd", command.toJson)]
  | signed token => .ofMembers [("payload", .ofText token)]

/-- A message in JSON. -/
def toJson (message : CommandMessage) : Json :=
  .ofVariant message.strategy message.contentJson

/-- Reads the content of a message, in which `read?` reads the command. -/
def ofContent? {α β : Type} (direct : String → α → β) (bearer : String → String → α → β)
    (signed : String → β) (read? : Json → Option α) (strategy : String) (content : Json) :
    Option β :=
  match strategy with
  | "direct" => do
    let record ← content.record? ["policy_id", "cmd"] .skip
    let policyId ← record.field? "policy_id" Json.text?
    return direct policyId (← record.field? "cmd" read?)
  | "bearer" => do
    let record ← content.record? ["bearer_token", "policy_id", "cmd"] .skip
    let token ← record.field? "bearer_token" Json.text?
    let policyId ← record.field? "policy_id" Json.text?
    return bearer token policyId (← record.field? "cmd" read?)
  | "signed" => do
    let record ← content.record? ["payload"] .skip
    return signed (← record.field? "payload" Json.text?)
  | _ => none

/-- Reads a message from JSON in one step. -/
def ofJson? (form : Json.Form) (json : Json) : Option CommandMessage :=
  match json.variant? with
  | some (strategy, some content) =>
    ofContent? direct bearer signed (Command.ofJson? form) strategy content
  | _ => none

/-- The message with the command that a settled value writes. -/
def withSettled (message : Command → CommandMessage) (json : Json) :
    Except MessageError CommandMessage :=
  match Command.ofSettled json with
  | .ok command => .ok (message command)
  | .error error => .error (.command error)

/-- Reads a message whose command is still to be read. The command lies two levels within the
message, so its own nesting is bounded by two less. -/
def outer? (json : Json) : Option (Except MessageError CommandMessage) :=
  match json.variant? with
  | some (strategy, some content) =>
    ofContent? (fun policyId json => withSettled (direct policyId) json)
      (fun token policyId json => withSettled (bearer token policyId) json)
      (fun token => .ok (signed token))
      (Json.settle? (Json.maxDepth - 2)) strategy content
  | _ => none

/-- The message that a document writes. -/
def ofBytes (document : Bytes) : Except MessageError CommandMessage :=
  match (Json.parse? document).bind outer? with
  | some message => message
  | none => .error .malformed

end CommandMessage

end AccessControl
