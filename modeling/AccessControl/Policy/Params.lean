import AccessControl.ErrorKind
import AccessControl.Text.Quoted
import AccessControl.Time.Timestamp
import AccessControl.Toml.Parser
import AccessControl.Toml.Printer

/-!
# Parameters

What can be configured: the human-readable part of account addresses, how long a signed command may
stay valid, and how long a commitment does. Parameters are read from JSON or from a settings
document; what is left out takes its default. `Params.validate` refuses values that the rest of the
library could not work with.
-/

namespace AccessControl

/-- The parameters. -/
structure Params where
  /-- The human-readable part that an authorized account must have. -/
  addressReadable : String
  /-- The most blocks for which a signed command may stay valid. -/
  maxExpirationDelta : UInt64
  /-- How long a new commitment stays valid. -/
  commitmentValidity : Validity
  deriving DecidableEq

/-- A value that a parameter must not have. -/
inductive ParamsDefect where
  /-- Signed commands could never be valid. -/
  | zeroExpirationDelta
  /-- Commitments could never be valid. -/
  | zeroValidity
  /-- Commitments would be valid for a part of a second. -/
  | fractionalValidity (span : Span)
  /-- No address can have the human-readable part. -/
  | addressReadable (text : String)

/-- Parameters that cannot be used. -/
inductive ParamsError where
  /-- The document does not describe parameters. -/
  | parse
  /-- A number does not fit a document. -/
  | encode
  /-- The file could not be read as text. -/
  | unreadable
  /-- A value is refused. -/
  | invalid (defect : ParamsDefect)

namespace ParamsDefect

/-- The defect in words. -/
def message : ParamsDefect → String
  | zeroExpirationDelta => "policy_command_max_expiration_delta must be positive"
  | zeroValidity => "registrations_commitment_validity must be positive"
  | fractionalValidity span =>
    "registrations_commitment_validity must be whole seconds, got " ++ span.text
  | addressReadable text =>
    "address_prefix must be lowercase alphanumeric, got " ++ Text.quoted text

end ParamsDefect

namespace ParamsError

/-- The error in words. -/
def message : ParamsError → String
  | parse => "failed to parse params: " ++ decoderDetail
  | encode => "failed to encode params: " ++ decoderDetail
  | unreadable => "failed to read params file: " ++ decoderDetail
  | invalid defect => "invalid params: " ++ defect.message

/-- Only a file that cannot be read is out of the requester's hands. -/
def kind : ParamsError → ErrorKind
  | unreadable => .internal
  | _ => .badInput

end ParamsError

namespace Params

/-- The values of parameters that are left out: signed commands stay valid for at most 21600 blocks
and commitments for a day. -/
def default : Params where
  addressReadable := "source"
  maxExpirationDelta := 21600
  commitmentValidity := .wall (.ofSeconds 86400)

instance : Inhabited Params := ⟨default⟩

/-- Whether a text can be the human-readable part of an address: some lowercase letters and
digits. -/
def isReadable (text : String) : Bool :=
  !text.isEmpty && text.toList.all fun c => c.isLower || c.isDigit

/-- The first defect of the parameters, if they have one. -/
def defect? (params : Params) : Option ParamsDefect :=
  if params.maxExpirationDelta = 0 then some .zeroExpirationDelta
  else if params.commitmentValidity.isZero then some .zeroValidity
  else
    match params.commitmentValidity with
    | .wall span =>
      if span.nanos ≠ 0 then some (.fractionalValidity span) else readableDefect? params
    | .blockCount _ => readableDefect? params
where
  /-- The defect of the human-readable part, if it has one. -/
  readableDefect? (params : Params) : Option ParamsDefect :=
    if isReadable params.addressReadable then none
    else some (.addressReadable params.addressReadable)

/-- Accepts parameters without a defect. -/
def validate (params : Params) : Except ParamsError Unit :=
  match params.defect? with
  | none => .ok ()
  | some defect => .error (.invalid defect)

/-- The names of the parameters in documents. -/
def names : List String :=
  ["address_prefix", "policy_command_max_expiration_delta", "registrations_commitment_validity"]

/-- Parameters in JSON. -/
def toJson (params : Params) : Json :=
  .ofMembers [("address_prefix", .ofText params.addressReadable),
    ("policy_command_max_expiration_delta", .ofUInt64 params.maxExpirationDelta),
    ("registrations_commitment_validity", params.commitmentValidity.toJson)]

/-- Reads parameters from JSON, without validating them. -/
def ofJson? (json : Json) : Option Params := do
  let record ← json.record? names .refuse
  return {
    addressReadable := ← record.fieldOr? "address_prefix" default.addressReadable Json.text?
    maxExpirationDelta := ←
      record.fieldOr? "policy_command_max_expiration_delta" default.maxExpirationDelta Json.uint64?
    commitmentValidity := ←
      record.fieldOr? "registrations_commitment_validity" default.commitmentValidity
        Validity.ofJson? }

/-! ### Settings documents -/

/-- Parameters as a table of a settings document. -/
def toTable (params : Params) : Toml.Table :=
  [("address_prefix", .text params.addressReadable),
    ("policy_command_max_expiration_delta", .integer params.maxExpirationDelta.toNat),
    ("registrations_commitment_validity", .table [match params.commitmentValidity with
      | .blockCount blocks => ("block_count", .integer blocks.toNat)
      | .wall span => ("wall", .integer span.seconds.toNat)])]

/-- The settings document that writes parameters. -/
def toToml (params : Params) : Except ParamsError String :=
  match Toml.render? params.toTable with
  | some document => .ok document
  | none => .error .encode

/-- A text of a settings document. -/
def tomlText? : Toml.Value → Option String
  | .text text => some text
  | _ => none

/-- A word in a settings document. -/
def tomlWord? : Toml.Value → Option UInt64
  | .integer value => (Json.integer value).uint64?
  | _ => none

/-- A validity in a settings document. -/
def tomlValidity? : Toml.Value → Option Validity
  | .table [("block_count", blocks)] => (tomlWord? blocks).map .blockCount
  | .table [("wall", seconds)] => (tomlWord? seconds).map fun seconds => .wall (.ofSeconds seconds)
  | _ => none

/-- The value of a parameter in a table, or its default. -/
def tomlFieldOr? {α : Type} (table : Toml.Table) (name : String) (default : α)
    (read? : Toml.Value → Option α) : Option α :=
  match table.lookup name with
  | none => some default
  | some value => read? value

/-- The parameters that a table of a settings document gives. -/
def ofTable? (table : Toml.Table) : Option Params := do
  guard (table.all fun entry => names.contains entry.1)
  return {
    addressReadable := ← tomlFieldOr? table "address_prefix" default.addressReadable tomlText?
    maxExpirationDelta := ←
      tomlFieldOr? table "policy_command_max_expiration_delta" default.maxExpirationDelta tomlWord?
    commitmentValidity := ←
      tomlFieldOr? table "registrations_commitment_validity" default.commitmentValidity
        tomlValidity? }

/-- The valid parameters that a settings document gives. -/
def ofToml (document : String) : Except ParamsError Params := do
  let some params := (Toml.parse? document).bind ofTable?
    | .error .parse
  params.validate
  return params

/-- The valid parameters that a file gives; `none` is a file that could not be read. -/
def ofFile (content : Option Bytes) : Except ParamsError Params := do
  let some document := content.bind Bytes.toText?
    | .error .unreadable
  ofToml document

end Params

end AccessControl
