import AccessControl.ErrorKind
import AccessControl.Text.Blank

/-!
# Decentralized identifiers

An identifier is a text `did:method:identifier`. The method is made of lowercase letters and digits;
the rest may hold anything but blanks. `Did` carries the proof that its text has this form, so every
`Did` in a document or a command was accepted by `Did.ofText`.
-/

namespace AccessControl

namespace Did

/-- Why a text is no identifier. -/
inductive Defect where
  /-- It does not start with `did:`. -/
  | scheme
  /-- No second colon ends the method. -/
  | unfinished
  /-- The method is empty or has other characters than lowercase letters and digits. -/
  | method
  /-- What follows the method is empty or has a blank. -/
  | identifier
  deriving DecidableEq

/-- The defect of a text, if it has one. -/
def defect? : List Char → Option Defect
  | 'd' :: 'i' :: 'd' :: ':' :: rest =>
    let method := rest.takeWhile (· != ':')
    match rest.dropWhile (· != ':') with
    | [] => some .unfinished
    | _ :: identifier =>
      if method.isEmpty || !method.all (fun c => c.isLower || c.isDigit) then some .method
      else if identifier.isEmpty || identifier.any Text.isBlank then some .identifier
      else none
  | _ => some .scheme

end Did

/-- A decentralized identifier. -/
structure Did where
  text : String
  wellFormed : Did.defect? text.toList = none
  deriving DecidableEq

/-- A text that is no identifier. -/
structure DidError where
  defect : Did.Defect
  source : String

namespace DidError

/-- The error in words. -/
def message (error : DidError) : String :=
  "invalid DID: " ++ (match error.defect with
    | .scheme => "expected did: prefix, got: "
    | .unfinished => "expected did:method:identifier, got: "
    | .method => "invalid DID method in: "
    | .identifier => "invalid DID identifier in: ") ++ error.source

/-- A malformed identifier is bad input. -/
def kind (_ : DidError) : ErrorKind := .badInput

end DidError

namespace Did

/-- The identifier with a given text. -/
def ofText (text : String) : Except DidError Did :=
  match h : defect? text.toList with
  | none => .ok ⟨text, h⟩
  | some defect => .error ⟨defect, text⟩

/-- What follows `did:`. -/
def afterScheme (did : Did) : List Char :=
  did.text.toList.drop 4

/-- The method. -/
def method (did : Did) : String :=
  String.ofList (did.afterScheme.takeWhile (· != ':'))

/-- What follows the method. -/
def identifier (did : Did) : String :=
  String.ofList ((did.afterScheme.dropWhile (· != ':')).drop 1)

/-- An identifier in JSON is its text. -/
def toJson (did : Did) : Json :=
  .ofText did.text

/-- Reads an identifier from JSON. -/
def ofJson? (json : Json) : Option Did := do
  (ofText (← json.text?)).toOption

/-- Identifiers with the same text are equal. -/
theorem text_inj {first second : Did} (h : first.text = second.text) : first = second := by
  obtain ⟨text, _⟩ := first
  obtain ⟨text', _⟩ := second
  cases h
  rfl

theorem ofText_text (did : Did) : ofText did.text = .ok did := by
  unfold ofText
  split
  · rfl
  · rename_i h
    rw [did.wellFormed] at h
    cases h

@[simp] theorem ofJson?_toJson (did : Did) : ofJson? did.toJson = some did := by
  simp [ofJson?, toJson, ofText_text, Except.toOption]

end Did

end AccessControl
