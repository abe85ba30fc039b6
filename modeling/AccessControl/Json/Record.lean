import AccessControl.Json.Basic

/-!
# Records and variants in JSON

A record is written as an object with a member for each field. It may also be written as an array of
its fields in their order, of which the last ones may be left out. In an object no field may stand
twice. Members that are no field are skipped by a lenient reader and refused by a strict one; in
both cases every key must denote a text.

A variant is written as an object with one member, whose key is the tag; a tag without content may
also stand alone as a string. Where the content of a variant is fields of its own, they may be
written as an array in a document but not in a settled value.
-/

namespace AccessControl.Json

/-- The fields of a record that were written, by name. -/
abbrev Record := List (String × Json)

/-- Whether readers of a record skip members that are no field. -/
inductive Unknown where
  | skip
  | refuse
  deriving DecidableEq

/-- The members of an object with their keys, if every key denotes a text. -/
def texts? (members : List (Option String × Json)) : Option Record :=
  members.mapM fun member => member.1.map fun key => (key, member.2)

/-- The fields named in `fields` that `json` gives, if `json` writes a record with them. -/
def record? (fields : List String) (unknown : Unknown) : Json → Option Record
  | array items => if items.length ≤ fields.length then some (fields.zip items) else none
  | object members => do
    let members ← texts? members
    -- Only a field may not stand twice; other members are not looked at.
    let known := members.filter fun member => fields.contains member.1
    if (known.map (·.1)).Nodup ∧ (unknown = .skip ∨ known.length = members.length) then
      some known
    else none
  | _ => none

namespace Record

/-- A field that must be given. -/
def field? {α : Type} (record : Record) (name : String) (read? : Json → Option α) : Option α :=
  (record.lookup name).bind read?

/-- A field with a value for when it is left out. -/
def fieldOr? {α : Type} (record : Record) (name : String) (default : α)
    (read? : Json → Option α) : Option α :=
  match record.lookup name with
  | none => some default
  | some json => read? json

/-- A field that may be left out or `null`. -/
def optional? {α : Type} (record : Record) (name : String) (read? : Json → Option α) :
    Option (Option α) :=
  record.fieldOr? name none (option? read?)

end Record

/-- The tag of a variant and its content, if it has any. -/
def variant? : Json → Option (String × Option Json)
  | string (some tag) => some (tag, none)
  | object [(some tag, content)] => some (tag, some content)
  | _ => none

/-- What a reader is given. -/
inductive Form where
  /-- A document as it was written. -/
  | document
  /-- The value that a document settled into. -/
  | settled
  deriving DecidableEq

/-- The fields that are the content of a variant. -/
def content? (form : Form) (fields : List String) : Json → Option Record
  | array items => if form = .document then record? fields .skip (array items) else none
  | json => record? fields .skip json

/-- A variant with content. -/
def ofVariant (tag : String) (content : Json) : Json :=
  object [(some tag, content)]

/-- The content of a variant that has none to read. -/
def noContent? : Option Json → Option Unit
  | none => some ()
  | some null => some ()
  | some _ => none

end AccessControl.Json
