import AccessControl.Bytes
import AccessControl.Word

/-!
# JSON documents

A document as it is written: members stay in order, and a key may stand twice. Numbers without
fraction and exponent are integers; any other number, and `-0`, keeps its decimal digits.

A string literal can be well formed and still denote no text: its octets may not be UTF-8, or an
escape may be half of a surrogate pair. Such a literal is `none`. A reader can skip it but not use
it, so it is kept in the document and refused where its text is asked for.
-/

namespace AccessControl

/-- A JSON document. -/
inductive Json where
  | null
  | bool (value : Bool)
  /-- A number without fraction and exponent, `-0` apart. -/
  | integer (value : Int)
  /-- The number `significand * 10 ^ exponent`, or its opposite. -/
  | decimal (negative : Bool) (significand : Nat) (exponent : Int)
  /-- A string literal and its text, if it denotes one. -/
  | string (text : Option String)
  | array (items : List Json)
  /-- An object: its members in the order in which they are written. -/
  | object (members : List (Option String × Json))

namespace Json

instance : Inhabited Json := ⟨null⟩

/-- The string with a given text. -/
def ofText (text : String) : Json :=
  string (some text)

/-- The number of a 64-bit word. -/
def ofUInt64 (value : UInt64) : Json :=
  integer value.toNat

/-- The object with the given members. -/
def ofMembers (members : List (String × Json)) : Json :=
  object (members.map fun member => (some member.1, member.2))

/-- `null` for a missing value. -/
def ofOption {α : Type} (write : α → Json) : Option α → Json
  | none => null
  | some value => write value

/-- The text of a string. -/
def text? : Json → Option String
  | string text => text
  | _ => none

/-- A truth value. -/
def bool? : Json → Option Bool
  | bool value => some value
  | _ => none

/-- An integer that fits an unsigned 64-bit word. -/
def uint64? : Json → Option UInt64
  | integer value =>
    if 0 ≤ value ∧ value < UInt64.size then some (UInt64.ofNat value.toNat) else none
  | _ => none

/-- An integer that fits a signed 64-bit word. -/
def int64? : Json → Option Int
  | integer value =>
    if Word.minSigned ≤ value ∧ value ≤ Word.maxSigned then some value else none
  | _ => none

/-- The items of an array, each of which `read?` accepts. -/
def list? {α : Type} (read? : Json → Option α) : Json → Option (List α)
  | array items => items.mapM read?
  | _ => none

/-- `null`, or a value that `read?` accepts. -/
def option? {α : Type} (read? : Json → Option α) : Json → Option (Option α)
  | null => some none
  | json => (read? json).map some

@[simp] theorem text?_ofText (text : String) : (ofText text).text? = some text := rfl

@[simp] theorem uint64?_ofUInt64 (value : UInt64) : (ofUInt64 value).uint64? = some value := by
  have := value.toNat_lt
  simp [ofUInt64, uint64?]
  omega

end Json

end AccessControl
