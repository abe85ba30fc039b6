import AccessControl.Word

/-!
# Settings documents in TOML

The part of TOML that settings use: texts, 64-bit integers and tables, nested to any depth. A key is
given once. That holds for whole tables too: dotted keys that share their first part, or a section
for a table that was already begun, are refused instead of merged.
-/

namespace AccessControl.Toml

/-- A value of a settings document. -/
inductive Value where
  | text (value : String)
  | integer (value : Int)
  | table (entries : List (String × Value))

/-- A table: its keys and values in the order in which they are written. -/
abbrev Table := List (String × Value)

/-- Whether a number fits the integers of the format. -/
def fitsInteger (n : Int) : Bool :=
  Word.minSigned ≤ n && n ≤ Word.maxSigned

/-- Whether a table has a key. -/
def Table.has (table : Table) (key : String) : Bool :=
  table.any fun entry => entry.1 == key

/-- The table with one more key, which it must not have yet. -/
def Table.add? (table : Table) (key : String) (value : Value) : Option Table :=
  if table.has key then none else some (table ++ [(key, value)])

/-- A value as the content of the tables that `path` names, the outermost one first. -/
def Value.under (path : List String) (value : Value) : Value :=
  path.foldr (fun key value => .table [(key, value)]) value

/-- The table with a value for a dotted key, given as its parts. -/
def Table.addPath? (table : Table) (path : List String) (value : Value) : Option Table :=
  match path with
  | [] => none
  | key :: rest => table.add? key (value.under rest)

end AccessControl.Toml
