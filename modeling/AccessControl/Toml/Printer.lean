import AccessControl.Encoding.Hex
import AccessControl.Toml.Basic

/-!
# Writing TOML

The entries of a table come first, one on a line; each table within it follows as a section of its
own after a blank line. A text is written in the plainest of the four styles that holds it without
an escape, where a tab counts as no escape: between quotation marks, between apostrophes, and then
the same on several lines. Only a text that none of them holds is escaped.
-/

namespace AccessControl.Toml

/-- The length of the longest run of a mark. -/
def longestRun (mark : Char) (chars : List Char) : Nat :=
  (chars.foldl (fun (run, longest) c =>
    let run := if c = mark then run + 1 else 0
    (run, max longest run)) (0, 0)).2

/-- Whether a character needs an escape in every style. -/
def isControl (c : Char) : Bool :=
  (c.toNat < 0x20 && c != '\t' && c != '\n') || c == '\x7f'

/-- The characters of a text with escapes, after a run of `run` quotation marks. On one line every
mark and line break is escaped, on several lines every third mark in a row. -/
def escaped (lines : Bool) : (run : Nat) → List Char → List Char
  | _, [] => []
  | run, c :: rest =>
    if c = '"' then
      if lines ∧ run < 2 then c :: escaped lines (run + 1) rest
      else '\\' :: c :: escaped lines 0 rest
    else if c = '\n' ∧ lines then c :: escaped lines 0 rest
    else
      let short (letter : Char) := '\\' :: letter :: escaped lines 0 rest
      if c = '\x08' then short 'b'
      else if c = '\t' then short 't'
      else if c = '\n' then short 'n'
      else if c = '\x0c' then short 'f'
      else if c = '\r' then short 'r'
      else if c = '\\' then short '\\'
      else if isControl c then
        '\\' :: 'u' :: (Hex.ofNat c.toNat 4).toList.map Char.toUpper ++ escaped lines 0 rest
      else c :: escaped lines 0 rest

/-- A text in the plainest style that holds it. -/
def textLiteral (text : String) : String :=
  let chars := text.toList
  let control := chars.any isControl
  let backslash := chars.contains '\\'
  let broken := chars.contains '\n'
  let quotes := longestRun '"' chars
  let apostrophes := longestRun '\'' chars
  let lines (mark : String) (body : String) := mark ++ (if broken then "\n" else "") ++ body ++ mark
  -- A backslash begins an escape between quotation marks, and is itself between apostrophes.
  if !control && !backslash && quotes == 0 && !broken then
    "\"" ++ String.ofList (escaped false 0 chars) ++ "\""
  else if !control && apostrophes == 0 && !broken then "'" ++ text ++ "'"
  else if !control && !backslash && quotes ≤ 2 then
    lines "\"\"\"" (String.ofList (escaped true 0 chars))
  else if !control && apostrophes ≤ 2 then lines "'''" text
  else if broken then lines "\"\"\"" (String.ofList (escaped true 0 chars))
  else "\"" ++ String.ofList (escaped false 0 chars) ++ "\""

/-- The lines of the entries of a table that are no tables; `none` when an integer does not fit. -/
def entryLines? : Table → Option String
  | [] => some ""
  | (_, .table _) :: rest => entryLines? rest
  | (key, .text text) :: rest => do
    return key ++ " = " ++ textLiteral text ++ "\n" ++ (← entryLines? rest)
  | (key, .integer n) :: rest => do
    let lines ← entryLines? rest
    if fitsInteger n then some (key ++ " = " ++ toString n ++ "\n" ++ lines) else none

mutual

/-- A table under a heading, as its entries and the sections within it. -/
def sectionText? (heading : List String) : Value → Option String
  | .table entries => do
    let lines ← entryLines? entries
    let sections ← sectionTexts? heading entries
    return "\n[" ++ ".".intercalate heading ++ "]\n" ++ lines ++ sections
  | _ => some ""

/-- The sections for the tables within a table. -/
def sectionTexts? (heading : List String) : List (String × Value) → Option String
  | [] => some ""
  | (key, value) :: rest => do
    let text ← sectionText? (heading ++ [key]) value
    return text ++ (← sectionTexts? heading rest)

end

/-- The document of a table whose keys are bare; `none` when an integer does not fit. -/
def render? (table : Table) : Option String := do
  let lines ← entryLines? table
  return lines ++ (← sectionTexts? [] table)

end AccessControl.Toml
