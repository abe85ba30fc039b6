import AccessControl.Encoding.Hex
import AccessControl.Toml.Basic

/-!
# Reading TOML

A document is a sequence of lines: entries `key = value`, sections `[key]`, comments, blank lines. A
key is one or several parts joined by dots; a part is bare, or quoted in one of the two styles. A
text is quoted in one of four styles: between quotation marks with escapes, or between apostrophes
without, and both on one line, or between three marks on several.

Every reader takes the characters of the text and hands back what follows the part it has read.
Values of other kinds (floating-point numbers, truth values, dates, arrays) are refused.
-/

namespace AccessControl.Toml

/-- The characters after tabs and spaces. -/
def skipSpaces (chars : List Char) : List Char :=
  chars.dropWhile fun c => c == ' ' || c == '\t'

/-- Whether a character may stand in a comment, or in a text, marks and backslashes apart. -/
def isPlain (c : Char) : Bool :=
  c == '\t' || (0x20 ≤ c.toNat && c != '\x7f')

/-- What follows a line break. -/
def afterBreak? : List Char → Option (List Char)
  | '\n' :: rest => some rest
  | '\r' :: '\n' :: rest => some rest
  | _ => none

/-- What follows the rest of a line, which holds at most a comment. -/
def afterLine? (chars : List Char) : Option (List Char) :=
  let rest := match skipSpaces chars with
    | '#' :: rest => rest.dropWhile isPlain
    | rest => rest
  match rest with
  | [] => some []
  | rest => afterBreak? rest

/-! ### Texts -/

/-- A text and what follows it. -/
abbrev Scanned := Option (List Char × List Char)

/-- Puts a character before a text that was read. -/
def push (c : Char) : Scanned → Scanned :=
  Option.map fun (text, rest) => (c :: text, rest)

/-- The character that a number of hexadecimal digits writes, and what follows them. -/
def numbered? (count : Nat) (chars : List Char) : Option (Char × List Char) := do
  let digits ← (chars.take count).mapM Hex.digitValue?
  let n := digits.foldl (fun n digit => n * 16 + digit) 0
  if digits.length = count ∧ n.isValidChar then some (Char.ofNat n, chars.drop count) else none

/-- The character that an escape writes, after its backslash, and what follows it. -/
def escape? : List Char → Option (Char × List Char)
  | 'b' :: rest => some ('\x08', rest)
  | 't' :: rest => some ('\t', rest)
  | 'n' :: rest => some ('\n', rest)
  | 'f' :: rest => some ('\x0c', rest)
  | 'r' :: rest => some ('\r', rest)
  | '"' :: rest => some ('"', rest)
  | '\\' :: rest => some ('\\', rest)
  | 'u' :: rest => numbered? 4 rest
  | 'U' :: rest => numbered? 8 rest
  | _ => none

/-- A text between quotation marks on one line, after the opening mark. -/
def basic? : (fuel : Nat) → List Char → Scanned
  | 0, _ => none
  | fuel + 1, chars =>
    match chars with
    | '"' :: rest => some ([], rest)
    | '\\' :: rest => do
      let (c, rest) ← escape? rest
      push c (basic? fuel rest)
    | c :: rest => if isPlain c then push c (basic? fuel rest) else none
    | [] => none

/-- A text between apostrophes on one line, after the opening mark. -/
def literal? : List Char → Scanned
  | '\'' :: rest => some ([], rest)
  | c :: rest => if isPlain c then push c (literal? rest) else none
  | [] => none

/-- The end of a text on several lines, with the marks of its last characters, and what follows it;
of at most five marks in a row the last three close the text. -/
def closing? (mark : Char) (chars : List Char) : Scanned :=
  let marks := chars.takeWhile (· == mark)
  if 3 ≤ marks.length then
    let count := min marks.length 5
    some (List.replicate (count - 3) mark, chars.drop count)
  else none

/-- The characters after spaces, tabs and line breaks. -/
def skipLines : List Char → List Char
  | ' ' :: rest => skipLines rest
  | '\t' :: rest => skipLines rest
  | '\n' :: rest => skipLines rest
  | '\r' :: '\n' :: rest => skipLines rest
  | rest => rest

/-- What follows a backslash at the end of a line, if one stands there: the text goes on with the
next character that is neither space nor line break. -/
def afterJoin? (chars : List Char) : Option (List Char) :=
  (afterBreak? (skipSpaces chars)).map skipLines

/-- A text between three quotation marks on several lines, after the opening marks. -/
def basicLines? : (fuel : Nat) → List Char → Scanned
  | 0, _ => none
  | fuel + 1, chars =>
    match closing? '"' chars with
    | some closed => some closed
    | none =>
      match chars with
      | '\\' :: rest =>
        match afterJoin? rest with
        | some rest => basicLines? fuel rest
        | none => do
          let (c, rest) ← escape? rest
          push c (basicLines? fuel rest)
      | '\r' :: '\n' :: rest => push '\n' (basicLines? fuel rest)
      | c :: rest => if isPlain c ∨ c = '\n' then push c (basicLines? fuel rest) else none
      | [] => none

/-- A text between three apostrophes on several lines, after the opening marks. -/
def literalLines? : (fuel : Nat) → List Char → Scanned
  | 0, _ => none
  | fuel + 1, chars =>
    match closing? '\'' chars with
    | some closed => some closed
    | none =>
      match chars with
      | '\r' :: '\n' :: rest => push '\n' (literalLines? fuel rest)
      | c :: rest => if isPlain c ∨ c = '\n' then push c (literalLines? fuel rest) else none
      | [] => none

/-- The characters after a line break, if one stands first. -/
def skipBreak (chars : List Char) : List Char :=
  (afterBreak? chars).getD chars

/-- A text in any of the four styles. -/
def text? (chars : List Char) : Scanned :=
  match chars with
  | '"' :: '"' :: '"' :: rest => basicLines? (rest.length + 1) (skipBreak rest)
  | '"' :: rest => basic? (rest.length + 1) rest
  | '\'' :: '\'' :: '\'' :: rest => literalLines? (rest.length + 1) (skipBreak rest)
  | '\'' :: rest => literal? rest
  | _ => none

/-! ### Keys -/

/-- Whether a character may stand in a bare key. -/
def isBare (c : Char) : Bool :=
  c.isAlphanum || c == '_' || c == '-'

/-- One part of a key. -/
def keyPart? (chars : List Char) : Option (String × List Char) :=
  match chars with
  | '"' :: rest => (basic? (rest.length + 1) rest).map fun (key, rest) => (String.ofList key, rest)
  | '\'' :: rest => (literal? rest).map fun (key, rest) => (String.ofList key, rest)
  | chars =>
    let key := chars.takeWhile isBare
    if key.isEmpty then none else some (String.ofList key, chars.drop key.length)

/-- The parts of a key and the first character after it that is no space. -/
def key? : (fuel : Nat) → List Char → Option (List String × List Char)
  | 0, _ => none
  | fuel + 1, chars => do
    let (part, rest) ← keyPart? (skipSpaces chars)
    match skipSpaces rest with
    | '.' :: rest =>
      let (parts, rest) ← key? fuel rest
      return (part :: parts, rest)
    | rest => return ([part], rest)

/-! ### Integers -/

/-- Digits, with single underscores between them. -/
def digits? (base : Nat) (chars : List Char) : Option (List Nat) :=
  match chars with
  | [] => none
  | [c] => (digit? base c).map fun digit => [digit]
  | c :: '_' :: rest => do
    let digit ← digit? base c
    return digit :: (← digits? base rest)
  | c :: rest => do
    let digit ← digit? base c
    return digit :: (← digits? base rest)
where
  /-- A digit of the base. -/
  digit? (base : Nat) (c : Char) : Option Nat :=
    (Hex.digitValue? c).filter (· < base)

/-- The number that a word of digits, underscores and a sign or base writes. -/
def integerOf? (word : List Char) : Option Int := do
  let n : Int ← match word with
    | '0' :: 'x' :: rest => magnitude? 16 rest
    | '0' :: 'o' :: rest => magnitude? 8 rest
    | '0' :: 'b' :: rest => magnitude? 2 rest
    | '+' :: rest => decimal? rest
    | '-' :: rest => (decimal? rest).map fun n => -n
    | rest => decimal? rest
  if fitsInteger n then some n else none
where
  /-- The number that digits of a base write. -/
  magnitude? (base : Nat) (word : List Char) : Option Int :=
    (digits? base word).map fun digits =>
      (digits.foldl (fun n digit => n * base + digit) 0 : Nat)
  /-- The number that decimal digits without a leading zero write. -/
  decimal? (word : List Char) : Option Int :=
    if word.head? = some '0' ∧ word.length ≠ 1 then none else magnitude? 10 word

/-- An integer and what follows it. -/
def integer? (chars : List Char) : Option (Int × List Char) :=
  let word := chars.takeWhile fun c => c.isAlphanum || c == '_' || c == '+' || c == '-'
  (integerOf? word).map fun n => (n, chars.drop word.length)

/-! ### Values and documents -/

mutual

/-- A value and what follows it. -/
def value? : (fuel : Nat) → List Char → Option (Value × List Char)
  | 0, _ => none
  | fuel + 1, chars =>
    match chars with
    | '"' :: _ => (text? chars).map fun (text, rest) => (.text (String.ofList text), rest)
    | '\'' :: _ => (text? chars).map fun (text, rest) => (.text (String.ofList text), rest)
    | '\x7b' :: rest =>
      match skipSpaces rest with
      | '\x7d' :: rest => some (.table [], rest)
      | rest => (inline? fuel [] rest).map fun (table, rest) => (.table table, rest)
    | chars => (integer? chars).map fun (n, rest) => (.integer n, rest)

/-- The entries of a table in braces after those in `table`, and what follows the brace. -/
def inline? : (fuel : Nat) → Table → List Char → Option (Table × List Char)
  | 0, _, _ => none
  | fuel + 1, table, chars => do
    let (path, value, rest) ← entry? fuel chars
    let table ← table.addPath? path value
    match skipSpaces rest with
    | '\x7d' :: rest => return (table, rest)
    | ',' :: rest => inline? fuel table rest
    | _ => none

/-- An entry, as its key and value, and what follows it. -/
def entry? : (fuel : Nat) → List Char → Option (List String × Value × List Char)
  | 0, _ => none
  | fuel + 1, chars => do
    let (path, rest) ← key? (chars.length + 1) chars
    match rest with
    | '=' :: rest =>
      let (value, rest) ← value? fuel (skipSpaces rest)
      return (path, value, rest)
    | _ => none

end

/-- A part of a document that stands under one heading. -/
structure Section where
  /-- The key of the heading; the entries before the first heading have none. -/
  path : List String
  /-- The entries. -/
  table : Table

/-- The document with a section added to those before it. -/
def Table.addSection? (table : Table) (part : Section) : Option Table :=
  match part.path with
  | [] => some part.table
  | path => table.addPath? path (.table part.table)

/-- The rest of a document, given the finished sections and the one being read. -/
def sections? : (fuel : Nat) → Table → Section → List Char → Option Table
  | 0, _, _, _ => none
  | fuel + 1, done, open_, chars =>
    match skipSpaces chars with
    | [] => done.addSection? open_
    | '#' :: rest => do sections? fuel done open_ (← afterLine? ('#' :: rest))
    | '\n' :: rest => sections? fuel done open_ rest
    | '\r' :: rest => do sections? fuel done open_ (← afterBreak? ('\r' :: rest))
    | '[' :: rest => do
      let (path, rest) ← key? (rest.length + 1) rest
      match rest with
      | ']' :: rest =>
        -- A heading finishes the section before it.
        let done ← done.addSection? open_
        sections? fuel done ⟨path, []⟩ (← afterLine? rest)
      | _ => none
    -- An entry goes to the section being read, and ends with its line.
    | chars => do
      let (path, value, rest) ← entry? (2 * chars.length + 2) chars
      let table ← open_.table.addPath? path value
      sections? fuel done ⟨open_.path, table⟩ (← afterLine? rest)

/-- The table that a document writes. A byte-order mark may stand first. -/
def parse? (source : String) : Option Table :=
  let chars := match source.toList with
    | '\ufeff' :: rest => rest
    | chars => chars
  sections? (chars.length + 1) [] ⟨[], []⟩ chars

end AccessControl.Toml
