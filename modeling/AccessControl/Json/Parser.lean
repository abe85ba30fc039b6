import AccessControl.Json.Basic

/-!
# Reading JSON

The grammar is the strict one: no byte-order mark, no comments, no trailing commas, no leading
zeros, and nothing but blanks after the document. A reader takes the octets of a text and hands back
what follows the part it has read, so that it can be stated to undo the writer in front of any
rest.

A string literal is read in two steps. `Literal.scan?` finds its end and splits it into octets and
escaped code units; `Literal.text?` then joins surrogate pairs and decodes UTF-8, which may fail
without making the document malformed.
-/

namespace AccessControl.Json

/-- Whether an octet is a blank of the grammar. -/
def isBlank (b : UInt8) : Bool :=
  b == 0x20 || b == 0x09 || b == 0x0a || b == 0x0d

/-- The octets from the first one that is no blank on. -/
def skipBlanks (bytes : Bytes) : Bytes :=
  bytes.dropWhile isBlank

/-- Whether an octet is a decimal digit. -/
def isDigit (b : UInt8) : Bool :=
  0x30 ≤ b && b ≤ 0x39

/-- The number that decimal digits write. -/
def digitsValue (digits : Bytes) : Nat :=
  digits.foldl (fun value digit => value * 10 + (digit.toNat - 0x30)) 0

/-! ### String literals -/

/-- A part of a string literal. -/
inductive Literal.Piece where
  /-- An octet that stands for itself, or one written by a short escape. -/
  | octet (b : UInt8)
  /-- A code unit written by its number. -/
  | unit (u : Nat)

namespace Literal

/-- The octet that a short escape stands for. -/
def shortEscape? (b : UInt8) : Option UInt8 :=
  if b = 0x22 ∨ b = 0x5c ∨ b = 0x2f then some b
  else if b = 0x62 then some 0x08
  else if b = 0x66 then some 0x0c
  else if b = 0x6e then some 0x0a
  else if b = 0x72 then some 0x0d
  else if b = 0x74 then some 0x09
  else none

/-- The value of a hexadecimal digit. -/
def hexValue? (b : UInt8) : Option Nat :=
  let n := b.toNat
  if 0x30 ≤ n ∧ n ≤ 0x39 then some (n - 0x30)
  else if 0x61 ≤ n ∧ n ≤ 0x66 then some (n - 0x57)
  else if 0x41 ≤ n ∧ n ≤ 0x46 then some (n - 0x37)
  else none

/-- The code unit that four hexadecimal digits write. -/
def unit? (a b c d : UInt8) : Option Nat := do
  let a ← hexValue? a
  let b ← hexValue? b
  let c ← hexValue? c
  let d ← hexValue? d
  return ((a * 16 + b) * 16 + c) * 16 + d

/-- The pieces of a literal and what follows its closing mark. Octets below `0x20` must be
escaped. -/
def scan? : Bytes → Option (List Piece × Bytes)
  | [] => none
  | 0x22 :: rest => some ([], rest)
  | 0x5c :: 0x75 :: a :: b :: c :: d :: rest => do
    let u ← unit? a b c d
    let (pieces, rest) ← scan? rest
    return (.unit u :: pieces, rest)
  | 0x5c :: e :: rest => do
    let b ← shortEscape? e
    let (pieces, rest) ← scan? rest
    return (.octet b :: pieces, rest)
  | b :: rest =>
    if b < 0x20 ∨ b = 0x5c then none
    else do
      let (pieces, rest) ← scan? rest
      return (.octet b :: pieces, rest)

/-- The octets that the pieces stand for; `none` when half of a surrogate pair stands alone. -/
def octets? : List Piece → Option Bytes
  | [] => some []
  | .octet b :: rest => do return b :: (← octets? rest)
  | .unit u :: rest =>
    -- The first half of a pair needs the second one after it.
    if 0xd800 ≤ u ∧ u < 0xdc00 then
      match rest with
      | .unit v :: rest =>
        if 0xdc00 ≤ v ∧ v < 0xe000 then do
          let c := Char.ofNat (0x10000 + (u - 0xd800) * 0x400 + (v - 0xdc00))
          return Bytes.ofText c.toString ++ (← octets? rest)
        else none
      | _ => none
    else if 0xdc00 ≤ u ∧ u < 0xe000 then none
    else do return Bytes.ofText (Char.ofNat u).toString ++ (← octets? rest)

/-- The text that the pieces denote, if they denote one. -/
def text? (pieces : List Piece) : Option String :=
  (octets? pieces).bind Bytes.toText?

end Literal

/-! ### Numbers -/

/-- The fraction of a number, as its digits, and what follows it. A point needs a digit after
it. -/
def fraction? : Bytes → Option (Bytes × Bytes)
  | 0x2e :: rest =>
    let digits := rest.takeWhile isDigit
    if digits.isEmpty then none else some (digits, rest.dropWhile isDigit)
  | bytes => some ([], bytes)

/-- The exponent of a number, if it has one, and what follows it. -/
def exponent? : Bytes → Option (Option Int × Bytes)
  | b :: rest =>
    if b = 0x65 ∨ b = 0x45 then
      let (negative, rest) :=
        match rest with
        | 0x2d :: rest => (true, rest)
        | 0x2b :: rest => (false, rest)
        | rest => (false, rest)
      let digits := rest.takeWhile isDigit
      if digits.isEmpty then none
      else
        let value : Int := digitsValue digits
        some (some (if negative then -value else value), rest.dropWhile isDigit)
    else some (none, b :: rest)
  | [] => some (none, [])

/-- A number without its sign, and what follows it. -/
def unsigned? (negative : Bool) (bytes : Bytes) : Option (Json × Bytes) := do
  let digits := bytes.takeWhile isDigit
  if digits.isEmpty || (digits.head? == some 0x30 && digits.length != 1) then none
  else
    let (fraction, rest) ← fraction? (bytes.dropWhile isDigit)
    let (exponent, rest) ← exponent? rest
    let magnitude := digitsValue digits
    if fraction.isEmpty && exponent.isNone && !(negative && magnitude == 0) then
      return (.integer (if negative then -magnitude else magnitude), rest)
    else
      let exponent := exponent.getD 0 - fraction.length
      return (.decimal negative (digitsValue (digits ++ fraction)) exponent, rest)

/-- A number and what follows it. -/
def number? : Bytes → Option (Json × Bytes)
  | 0x2d :: rest => unsigned? true rest
  | bytes => unsigned? false bytes

/-! ### Documents -/

mutual

/-- A value and what follows it. `fuel` bounds the count of brackets, members and items to come. -/
def value? : (fuel : Nat) → Bytes → Option (Json × Bytes)
  | 0, _ => none
  | fuel + 1, bytes =>
    match skipBlanks bytes with
    -- The words `null`, `true` and `false`.
    | 0x6e :: 0x75 :: 0x6c :: 0x6c :: rest => some (.null, rest)
    | 0x74 :: 0x72 :: 0x75 :: 0x65 :: rest => some (.bool true, rest)
    | 0x66 :: 0x61 :: 0x6c :: 0x73 :: 0x65 :: rest => some (.bool false, rest)
    | 0x22 :: rest => do
      let (pieces, rest) ← Literal.scan? rest
      return (.string (Literal.text? pieces), rest)
    -- An opening bracket, and an array without items if the closing one follows.
    | 0x5b :: rest =>
      match skipBlanks rest with
      | 0x5d :: rest => some (.array [], rest)
      | rest => do
        let (items, rest) ← items? fuel rest
        return (.array items, rest)
    -- An opening brace, and an object without members if the closing one follows.
    | 0x7b :: rest =>
      match skipBlanks rest with
      | 0x7d :: rest => some (.object [], rest)
      | rest => do
        let (members, rest) ← members? fuel rest
        return (.object members, rest)
    | bytes => number? bytes

/-- The items of an array, at least one, and what follows its closing bracket. -/
def items? : (fuel : Nat) → Bytes → Option (List Json × Bytes)
  | 0, _ => none
  | fuel + 1, bytes => do
    let (item, rest) ← value? fuel bytes
    match skipBlanks rest with
    | 0x5d :: rest => return ([item], rest)
    | 0x2c :: rest =>
      let (items, rest) ← items? fuel rest
      return (item :: items, rest)
    | _ => none

/-- The members of an object, at least one, and what follows its closing brace. -/
def members? : (fuel : Nat) → Bytes → Option (List (Option String × Json) × Bytes)
  | 0, _ => none
  | fuel + 1, bytes =>
    match skipBlanks bytes with
    | 0x22 :: rest => do
      let (pieces, rest) ← Literal.scan? rest
      match skipBlanks rest with
      | 0x3a :: rest =>
        let (item, rest) ← value? fuel rest
        let member := (Literal.text? pieces, item)
        match skipBlanks rest with
        | 0x7d :: rest => return ([member], rest)
        | 0x2c :: rest =>
          let (members, rest) ← members? fuel rest
          return (member :: members, rest)
        | _ => none
      | _ => none
    | _ => none

end

/-- The document that the octets of a text are. Each step of the reader takes at least one octet, so
their number bounds the steps. -/
def parse? (bytes : Bytes) : Option Json :=
  match value? (2 * bytes.length + 1) bytes with
  | some (json, rest) => if (skipBlanks rest).isEmpty then some json else none
  | none => none

end AccessControl.Json
