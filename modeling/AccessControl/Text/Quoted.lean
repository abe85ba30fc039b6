import AccessControl.Encoding.Hex
import AccessControl.Text.Visible

/-!
# Quoted text

Messages show a text of a caller between quotation marks. The mark itself and the backslash are
preceded by a backslash, a tab, a line feed, a carriage return and NUL are written as a letter, and
any other character that is not visible is written by its number, as `\\u{1f}`. A single character
is shown in the same way between apostrophes; each kind of mark is escaped only within its own kind.
-/

namespace AccessControl.Text

/-- How `c` is written between two marks of the kind `mark`. -/
def escapeChar (mark c : Char) : List Char :=
  if c = '\x00' then ['\\', '0']
  else if c = '\t' then ['\\', 't']
  else if c = '\r' then ['\\', 'r']
  else if c = '\n' then ['\\', 'n']
  else if c = '\\' ∨ c = mark then ['\\', c]
  else if isVisible c then [c]
  else ['\\', 'u', '\x7b'] ++ (Hex.ofNat c.toNat 1).toList ++ ['\x7d']

/-- A text between quotation marks. -/
def quoted (text : String) : String :=
  String.ofList ('"' :: text.toList.flatMap (escapeChar '"') ++ ['"'])

/-- A character between apostrophes. -/
def quotedChar (c : Char) : String :=
  String.ofList ('\'' :: escapeChar '\'' c ++ ['\''])

end AccessControl.Text
