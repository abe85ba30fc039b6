import AccessControl.Text.Blank
import AccessControl.Time.Instant

/-!
# Instants and spans as text

An instant is written as date and time of universal time, with nine, six, three or no digits after
the second, as few as are exact. Years outside `0` to `9999` carry a sign. A leap second is written
as second `60`. `InstantStyle` holds what differs between the forms: what stands between date and
time, and how the zone is written.

The reader accepts more: blanks between the parts, numbers without leading zeros, any count of
digits after the second, a lower-case or no letter before the time, and other zones.
-/

namespace AccessControl

open Text

/-- How an instant is written. -/
structure InstantStyle where
  /-- What stands between date and time. -/
  separator : String
  /-- What stands behind the time. -/
  zone : String

namespace InstantStyle

/-- The form in documents, `2024-06-17T14:00:00Z`. -/
def document : InstantStyle := ⟨"T", "Z"⟩

/-- The form with the offset in numbers, `2024-06-17T14:00:00+00:00`. -/
def offset : InstantStyle := ⟨"T", "+00:00"⟩

/-- The form in messages, `2024-06-17 14:00:00 UTC`. -/
def message : InstantStyle := ⟨" ", " UTC"⟩

end InstantStyle

/-- The digits of a number, filled up with zeros to `width`. -/
def paddedDigits (width n : Nat) : String :=
  let digits := toString n
  String.ofList (List.replicate (width - digits.length) '0') ++ digits

namespace Date

/-- A year in four digits; outside of `0` to `9999` after its sign. -/
def yearText (year : Int) : String :=
  if 0 ≤ year ∧ year ≤ 9999 then paddedDigits 4 year.toNat
  else if year < 0 then "-" ++ paddedDigits 4 year.natAbs
  else "+" ++ paddedDigits 4 year.natAbs

/-- A date as year, month and day. -/
def text (date : Date) : String :=
  yearText date.year ++ "-" ++ paddedDigits 2 date.month ++ "-" ++ paddedDigits 2 date.day

end Date

namespace Instant

/-- The digits after the second: as few groups of three as are exact. -/
def fractionText (nano : Nat) : String :=
  if nano = 0 then ""
  else if nano % 1000000 = 0 then "." ++ paddedDigits 3 (nano / 1000000)
  else if nano % 1000 = 0 then "." ++ paddedDigits 6 (nano / 1000)
  else "." ++ paddedDigits 9 nano

/-- An instant in the given style. -/
def text (style : InstantStyle) (t : Instant) : String :=
  let s := t.secondOfDay
  let second := s % 60 + (if t.isLeap then 1 else 0)
  t.date.text ++ style.separator ++ paddedDigits 2 (s / 3600) ++ ":" ++
    paddedDigits 2 (s / 60 % 60) ++ ":" ++ paddedDigits 2 second ++
    fractionText (t.nano % 1000000000) ++ style.zone

/-! ### Reading -/

/-- The value of a run of decimal digits. -/
def digitsValue (digits : List Char) : Nat :=
  digits.foldl (fun value c => value * 10 + (c.toNat - 0x30)) 0

/-- A number of at least one and, if a bound is given, at most so many digits. -/
def digits? (atMost : Option Nat) (chars : List Char) : Option (Nat × List Char) :=
  let run := chars.takeWhile Char.isDigit
  let digits := match atMost with
    | some count => run.take count
    | none => run
  if digits.isEmpty then none else some (digitsValue digits, chars.drop digits.length)

/-- A year: four digits at most, or any number of them after a sign. -/
def year? (chars : List Char) : Option (Int × List Char) :=
  match trimStart chars with
  | '-' :: rest => (digits? none rest).map fun (year, rest) => (-year, rest)
  | '+' :: rest => (digits? none rest).map fun (year, rest) => (year, rest)
  | rest => (digits? (some 4) rest).map fun (year, rest) => (year, rest)

/-- A part of a date or a time in at most two digits. -/
def part? (chars : List Char) : Option (Nat × List Char) :=
  digits? (some 2) (trimStart chars)

/-- What follows the character `mark`, which blanks may precede. -/
def afterMark? (mark : Char) (chars : List Char) : Option (List Char) :=
  match trimStart chars with
  | c :: rest => if c = mark then some rest else none
  | [] => none

/-- The nanoseconds after the second. Digits beyond the ninth are skipped. -/
def fraction? : List Char → Option (Nat × List Char)
  | '.' :: rest =>
    let run := rest.takeWhile Char.isDigit
    let kept := run.take 9
    if run.isEmpty then none
    else some (digitsValue kept * Nat.pow 10 (9 - kept.length), rest.drop run.length)
  | rest => some (0, rest)

/-- The seconds by which local time is ahead, in hours and minutes after a sign. -/
def offset? (ahead : Bool) : List Char → Option (Int × List Char)
  | h :: h' :: rest =>
    match rest.dropWhile (fun c => c == ':' || isBlank c) with
    | m :: m' :: rest =>
      let seconds : Int := digitsValue [h, h'] * 3600 + digitsValue [m, m'] * 60
      if [h, h', m, m'].all Char.isDigit ∧ m ≤ '5' ∧ seconds < 86400 then
        some (if ahead then seconds else -seconds, rest)
      else none
    | _ => none
  | _ => none

/-- A zone: `Z`, `UTC`, or a sign and an offset. -/
def zone? (chars : List Char) : Option (Int × List Char) :=
  if (chars.take 3).map Char.toUpper = ['U', 'T', 'C'] then some (0, chars.drop 3)
  else
    match chars with
    | 'Z' :: rest => some (0, rest)
    | 'z' :: rest => some (0, rest)
    | '+' :: rest => offset? true rest
    | '-' :: rest => offset? false rest
    | '\u2212' :: rest => offset? false rest
    | _ => none

/-- The instant that a text writes: a valid date, a time with seconds, and a zone. -/
def parse? (source : String) : Option Instant := do
  let (year, rest) ← year? source.toList
  let (month, rest) ← part? (← afterMark? '-' rest)
  let (day, rest) ← part? (← afterMark? '-' rest)
  let rest ← match rest with
    | c :: rest => if c = 'T' ∨ c = 't' ∨ c = ' ' then some rest else none
    | [] => none
  let (hour, rest) ← part? rest
  let (minute, rest) ← part? (← afterMark? ':' rest)
  let (second, rest) ← part? (← afterMark? ':' rest)
  let (nano, rest) ← fraction? rest
  let (ahead, rest) ← zone? (trimStart rest)
  let date : Date := ⟨year, month, day⟩
  if (trimStart rest).isEmpty ∧ date.isValid ∧ hour < 24 ∧ minute < 60 ∧ second ≤ 60 then
    -- The minute in universal time; second 60 lies within the last second of it.
    let start := date.toDays * 86400 + hour * 3600 + minute * 60 - ahead
    if second = 60 then ofParts? (start + 59) (1000000000 + nano)
    else ofParts? (start + second) nano
  else none

end Instant

namespace Span

/-- A whole part and a fraction of `places` digits, without the zeros at its end. -/
def decimalText (whole fraction places : Nat) : String :=
  let digits := (paddedDigits places fraction).toList
  let kept := (digits.reverse.dropWhile (· == '0')).reverse
  if fraction = 0 then toString whole else toString whole ++ "." ++ String.ofList kept

/-- A span in the largest unit of which it holds at least one. -/
def text (span : Span) : String :=
  if span.seconds ≠ 0 then decimalText span.seconds.toNat span.nanos 9 ++ "s"
  else if 1000000 ≤ span.nanos then
    decimalText (span.nanos / 1000000) (span.nanos % 1000000) 6 ++ "ms"
  else if 1000 ≤ span.nanos then decimalText (span.nanos / 1000) (span.nanos % 1000) 3 ++ "µs"
  else toString span.nanos ++ "ns"

end Span

end AccessControl
