import AccessControl.Time.Date

/-!
# Instants and spans

An instant is a second of universal time and the nanoseconds elapsed since its start. Nanoseconds
from `10⁹` on lie in a leap second, which has no number of its own, so the next second starts after
it. A clock has leap seconds at the ends of minutes only, but an instant may lie in one after any
second. Instants are ordered by second, then by nanosecond.

A span is added to an instant in exact arithmetic. The sum is an instant unless it leaves the
calendar. Only spans of at most as many milliseconds as a signed word holds are measured out like
this (`Span.measured?`).
-/

namespace AccessControl

/-- A length of time: whole seconds and less than a second beyond them. -/
structure Span where
  seconds : UInt64
  nanos : Nat
  nanos_lt : nanos < 1000000000
  deriving DecidableEq

namespace Span

/-- The span of whole seconds. -/
def ofSeconds (seconds : UInt64) : Span :=
  ⟨seconds, 0, by decide⟩

/-- The span of some seconds and any number of nanoseconds. -/
def ofParts (seconds nanos : Nat) : Span :=
  ⟨UInt64.ofNat (seconds + nanos / 1000000000), nanos % 1000000000, Nat.mod_lt _ (by decide)⟩

/-- Whether the span has no length. -/
def isZero (span : Span) : Bool :=
  span.seconds == 0 && span.nanos == 0

/-- The length in nanoseconds. -/
def toNanos (span : Span) : Nat :=
  span.seconds.toNat * 1000000000 + span.nanos

/-- The span, unless it is longer than the milliseconds that a signed word holds. -/
def measured? (span : Span) : Option Span :=
  if span.seconds < 9223372036854775 ∨
      (span.seconds = 9223372036854775 ∧ span.nanos ≤ 807000000) then
    some span
  else none

end Span

/-- A point in time. -/
structure Instant where
  /-- Seconds since 1970-01-01T00:00:00Z, leap seconds not counted. -/
  second : Int
  /-- Nanoseconds since the second began. -/
  nano : Nat
  second_ge : -8334601228800 ≤ second
  second_le : second ≤ 8210266876799
  nano_lt : nano < 2000000000
  deriving DecidableEq

namespace Instant

/-- The instant with the given second and nanosecond, if there is one. -/
def ofParts? (second : Int) (nano : Nat) : Option Instant :=
  if h : -8334601228800 ≤ second ∧ second ≤ 8210266876799 ∧ nano < 2000000000 then
    some ⟨second, nano, h.1, h.2.1, h.2.2⟩
  else none

/-- The start of a second. -/
def ofSecond? (second : Int) : Option Instant :=
  ofParts? second 0

/-- Whether an instant lies within a leap second. -/
def isLeap (t : Instant) : Bool :=
  1000000000 ≤ t.nano

instance : LT Instant where
  lt s t := s.second < t.second ∨ (s.second = t.second ∧ s.nano < t.nano)

instance (s t : Instant) : Decidable (s < t) :=
  inferInstanceAs (Decidable (_ ∨ _))

/-- The instant a span later. A sum that stays within a leap second keeps it; any other sum first
steps back to the start of the leap second, so that the leap second takes no time. `none` when the
sum lies beyond the calendar. -/
def add? (t : Instant) (span : Span) : Option Instant :=
  if t.isLeap && span.seconds == 0 && t.nano + span.nanos < 2000000000 then
    ofParts? t.second (t.nano + span.nanos)
  else
    let nano := t.nano % 1000000000 + span.nanos
    ofParts? (t.second + span.seconds.toNat + (nano / 1000000000 : Nat)) (nano % 1000000000)

/-- The instant some seconds later, or earlier. Nanoseconds stay, but those within a leap second are
counted from its start: the leap second is left for the second before it on the way forward and for
the one after it on the way back. -/
def addSeconds? (t : Instant) (seconds : Int) : Option Instant :=
  if seconds = 0 then some t
  else
    -- Seen from later on, a leap second is the start of the second after it.
    let start := if t.isLeap ∧ seconds < 0 then t.second + 1 else t.second
    ofParts? (start + seconds) (t.nano % 1000000000)

/-- The date of an instant in universal time. -/
def date (t : Instant) : Date :=
  Date.ofDays (t.second / 86400)

/-- The second of the day, from 0 to 86399. -/
def secondOfDay (t : Instant) : Nat :=
  (t.second % 86400).toNat

end Instant

end AccessControl
