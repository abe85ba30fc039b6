import AccessControl.Json.Record
import AccessControl.Time.Text
import AccessControl.Word

/-!
# Block time and validity

Commands run inside a block, so a point in time is the wall time of a block together with its
height. What is valid for a limited time is valid for a number of blocks or for a span of wall time;
it expires when its last moment lies strictly before the present.
-/

namespace AccessControl

/-- A point in time as a block observes it. -/
structure Timestamp where
  /-- The time of the block. -/
  wall : Instant
  /-- The height of the block. -/
  height : UInt64
  deriving DecidableEq

/-- How long something stays valid. -/
inductive Validity where
  /-- For a number of blocks. -/
  | blockCount (blocks : UInt64)
  /-- For a span of wall time. -/
  | wall (span : Span)
  deriving DecidableEq

namespace Instant

/-- An instant in JSON is a text. -/
def toJson (t : Instant) : Json :=
  .ofText (t.text .document)

/-- Reads an instant from a text in JSON. -/
def ofJson? (json : Json) : Option Instant := do
  parse? (← json.text?)

end Instant

namespace Validity

/-- Whether the validity has no length. -/
def isZero : Validity → Bool
  | blockCount blocks => blocks == 0
  | wall span => span.isZero

/-- A validity in messages. -/
def text : Validity → String
  | blockCount blocks => toString blocks ++ " blocks"
  | wall span => toString span.seconds ++ "s"

/-- A validity in JSON: a count of blocks or of whole seconds. -/
def toJson : Validity → Json
  | blockCount blocks => .ofVariant "block_count" (.ofUInt64 blocks)
  | wall span => .ofVariant "wall" (.ofUInt64 span.seconds)

/-- Reads a validity from JSON. -/
def ofJson? (json : Json) : Option Validity :=
  match json.variant? with
  | some ("block_count", some content) => content.uint64?.map blockCount
  | some ("wall", some content) => content.uint64?.map fun seconds => wall (.ofSeconds seconds)
  | _ => none

end Validity

namespace Timestamp

/-- A timestamp in messages. -/
def text (t : Timestamp) : String :=
  t.wall.text .offset ++ "@" ++ toString t.height

/-- Whether what was created at `created` with the given validity has expired at `now`. A moment
beyond the range of heights, of spans or of the calendar is never reached. -/
def expiredAt (created : Timestamp) (validity : Validity) (now : Timestamp) : Bool :=
  match validity with
  | .blockCount blocks =>
    match Word.add? created.height blocks with
    | some deadline => deadline < now.height
    | none => false
  | .wall span =>
    match span.measured?.bind created.wall.add? with
    | some deadline => deadline < now.wall
    | none => false

/-- Orders two timestamps by height. -/
def compareHeight (s t : Timestamp) : Ordering :=
  compare s.height t.height

/-- A timestamp in JSON. -/
def toJson (t : Timestamp) : Json :=
  .ofMembers [("wall", t.wall.toJson), ("height", .ofUInt64 t.height)]

/-- Reads a timestamp from JSON. -/
def ofJson? (json : Json) : Option Timestamp := do
  let record ← json.record? ["wall", "height"] .skip
  return {
    wall := ← record.field? "wall" Instant.ofJson?
    height := ← record.field? "height" Json.uint64? }

end Timestamp

end AccessControl
