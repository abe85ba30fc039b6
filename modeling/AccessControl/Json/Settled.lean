import AccessControl.Binary64
import AccessControl.Json.Basic
import AccessControl.Store.SortedMap

/-!
# Settled JSON

A document settles into a value that no longer depends on how it was written: of members with one
key the last one counts, and members stand in the order of their keys. Settling refuses what such a
value cannot hold: string literals that denote no text, numbers too large for a binary64, and
nesting deeper than a bound.
-/

namespace AccessControl.Json

/-- The part of a significand that counts, and the exponent that belongs to it: as many leading
digits as a 64-bit word holds. The digits after them are dropped. -/
def leading (significand : Nat) (exponent : Int) : Nat × Int :=
  if significand < UInt64.size then (significand, exponent)
  else leading (significand / 10) (exponent + 1)
termination_by significand
decreasing_by exact Nat.div_lt_self (by simp only [UInt64.size] at *; omega) (by decide)

/-- The largest exponent whose power of ten is a finite binary64. -/
def maxExponent : Int := 308

/-- Whether `significand * 10 ^ exponent` counts as a finite binary64. The leading digits and the
power of ten are each rounded before they are multiplied, so a number next to the largest binary64
can fall on either side of the bound. -/
def isFinite (significand : Nat) (exponent : Int) : Bool :=
  let (significand, exponent) := leading significand exponent
  -- The leading digits alone are finite, and so is any fraction of them.
  if significand = 0 ∨ exponent < 0 then true
  else
    exponent ≤ maxExponent &&
      Binary64.fits (Binary64.nearest significand * Binary64.nearest (Nat.pow 10 exponent.toNat))

mutual

/-- The settled value of a document with at most `depth` levels of arrays and objects. -/
def settle? : (depth : Nat) → Json → Option Json
  | _, .null => some .null
  | _, .bool value => some (.bool value)
  | _, .integer value => if isFinite value.natAbs 0 then some (.integer value) else none
  | _, .decimal negative significand exponent =>
    if isFinite significand exponent then some (.decimal negative significand exponent) else none
  | _, .string text => text.map fun text => .string (some text)
  | 0, .array _ => none
  | depth + 1, .array items => (settleItems? depth items).map .array
  | 0, .object _ => none
  | depth + 1, .object members =>
    (settleMembers? depth members).map fun members =>
      ofMembers (SortedMap.ofList members).entries

/-- The settled values of the items of an array. -/
def settleItems? : (depth : Nat) → List Json → Option (List Json)
  | _, [] => some []
  | depth, item :: rest => do
    let item ← settle? depth item
    return item :: (← settleItems? depth rest)

/-- The settled values of the members of an object, in the order in which they are written. -/
def settleMembers? : (depth : Nat) → List (Option String × Json) → Option (List (String × Json))
  | _, [] => some []
  | depth, (key, item) :: rest => do
    let key ← key
    let item ← settle? depth item
    return (key, item) :: (← settleMembers? depth rest)

end

/-- The deepest nesting of a document that is read into a value. -/
def maxDepth : Nat := 127

end AccessControl.Json
