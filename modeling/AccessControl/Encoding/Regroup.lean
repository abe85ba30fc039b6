/-!
# Regrouping bits

A list of values of `source` bits each is read as one sequence of bits, most significant first, and
cut into values of `target` bits each. Bits are kept in a 32-bit accumulator from which only the low
ones are ever taken, so it may lose high bits freely.

With padding, a last incomplete value is filled up with zero bits. Without, nothing may be left but
fewer than `source` bits, all zero; that is what padding the other way round leaves.
-/

namespace AccessControl.Regroup

/-- The bits that are read but not yet cut off: the low `count` bits of `bits`. -/
structure Accumulator where
  bits : UInt32
  count : Nat

/-- The low `width` bits of a word. -/
def low (width : Nat) (word : UInt32) : UInt8 :=
  (word &&& ((1 <<< UInt32.ofNat width) - 1)).toUInt8

/-- Cuts off values of `target` bits while there are enough bits. -/
def cut (target : Nat) (bits : UInt32) (count : Nat) : List UInt8 × Nat :=
  if 0 < target ∧ target ≤ count then
    let count := count - target
    let (values, left) := cut target bits count
    (low target (bits >>> UInt32.ofNat count) :: values, left)
  else ([], count)
termination_by count
decreasing_by omega

/-- The values cut from the accumulator and the data after it, and what is left in the end; `none`
when a value of the data has more than `source` bits. -/
def run? (source target : Nat) : Accumulator → List UInt8 → Option (List UInt8 × Accumulator)
  | state, [] => some ([], state)
  | state, value :: rest =>
    if value.toNat < 1 <<< source then do
      let bits := (state.bits <<< UInt32.ofNat source) ||| value.toUInt32
      let (values, count) := cut target bits (state.count + source)
      let (more, state) ← run? source target ⟨bits, count⟩ rest
      return (values ++ more, state)
    else none

/-- The values of `target` bits that the data, in values of `source` bits, is made of. -/
def regroup? (source target : Nat) (padded : Bool) (data : List UInt8) : Option (List UInt8) := do
  let (values, state) ← run? source target ⟨0, 0⟩ data
  -- What is left, filled up with zeros; zero itself if nothing is left.
  let last := low target (state.bits <<< UInt32.ofNat (target - state.count))
  if padded then
    return if state.count = 0 then values else values ++ [last]
  else if state.count < source ∧ last = 0 then return values
  else none

end AccessControl.Regroup
