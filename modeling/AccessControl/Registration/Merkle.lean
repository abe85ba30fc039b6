import AccessControl.Crypto.Digest

/-!
# Merkle trees

The tree of a list of leaves has the left part of the list on its left and the rest on its right,
where the left part is as long as the largest power of two below the length of the list. So every
length has one tree, and no leaf is repeated. Leaves and nodes are digests of messages that differ
in their first octets, so neither can be taken for the other.

`Merkle.root?` and `Merkle.path?` follow the tree from the top. `Merkle.verify` climbs from a leaf:
it knows only the position of the leaf and the number of leaves, and reads off their bits on which
side each sibling stands.
-/

namespace AccessControl.Merkle

/-- The digest of a leaf. -/
def leaf (message : Bytes) : Digest :=
  .ofParts [[0x00], message]

/-- The digest of a node above two others. -/
def node (left right : Digest) : Digest :=
  .ofParts [[0x01], left.octets, right.octets]

/-- The number of leaves on the left of a tree: the largest power of two below their number. -/
def leftSize (count : Nat) : Nat :=
  1 <<< Nat.log2 (count - 1)

theorem leftSize_pos (count : Nat) : 0 < leftSize count := by
  have := Nat.two_pow_pos (Nat.log2 (count - 1))
  rw [leftSize, Nat.shiftLeft_eq]
  omega

theorem leftSize_lt {count : Nat} (h : 2 ≤ count) : leftSize count < count := by
  have h : count - 1 ≠ 0 := by omega
  have := Nat.log2_self_le h
  rw [leftSize, Nat.shiftLeft_eq]
  omega

theorem length_take_leftSize_lt {leaves : List Digest} (h : 2 ≤ leaves.length) :
    (leaves.take (leftSize leaves.length)).length < leaves.length := by
  rw [List.length_take]
  exact Nat.lt_of_le_of_lt (Nat.min_le_left _ _) (leftSize_lt h)

theorem length_drop_leftSize_lt {leaves : List Digest} (h : 2 ≤ leaves.length) :
    (leaves.drop (leftSize leaves.length)).length < leaves.length := by
  rw [List.length_drop]
  have := leftSize_pos leaves.length
  omega

/-- The root of the tree of some leaves; without leaves there is none. -/
def root? (leaves : List Digest) : Option Digest :=
  if _ : 2 ≤ leaves.length then do
    let left ← root? (leaves.take (leftSize leaves.length))
    let right ← root? (leaves.drop (leftSize leaves.length))
    return node left right
  else leaves.head?
termination_by leaves.length
decreasing_by
  · exact length_take_leftSize_lt ‹_›
  · exact length_drop_leftSize_lt ‹_›

/-- The siblings on the way from the leaf at a position up to the root. -/
def siblings? (leaves : List Digest) (position : Nat) : Option (List Digest) :=
  if _ : 2 ≤ leaves.length then
    let size := leftSize leaves.length
    if position < size then do
      let below ← siblings? (leaves.take size) position
      return below ++ [← root? (leaves.drop size)]
    else do
      let below ← siblings? (leaves.drop size) (position - size)
      return below ++ [← root? (leaves.take size)]
  else some []
termination_by leaves.length
decreasing_by
  · exact length_take_leftSize_lt ‹_›
  · exact length_drop_leftSize_lt ‹_›

/-- The path of the leaf at a position, which must be one of the leaves. -/
def path? (leaves : List Digest) (position : Nat) : Option (List Digest) :=
  if position < leaves.length then siblings? leaves position else none

/-- Passes the levels on which the last node has no sibling: as long as it is a left one. -/
def skipLonely (position last : Nat) : Nat × Nat :=
  if position % 2 = 0 ∧ position ≠ 0 then skipLonely (position / 2) (last / 2)
  else (position, last)
termination_by position
decreasing_by omega

/-- The root that a path leads to from a node at a position, where `last` is the position of the
last node on its level; `none` if the path is too short or too long. -/
def climb (position last : Nat) (digest : Digest) : List Digest → Option Digest
  | [] => if last = 0 then some digest else none
  | sibling :: rest =>
    if last = 0 then none
    -- A right node, or a left one that is the last of its level: the sibling stands on its left.
    else if position % 2 = 1 ∨ position = last then
      let level := skipLonely position last
      climb (level.1 / 2) (level.2 / 2) (node sibling digest) rest
    else climb (position / 2) (last / 2) (node digest sibling) rest

/-- Whether a path leads from the leaf at a position among `size` leaves to a root. -/
def verify (leaf : Digest) (position size : UInt64) (path : List Digest) (root : Digest) : Bool :=
  position < size && climb position.toNat (size.toNat - 1) leaf path == some root

end AccessControl.Merkle
