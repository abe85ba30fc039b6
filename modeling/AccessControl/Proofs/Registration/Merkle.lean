import AccessControl.Registration.Merkle
import Mathlib.Algebra.Group.Nat.Defs
import Mathlib.Order.Basic
import Mathlib.Tactic.Set

/-!
# Climbing a tree is descending it backwards

`Merkle.climb` reads the way up off the bits of two counters, the position of a node and that of
the last node on its level. `Merkle.sides` reads the same way off the tree itself, from the top:
which part of the leaves holds the position says on which side the last sibling stands.
`climb_eq_ascend` says that the two agree for every number of leaves, every position and every
path, too short and too long ones included.

The proof takes the tree apart at its root. Left of the split the counters of the whole tree and
those of the left part make the same turns until the left part is climbed
(`climb_leftPart`); right of it the position and the last node carry one leading bit more than in
the right part, which is shifted out last (`climb_rightPart`).

`exists_siblings?` then says that the paths which `Merkle.siblings?` collects lead to the root.
-/

namespace AccessControl.Merkle

/-! ### The shape of a tree -/

/-- Where the sibling of a node stands. -/
inductive Side where
  | left
  | right
  deriving DecidableEq

/-- The node above two siblings. -/
def Side.join : Side → (sibling digest : Digest) → Digest
  | .left, sibling, digest => node sibling digest
  | .right, sibling, digest => node digest sibling

/-- Where the siblings stand on the way from the leaf at a position among `size` leaves up to the
root. -/
def sides (size position : Nat) : List Side :=
  if _ : 2 ≤ size then
    if position < leftSize size then sides (leftSize size) position ++ [.right]
    else sides (size - leftSize size) (position - leftSize size) ++ [.left]
  else []
termination_by size
decreasing_by
  · exact leftSize_lt ‹_›
  · have := leftSize_pos size
    omega

/-- The root that a path leads to when its siblings stand on the given sides; `none` if there are
not as many siblings as sides. -/
def ascend : List Side → Digest → List Digest → Option Digest
  | [], digest, [] => some digest
  | side :: sides, digest, sibling :: path => ascend sides (side.join sibling digest) path
  | _, _, _ => none

theorem sides_of_lt {size position : Nat} (h : size < 2) : sides size position = [] := by
  rw [sides, dif_neg (by omega)]

theorem sides_of_lt_leftSize {size position : Nat} (hsize : 2 ≤ size)
    (h : position < leftSize size) :
    sides size position = sides (leftSize size) position ++ [.right] := by
  rw [sides, dif_pos hsize, if_pos h]

theorem sides_of_leftSize_le {size position : Nat} (hsize : 2 ≤ size)
    (h : leftSize size ≤ position) :
    sides size position =
      sides (size - leftSize size) (position - leftSize size) ++ [.left] := by
  rw [sides, dif_pos hsize, if_neg (by omega)]

/-- The split point is a power of two, and the last position has one bit more. -/
theorem exists_leftSize_eq {size : Nat} (h : 2 ≤ size) :
    ∃ height, leftSize size = 2 ^ height ∧ 2 ^ height < size ∧ size ≤ 2 ^ (height + 1) := by
  have hne : size - 1 ≠ 0 := by omega
  refine ⟨Nat.log2 (size - 1), ?_, ?_, ?_⟩
  · rw [leftSize, Nat.shiftLeft_eq, Nat.one_mul]
  · have := Nat.log2_self_le hne
    omega
  · have := Nat.lt_log2_self (n := size - 1)
    omega

/-! ### Ascending -/

theorem ascend_snoc_nil (sides : List Side) (side : Side) (digest : Digest) :
    ascend (sides ++ [side]) digest [] = none := by
  cases sides <;> rfl

theorem ascend_nil_snoc (digest : Digest) (path : List Digest) (sibling : Digest) :
    ascend [] digest (path ++ [sibling]) = none := by
  cases path <;> rfl

/-- The last side joins the last sibling. -/
theorem ascend_snoc (sides : List Side) (side : Side) (digest : Digest) (path : List Digest)
    (sibling : Digest) :
    ascend (sides ++ [side]) digest (path ++ [sibling]) =
      (ascend sides digest path).map (side.join sibling) := by
  induction sides generalizing digest path with
  | nil =>
    cases path with
    | nil => rfl
    | cons first path =>
      rw [List.nil_append, List.cons_append, ascend, ascend_nil_snoc]
      rfl
  | cons first sides ih =>
    cases path with
    | nil =>
      rw [List.nil_append, List.cons_append, ascend, ascend_snoc_nil]
      rfl
    | cons next path =>
      rw [List.cons_append, List.cons_append, ascend, ih, ascend]

/-! ### Levels without a sibling -/

theorem skipLonely_of_odd {position last : Nat} (h : position % 2 = 1) :
    skipLonely position last = (position, last) := by
  rw [skipLonely, if_neg (by omega)]

theorem skipLonely_two_pow (height : Nat) : skipLonely (2 ^ height) (2 ^ height) = (1, 1) := by
  induction height with
  | zero => exact skipLonely_of_odd rfl
  | succ height ih =>
    have hpow : 2 ^ (height + 1) = 2 * 2 ^ height := Nat.pow_succ'
    have := Nat.two_pow_pos height
    rw [skipLonely, if_pos (by omega), show 2 ^ (height + 1) / 2 = 2 ^ height by omega, ih]

/-- A level is passed as long as the position is even. Whatever stands before the bits of the
position does not matter, since there is a bit that ends the search. -/
theorem exists_skipLonely_eq {height position : Nat} (hpos : position ≠ 0)
    (hlt : position < 2 ^ height) :
    ∃ height' position', height' ≤ height ∧ position' % 2 = 1 ∧ position' < 2 ^ height' ∧
      skipLonely position position = (position', position') ∧
      skipLonely (2 ^ height + position) (2 ^ height + position) =
        (2 ^ height' + position', 2 ^ height' + position') := by
  induction height generalizing position with
  | zero => omega
  | succ height ih =>
    have hpow : 2 ^ (height + 1) = 2 * 2 ^ height := Nat.pow_succ'
    by_cases hodd : position % 2 = 1
    · exact ⟨height + 1, position, Nat.le_refl _, hodd, hlt, skipLonely_of_odd hodd,
        skipLonely_of_odd (by omega)⟩
    · have hhalf : position / 2 ≠ 0 := by omega
      obtain ⟨height', position', hle, hodd', hlt', hskip, hskip'⟩ := ih hhalf (by omega)
      refine ⟨height', position', by omega, hodd', hlt', ?_, ?_⟩
      · rw [skipLonely, if_pos (by omega), hskip]
      · rw [skipLonely, if_pos (by omega), show (2 ^ (height + 1) + position) / 2 =
          2 ^ height + position / 2 by omega, hskip']

/-! ### One level of a climb -/

variable {position last : Nat} {digest sibling : Digest} {path : List Digest}

theorem climb_nil_of_ne (hlast : last ≠ 0) : climb position last digest [] = none := by
  rw [climb, if_neg hlast]

theorem climb_cons_of_odd (hlast : last ≠ 0) (hodd : position % 2 = 1) :
    climb position last digest (sibling :: path) =
      climb (position / 2) (last / 2) (node sibling digest) path := by
  rw [climb, if_neg hlast, if_pos (.inl hodd), skipLonely_of_odd hodd]

theorem climb_cons_of_even (hlast : last ≠ 0) (heven : position % 2 = 0)
    (hne : position ≠ last) :
    climb position last digest (sibling :: path) =
      climb (position / 2) (last / 2) (node digest sibling) path := by
  rw [climb, if_neg hlast, if_neg (by omega)]

/-- The last node of a level goes up to where it has a sibling. -/
theorem climb_cons_self (hlast : last ≠ 0) {level : Nat}
    (hskip : skipLonely last last = (level, level)) :
    climb last last digest (sibling :: path) =
      climb (level / 2) (level / 2) (node sibling digest) path := by
  rw [climb, if_neg hlast, if_pos (.inr rfl), hskip]

/-- At the root no sibling is left to take. -/
theorem climb_root_snoc (position : Nat) (digest : Digest) (path : List Digest)
    (sibling : Digest) : climb position 0 digest (path ++ [sibling]) = none := by
  cases path <;> simp [climb]

/-! ### The two parts of a tree -/

/-- Left of the split the counters make the turns of the left part, and the sibling that is left
over stands on the right. -/
theorem climb_leftPart (height : Nat) {position last : Nat} (hposition : position < 2 ^ height)
    (hle : 2 ^ height ≤ last) (hlt : last < 2 ^ (height + 1)) (digest : Digest)
    (path : List Digest) (sibling : Digest) :
    climb position last digest (path ++ [sibling]) =
      (climb position (2 ^ height - 1) digest path).map (Side.right.join sibling) := by
  induction height generalizing position last digest path with
  | zero =>
    obtain ⟨rfl, rfl⟩ : position = 0 ∧ last = 1 := by omega
    cases path <;> simp [climb, climb_root_snoc, Side.join]
  | succ height ih =>
    have hpow : 2 ^ (height + 1) = 2 * 2 ^ height := Nat.pow_succ'
    have hpow' : 2 ^ (height + 1 + 1) = 2 * 2 ^ (height + 1) := Nat.pow_succ'
    have hpos := Nat.two_pow_pos height
    have hhalf : (2 ^ (height + 1) - 1) / 2 = 2 ^ height - 1 := by omega
    have hlast : last ≠ 0 := by omega
    have hwhole : 2 ^ (height + 1) - 1 ≠ 0 := by omega
    cases path with
    | nil =>
      -- One sibling is not enough for two levels.
      have hup : last / 2 ≠ 0 := by omega
      rw [List.nil_append, climb_nil_of_ne hwhole, Option.map_none]
      by_cases hodd : position % 2 = 1
      · rw [climb_cons_of_odd hlast hodd, climb_nil_of_ne hup]
      · rw [climb_cons_of_even hlast (by omega) (by omega), climb_nil_of_ne hup]
    | cons first path =>
      rw [List.cons_append]
      by_cases hodd : position % 2 = 1
      · rw [climb_cons_of_odd hlast hodd, climb_cons_of_odd hwhole hodd, hhalf]
        exact ih (by omega) (by omega) (by omega) _ _
      · rw [climb_cons_of_even hlast (by omega) (by omega),
          climb_cons_of_even hwhole (by omega) (by omega), hhalf]
        exact ih (by omega) (by omega) (by omega) _ _

/-- Right of the split the counters make the turns of the right part, below one bit more. The last
node of the whole tree is the last one of the right part, so the levels without a sibling are the
same; the sibling that is left over stands on the left. -/
theorem climb_rightPart (height : Nat) {position last : Nat} (hposition : position ≤ last)
    (hlast : last < 2 ^ height) (digest : Digest) (path : List Digest) (sibling : Digest) :
    climb (2 ^ height + position) (2 ^ height + last) digest (path ++ [sibling]) =
      (climb position last digest path).map (Side.left.join sibling) := by
  induction height using Nat.strongRecOn generalizing position last digest path with
  | ind height ih =>
    have hne : 2 ^ height + last ≠ 0 := by have := Nat.two_pow_pos height; omega
    rcases Nat.eq_zero_or_pos last with rfl | hpos
    · -- The right part is climbed, and the way to the root is without siblings but for the last.
      obtain rfl : position = 0 := by omega
      cases path <;> simp [climb, climb_root_snoc, Side.join, skipLonely_two_pow]
    have hlast0 : last ≠ 0 := by omega
    by_cases hlonely : position = last ∧ position % 2 = 0
    · -- Levels are passed in both climbs, up to the same one.
      obtain ⟨rfl, heven⟩ := hlonely
      obtain ⟨height', level, hle, hodd, hlt, hskip, hskip'⟩ := exists_skipLonely_eq hlast0 hlast
      obtain ⟨below, rfl⟩ : ∃ below, height' = below + 1 :=
        ⟨height' - 1, by rcases height' with _ | below <;> omega⟩
      have hpow : 2 ^ (below + 1) = 2 * 2 ^ below := Nat.pow_succ'
      have hhalf : (2 ^ (below + 1) + level) / 2 = 2 ^ below + level / 2 := by omega
      cases path with
      | nil =>
        have hup : 2 ^ below + level / 2 ≠ 0 := by have := Nat.two_pow_pos below; omega
        rw [List.nil_append, climb_cons_self hne hskip', hhalf, climb_nil_of_ne hup,
          climb_nil_of_ne hlast0, Option.map_none]
      | cons first path =>
        rw [List.cons_append, climb_cons_self hne hskip', climb_cons_self hlast0 hskip, hhalf]
        exact ih below (by omega) (Nat.le_refl _) (by omega) _ _
    · -- There is a sibling on this level.
      obtain ⟨below, rfl⟩ : ∃ below, height = below + 1 :=
        ⟨height - 1, by rcases height with _ | below <;> omega⟩
      have hpow : 2 ^ (below + 1) = 2 * 2 ^ below := Nat.pow_succ'
      have hhalf : (2 ^ (below + 1) + position) / 2 = 2 ^ below + position / 2 := by omega
      have hhalf' : (2 ^ (below + 1) + last) / 2 = 2 ^ below + last / 2 := by omega
      have hup : 2 ^ below + last / 2 ≠ 0 := by have := Nat.two_pow_pos below; omega
      cases path with
      | nil =>
        rw [List.nil_append, climb_nil_of_ne hlast0, Option.map_none]
        by_cases hodd : position % 2 = 1
        · rw [climb_cons_of_odd hne (by omega), hhalf', climb_nil_of_ne hup]
        · rw [climb_cons_of_even hne (by omega) (by omega), hhalf', climb_nil_of_ne hup]
      | cons first path =>
        rw [List.cons_append]
        by_cases hodd : position % 2 = 1
        · rw [climb_cons_of_odd hne (by omega), climb_cons_of_odd hlast0 hodd, hhalf, hhalf']
          exact ih below (by omega) (by omega) (by omega) _ _
        · rw [climb_cons_of_even hne (by omega) (by omega),
            climb_cons_of_even hlast0 (by omega) (by omega), hhalf, hhalf']
          exact ih below (by omega) (by omega) (by omega) _ _

/-! ### The whole tree -/

/-- **Climbing by the counters goes the way that the tree has**, for every number of leaves, every
position and every path. -/
theorem climb_eq_ascend {size position : Nat} (h : position < size) (digest : Digest)
    (path : List Digest) :
    climb position (size - 1) digest path = ascend (sides size position) digest path := by
  induction size using Nat.strongRecOn generalizing position digest path with
  | ind size ih =>
    by_cases hsize : 2 ≤ size
    · obtain ⟨height, hleft, hlo, hhi⟩ := exists_leftSize_eq hsize
      have htwo := Nat.two_pow_pos height
      have hpow : 2 ^ (height + 1) = 2 * 2 ^ height := Nat.pow_succ'
      rcases List.eq_nil_or_concat path with rfl | ⟨path, sibling, rfl⟩
      · -- No path is enough for a tree of two leaves.
        rw [climb, if_neg (by omega)]
        by_cases hposition : position < leftSize size
        · rw [sides_of_lt_leftSize hsize hposition, ascend_snoc_nil]
        · rw [sides_of_leftSize_le hsize (by omega), ascend_snoc_nil]
      · rw [List.concat_eq_append]
        by_cases hposition : position < leftSize size
        · rw [sides_of_lt_leftSize hsize hposition, ascend_snoc,
            climb_leftPart height (by omega) (by omega) (by omega), ← hleft,
            ih _ (by omega) hposition]
        · obtain ⟨offset, rfl⟩ : ∃ offset, position = 2 ^ height + offset :=
            ⟨position - 2 ^ height, by omega⟩
          rw [sides_of_leftSize_le hsize (by omega), ascend_snoc,
            show size - 1 = 2 ^ height + (size - 2 ^ height - 1) by omega,
            climb_rightPart height (by omega) (by omega), hleft,
            show 2 ^ height + offset - 2 ^ height = offset by omega,
            ih (size - 2 ^ height) (by omega) (by omega)]
    · obtain ⟨rfl, rfl⟩ : size = 1 ∧ position = 0 := by omega
      rw [sides_of_lt (by omega)]
      cases path <;> simp [climb, ascend]

/-! ### The paths of a tree -/

theorem root?_of_two_le {leaves : List Digest} (h : 2 ≤ leaves.length) {left right : Digest}
    (hleft : root? (leaves.take (leftSize leaves.length)) = some left)
    (hright : root? (leaves.drop (leftSize leaves.length)) = some right) :
    root? leaves = some (node left right) := by
  rw [root?, dif_pos h, hleft, hright]
  rfl

theorem root?_singleton (leaf : Digest) : root? [leaf] = some leaf := by
  rw [root?, dif_neg (by simp)]
  rfl

/-- Some leaves always have a root. -/
theorem exists_root? {leaves : List Digest} (h : leaves ≠ []) :
    ∃ root, root? leaves = some root := by
  induction hn : leaves.length using Nat.strongRecOn generalizing leaves with
  | ind n ih =>
    subst hn
    have hpos : 0 < leaves.length := List.length_pos_iff.mpr h
    by_cases hsize : 2 ≤ leaves.length
    · have hlt := leftSize_lt hsize
      have hsplit := leftSize_pos leaves.length
      obtain ⟨left, hleft⟩ := ih _ (length_take_leftSize_lt hsize)
        (List.ne_nil_of_length_pos (by rw [List.length_take]; omega)) rfl
      obtain ⟨right, hright⟩ := ih _ (length_drop_leftSize_lt hsize)
        (List.ne_nil_of_length_pos (by rw [List.length_drop]; omega)) rfl
      exact ⟨node left right, root?_of_two_le hsize hleft hright⟩
    · rw [root?, dif_neg hsize]
      exact ⟨leaves.head h, List.head?_eq_some_head h⟩

/-- Every leaf has a path, and it leads to the root. -/
theorem exists_siblings? {leaves : List Digest} {position : Nat} (h : position < leaves.length) :
    ∃ path root, siblings? leaves position = some path ∧ root? leaves = some root ∧
      ascend (sides leaves.length position) leaves[position] path = some root := by
  induction hn : leaves.length using Nat.strongRecOn generalizing leaves position with
  | ind n ih =>
    subst hn
    by_cases hsize : 2 ≤ leaves.length
    · have hlt := leftSize_lt hsize
      have hsplit := leftSize_pos leaves.length
      set left := leaves.take (leftSize leaves.length) with hleftPart
      set right := leaves.drop (leftSize leaves.length) with hrightPart
      have hlength : left.length = leftSize leaves.length := by
        rw [hleftPart, List.length_take]; omega
      have hlength' : right.length = leaves.length - leftSize leaves.length := by
        rw [hrightPart, List.length_drop]
      by_cases hposition : position < leftSize leaves.length
      · have hposition' : position < left.length := by omega
        have hne : right ≠ [] := List.ne_nil_of_length_pos (by omega)
        obtain ⟨path, below, hpath, hbelow, hascend⟩ := ih _ (by omega) hposition' rfl
        obtain ⟨other, hother⟩ := exists_root? hne
        refine ⟨path ++ [other], node below other, ?_, root?_of_two_le hsize hbelow hother, ?_⟩
        · rw [siblings?, dif_pos hsize, if_pos hposition, ← hleftPart, ← hrightPart, hpath, hother]
          rfl
        · rw [sides_of_lt_leftSize hsize hposition, ascend_snoc, ← hlength]
          have hleaf : leaves[position] = left[position] := by
            simp [hleftPart]
          rw [hleaf, hascend]
          rfl
      · have hposition' : position - leftSize leaves.length < right.length := by omega
        have hne : left ≠ [] := List.ne_nil_of_length_pos (by omega)
        obtain ⟨path, below, hpath, hbelow, hascend⟩ := ih _ (by omega) hposition' rfl
        obtain ⟨other, hother⟩ := exists_root? hne
        refine ⟨path ++ [other], node other below, ?_, root?_of_two_le hsize hother hbelow, ?_⟩
        · rw [siblings?, dif_pos hsize, if_neg hposition, ← hleftPart, ← hrightPart, hpath, hother]
          rfl
        · rw [sides_of_leftSize_le hsize (by omega), ascend_snoc, ← hlength']
          have hleaf : leaves[position] = right[position - leftSize leaves.length] := by
            simp only [hrightPart, List.getElem_drop]
            congr 1
            omega
          rw [hleaf, hascend]
          rfl
    · have hone : leaves.length = 1 := by omega
      obtain ⟨leaf, rfl⟩ := List.length_eq_one_iff.mp hone
      obtain rfl : position = 0 := by omega
      refine ⟨[], leaf, ?_, ?_, ?_⟩
      · rw [siblings?, dif_neg hsize]
      · exact root?_singleton leaf
      · rw [sides_of_lt (by simp)]
        rfl

/-- **The path of a leaf verifies** against the root of its tree. -/
theorem exists_path? {leaves : List Digest} {position : Nat} (h : position < leaves.length) :
    ∃ path root, path? leaves position = some path ∧ root? leaves = some root ∧
      ascend (sides leaves.length position) leaves[position] path = some root := by
  obtain ⟨path, root, hpath, hroot, hascend⟩ := exists_siblings? h
  exact ⟨path, root, by rw [path?, if_pos h, hpath], hroot, hascend⟩

end AccessControl.Merkle
