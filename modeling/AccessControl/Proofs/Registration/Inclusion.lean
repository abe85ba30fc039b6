import AccessControl.Proofs.Registration.Merkle

/-!
# The paths that verify

RFC 6962 defines the tree of `size` leaves by a recursion: the leaves are split at the largest
power of two strictly below their number, and a path lists the roots of the parts that are left
aside on the way to a position. `Way size position sides` is this recursion as a relation; it
knows neither bits nor counters. `Merkle.verify` walks the other way, from the leaf up, and has only
two counters to tell it where the siblings stand.

`verify_eq_true_iff` says that the walk accepts what the recursion allows and nothing else, for
all sizes and positions of 64 bits and for paths of any length. The size of the tree and the
position fix the way (`way_iff`), so a path that is longer or shorter than it never verifies.

Half of the work is `climb_eq_ascend`. What is left here is to compare `Merkle.sides`, which
computes the split point from a logarithm, with the relation, and to count the turns of
`Merkle.skipLonely`.
-/

namespace AccessControl.Merkle

/-! ### Where the leaves are split -/

/-- `part` is the largest power of two strictly below `size`. -/
structure IsSplit (size part : Nat) : Prop where
  isPower : ∃ height, part = 2 ^ height
  lt_size : part < size
  largest : ∀ height, 2 ^ height < size → 2 ^ height ≤ part

/-- There is only one split point. -/
theorem IsSplit.unique {size part part' : Nat} (h : IsSplit size part) (h' : IsSplit size part') :
    part = part' := by
  obtain ⟨height, rfl⟩ := h.isPower
  obtain ⟨height', rfl⟩ := h'.isPower
  exact Nat.le_antisymm (h'.largest height h.lt_size) (h.largest height' h'.lt_size)

/-- Two leaves are needed for a split. -/
theorem IsSplit.two_le {size part : Nat} (h : IsSplit size part) : 2 ≤ size := by
  obtain ⟨height, rfl⟩ := h.isPower
  have hpos := Nat.two_pow_pos height
  have hlt := h.lt_size
  omega

/-- The logarithm finds the split point. -/
theorem isSplit_leftSize {size : Nat} (h : 2 ≤ size) : IsSplit size (leftSize size) := by
  obtain ⟨height, hleft, hlo, hhi⟩ := exists_leftSize_eq h
  refine ⟨⟨height, hleft⟩, hleft ▸ hlo, fun other hother => ?_⟩
  have hlt : 2 ^ other < 2 ^ (height + 1) := Nat.lt_of_lt_of_le hother hhi
  have hle : other < height + 1 := (Nat.pow_lt_pow_iff_right Nat.one_lt_two).mp hlt
  rw [hleft]
  exact Nat.pow_le_pow_right Nat.two_pos (Nat.le_of_lt_succ hle)

/-! ### The way to a position -/

/-- The recursion that isolates a position among `size` leaves. The sides on which the parts that
are left aside stand are listed from the leaf up. -/
inductive Way : (size position : Nat) → List Side → Prop
  /-- A single leaf is isolated. -/
  | leaf : Way 1 0 []
  /-- The position is left of the split, so the other part stands on the right. -/
  | left {size part position : Nat} {sides : List Side} (split : IsSplit size part)
      (lt : position < part) (below : Way part position sides) :
      Way size position (sides ++ [.right])
  /-- The position is right of the split, so the other part stands on the left. -/
  | right {size part position : Nat} {sides : List Side} (split : IsSplit size part)
      (le : part ≤ position) (below : Way (size - part) (position - part) sides) :
      Way size position (sides ++ [.left])

/-- Every position among the leaves is isolated by the computed sides. -/
theorem way_sides {size position : Nat} (h : position < size) :
    Way size position (sides size position) := by
  induction size using Nat.strongRecOn generalizing position with
  | ind size ih =>
    by_cases hsize : 2 ≤ size
    · have hsplit := isSplit_leftSize hsize
      have hpos := leftSize_pos size
      have hlt := hsplit.lt_size
      by_cases hposition : position < leftSize size
      · rw [sides_of_lt_leftSize hsize hposition]
        exact .left hsplit hposition (ih _ hlt hposition)
      · rw [sides_of_leftSize_le hsize (by omega)]
        exact .right hsplit (by omega) (ih _ (by omega) (by omega))
    · obtain ⟨rfl, rfl⟩ : size = 1 ∧ position = 0 := by omega
      rw [sides_of_lt (by omega)]
      exact .leaf

/-- **The way to a position is the one that is computed**; positions beyond the leaves have none. -/
theorem way_iff {size position : Nat} {way : List Side} :
    Way size position way ↔ position < size ∧ way = sides size position := by
  constructor
  · intro h
    induction h with
    | leaf => exact ⟨Nat.one_pos, (sides_of_lt (by omega)).symm⟩
    | left split lt _ ih =>
      obtain rfl := split.unique (isSplit_leftSize split.two_le)
      have hlt := split.lt_size
      rw [sides_of_lt_leftSize split.two_le lt, ih.2]
      exact ⟨by omega, rfl⟩
    | right split le _ ih =>
      obtain rfl := split.unique (isSplit_leftSize split.two_le)
      have hlt := ih.1
      rw [sides_of_leftSize_le split.two_le le, ih.2]
      exact ⟨by omega, rfl⟩
  · rintro ⟨hlt, rfl⟩
    exact way_sides hlt

/-! ### Folding a path -/

/-- The siblings of a path are joined from the leaf up, each on its side. -/
def fold (sides : List Side) (leaf : Digest) (path : List Digest) : Digest :=
  (sides.zip path).foldl (fun digest step => step.1.join step.2 digest) leaf

/-- A path can be ascended if it has one sibling for every side. -/
theorem ascend_eq_some_iff {sides : List Side} {leaf root : Digest} {path : List Digest} :
    ascend sides leaf path = some root ↔
      path.length = sides.length ∧ fold sides leaf path = root := by
  induction sides generalizing leaf path with
  | nil => cases path <;> simp [ascend, fold]
  | cons side sides ih =>
    cases path with
    | nil => simp [ascend]
    | cons sibling path =>
      rw [ascend, ih]
      simp [fold]

/-! ### The turns of the inner loop -/

/-- What is skipped are trailing zeros. The loop is left at the first bit that is set, or at zero
if the position was zero before. -/
theorem exists_skipLonely_eq_div (width : Nat) {position : Nat} (h : position < 2 ^ width)
    (last : Nat) :
    ∃ turns, turns ≤ width - 1 ∧
      skipLonely position last = (position / 2 ^ turns, last / 2 ^ turns) ∧
      (∀ turn < turns, position / 2 ^ turn % 2 = 0 ∧ position / 2 ^ turn ≠ 0) ∧
      (position / 2 ^ turns % 2 = 1 ∨ position / 2 ^ turns = 0) := by
  induction width generalizing position last with
  | zero =>
    obtain rfl : position = 0 := by omega
    refine ⟨0, by omega, ?_, by omega, .inr (by simp)⟩
    rw [skipLonely, if_neg (by omega)]
    simp
  | succ width ih =>
    have hpow : 2 ^ (width + 1) = 2 * 2 ^ width := Nat.pow_succ'
    by_cases heven : position % 2 = 0 ∧ position ≠ 0
    · have hlt : position / 2 < 2 ^ width := by omega
      obtain ⟨turns, hturns, hskip, hbefore, hafter⟩ := ih hlt (last / 2)
      have hhalf : ∀ number turn, number / 2 / 2 ^ turn = number / 2 ^ (turn + 1) := by
        intro number turn
        rw [Nat.div_div_eq_div_mul, Nat.pow_succ']
      -- A position that is even and not zero has at least two digits.
      have hwidth : width ≠ 0 := by
        rintro rfl
        omega
      refine ⟨turns + 1, by omega, ?_, ?_, ?_⟩
      · rw [skipLonely, if_pos heven, hskip, hhalf, hhalf]
      · intro turn hturn
        cases turn with
        | zero => simpa using heven
        | succ turn =>
          rw [← hhalf]
          exact hbefore turn (by omega)
      · rw [← hhalf]
        exact hafter
    · refine ⟨0, by omega, ?_, by omega, ?_⟩
      · rw [skipLonely, if_neg heven]
        simp
      · rw [Nat.pow_zero, Nat.div_one]
        omega

/-! ### The walk and the recursion -/

theorem verify_eq_true_iff_ascend {leaf root : Digest} {position size : UInt64}
    {path : List Digest} :
    verify leaf position size path root = true ↔
      position < size ∧ ascend (sides size.toNat position.toNat) leaf path = some root := by
  rw [verify, Bool.and_eq_true, decide_eq_true_eq, beq_iff_eq]
  refine and_congr_right fun hlt => ?_
  rw [climb_eq_ascend (UInt64.lt_iff_toNat_lt.mp hlt)]

/-- **A path verifies exactly if it has the shape of the recursion and folds to the root**, for
every leaf, position, size, path and root. The recursion isolates the positions below the size and
no others, and each in one way, so paths of another length are refused.

The loop that skips levels makes at most 63 turns, whatever the counters are: it makes one for
every trailing zero of a position that is not zero. -/
theorem verify_eq_true_iff (leaf root : Digest) (position size : UInt64) (path : List Digest) :
    (verify leaf position size path root = true ↔
      position < size ∧ ∃ way, Way size.toNat position.toNat way ∧
        path.length = way.length ∧ fold way leaf path = root) ∧
    (∀ way, Way size.toNat position.toNat way ↔
      position < size ∧ way = sides size.toNat position.toNat) ∧
    ∀ counter last : UInt64, ∃ turns < 64,
      skipLonely counter.toNat last.toNat =
        (counter.toNat / 2 ^ turns, last.toNat / 2 ^ turns) ∧
      (∀ turn < turns, counter.toNat / 2 ^ turn % 2 = 0 ∧ counter.toNat / 2 ^ turn ≠ 0) ∧
      (counter.toNat / 2 ^ turns % 2 = 1 ∨ counter.toNat / 2 ^ turns = 0) := by
  have hway : ∀ way, Way size.toNat position.toNat way ↔
      position < size ∧ way = sides size.toNat position.toNat := by
    intro way
    rw [way_iff, UInt64.lt_iff_toNat_lt]
  refine ⟨?_, hway, ?_⟩
  · rw [verify_eq_true_iff_ascend, ascend_eq_some_iff]
    refine and_congr_right fun hlt => ?_
    constructor
    · rintro ⟨hlength, hfold⟩
      exact ⟨_, (hway _).mpr ⟨hlt, rfl⟩, hlength, hfold⟩
    · rintro ⟨way, h, hlength, hfold⟩
      obtain ⟨-, rfl⟩ := (hway way).mp h
      exact ⟨hlength, hfold⟩
  · intro counter last
    obtain ⟨turns, hturns, hskip⟩ :=
      exists_skipLonely_eq_div 64 counter.toNat_lt last.toNat
    exact ⟨turns, by omega, hskip⟩

end AccessControl.Merkle
