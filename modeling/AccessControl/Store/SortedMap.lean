/-!
# Ordered maps

A finite map as the list of its entries in ascending order of their keys. The order is part of the
type, so a map has exactly one list of entries, and two maps that answer every lookup alike are
equal (`SortedMap.ext_get?`). `get?_insert`, `get?_erase` and `get?_empty` say what each operation
does to lookups.
-/

namespace AccessControl

/-- A finite map from `κ` to `ν`, as its entries in ascending order of keys. -/
structure SortedMap (κ ν : Type) [Ord κ] where
  /-- The entries of the map. -/
  entries : List (κ × ν)
  /-- Each key stands before every later one. -/
  sorted : entries.Pairwise fun x y => compare x.1 y.1 = .lt

namespace SortedMap

variable {κ ν : Type} [Ord κ]

/-- The list with the value of `key` set to `value`, given a list in ascending order of keys. -/
def insertEntry (key : κ) (value : ν) : List (κ × ν) → List (κ × ν)
  | [] => [(key, value)]
  | entry :: rest =>
    match compare key entry.1 with
    | .lt => (key, value) :: entry :: rest
    | .eq => (key, value) :: rest
    | .gt => entry :: insertEntry key value rest

/-- The value stored for `key` in a list of entries. -/
def lookup (key : κ) (entries : List (κ × ν)) : Option ν :=
  (entries.find? fun entry => compare key entry.1 == .eq).map (·.2)

/-- The map without entries. -/
def empty : SortedMap κ ν := ⟨[], .nil⟩

instance : Inhabited (SortedMap κ ν) := ⟨empty⟩

/-- The value stored for `key`. -/
def get? (map : SortedMap κ ν) (key : κ) : Option ν :=
  lookup key map.entries

/-- The number of entries. -/
def size (map : SortedMap κ ν) : Nat :=
  map.entries.length

/-- The map without the entries that fail a test. -/
def filter (test : κ → ν → Bool) (map : SortedMap κ ν) : SortedMap κ ν :=
  ⟨map.entries.filter fun entry => test entry.1 entry.2, map.sorted.filter _⟩

/-- The map without an entry for `key`. -/
def erase (map : SortedMap κ ν) (key : κ) : SortedMap κ ν :=
  map.filter fun other _ => compare key other != .eq

theorem mem_insertEntry {key : κ} {value : ν} {entry : κ × ν} {entries : List (κ × ν)}
    (h : entry ∈ insertEntry key value entries) : entry = (key, value) ∨ entry ∈ entries := by
  induction entries with
  | nil => simpa [insertEntry] using h
  | cons first rest ih =>
    rw [insertEntry] at h
    split at h <;> grind

variable [Std.TransOrd κ]

theorem sorted_insertEntry (key : κ) (value : ν) {entries : List (κ × ν)}
    (h : entries.Pairwise fun x y => compare x.1 y.1 = .lt) :
    (insertEntry key value entries).Pairwise fun x y => compare x.1 y.1 = .lt := by
  induction entries with
  | nil => simp [insertEntry]
  | cons first rest ih =>
    obtain ⟨hfirst, hrest⟩ := List.pairwise_cons.1 h
    rw [insertEntry]
    split
    case h_1 hlt =>
      refine List.pairwise_cons.2 ⟨fun other hother => ?_, h⟩
      rcases List.mem_cons.1 hother with rfl | hother
      · exact hlt
      · exact Std.TransCmp.lt_trans hlt (hfirst other hother)
    case h_2 heq =>
      exact List.pairwise_cons.2
        ⟨fun other hother => Std.TransCmp.lt_of_eq_of_lt heq (hfirst other hother), hrest⟩
    case h_3 hgt =>
      refine List.pairwise_cons.2 ⟨fun other hother => ?_, ih hrest⟩
      rcases mem_insertEntry hother with rfl | hother
      · exact Std.OrientedCmp.lt_of_gt hgt
      · exact hfirst other hother

/-- The map with the value of `key` set to `value`. -/
def insert (map : SortedMap κ ν) (key : κ) (value : ν) : SortedMap κ ν :=
  ⟨insertEntry key value map.entries, sorted_insertEntry key value map.sorted⟩

/-- The map of a list of entries; of entries with one key the last one counts. -/
def ofList (entries : List (κ × ν)) : SortedMap κ ν :=
  entries.foldl (fun map entry => map.insert entry.1 entry.2) empty

/-! ### Lookups -/

omit [Std.TransOrd κ] in
@[simp] theorem lookup_nil (key : κ) : lookup key ([] : List (κ × ν)) = none := rfl

omit [Std.TransOrd κ] in
theorem lookup_cons (key : κ) (entry : κ × ν) (rest : List (κ × ν)) :
    lookup key (entry :: rest) =
      if compare key entry.1 = .eq then some entry.2 else lookup key rest := by
  by_cases h : compare key entry.1 = .eq <;> simp [lookup, h]

omit [Std.TransOrd κ] in
@[simp] theorem get?_empty (key : κ) : (empty : SortedMap κ ν).get? key = none := rfl

variable [Std.LawfulEqOrd κ]

omit [Std.TransOrd κ] in
theorem lookup_insertEntry (key other : κ) (value : ν) (entries : List (κ × ν)) :
    lookup other (insertEntry key value entries) =
      if compare other key = .eq then some value else lookup other entries := by
  induction entries with
  | nil => simp [insertEntry, lookup_cons]
  | cons first rest ih =>
    rw [insertEntry]
    split
    case h_1 => simp [lookup_cons]
    case h_2 heq =>
      have := Std.LawfulEqCmp.eq_of_compare heq
      subst this
      rw [lookup_cons, lookup_cons]
      split <;> rfl
    case h_3 hgt =>
      rw [lookup_cons, ih, lookup_cons]
      by_cases hother : compare other first.1 = .eq
      · have hne : compare other key ≠ .eq := by
          intro h
          rw [← Std.LawfulEqCmp.eq_of_compare h, hother] at hgt
          cases hgt
        simp [hother, hne]
      · simp [hother]

/-- After `insert`, the key has the new value and every other key the old one. -/
theorem get?_insert (map : SortedMap κ ν) (key other : κ) (value : ν) :
    (map.insert key value).get? other =
      if compare other key = .eq then some value else map.get? other :=
  lookup_insertEntry key other value map.entries

omit [Std.TransOrd κ] in
/-- After `erase`, the key has no value and every other key the old one. -/
theorem get?_erase (map : SortedMap κ ν) (key other : κ) :
    (map.erase key).get? other = if compare other key = .eq then none else map.get? other := by
  obtain ⟨entries, sorted⟩ := map
  simp only [get?, erase, filter]
  clear sorted
  induction entries with
  | nil => simp
  | cons first rest ih =>
    by_cases hkey : compare key first.1 = .eq
    · have := Std.LawfulEqCmp.eq_of_compare hkey
      subst this
      simp only [List.filter_cons, hkey, bne_self_eq_false, Bool.false_eq_true, if_false, ih,
        lookup_cons]
      split <;> rfl
    · simp only [List.filter_cons, hkey, bne_iff_ne, ne_eq, not_false_eq_true, if_true,
        lookup_cons, ih]
      by_cases hother : compare other first.1 = .eq
      · have hne : compare other key ≠ .eq := by
          intro h
          have := Std.LawfulEqCmp.eq_of_compare h
          subst this
          exact hkey hother
        simp [hother, hne]
      · simp [hother]

/-! ### Equality -/

omit [Std.LawfulEqOrd κ] [Std.TransOrd κ] in
theorem lookup_eq_none_of_lt {key : κ} {entries : List (κ × ν)}
    (h : ∀ entry ∈ entries, compare key entry.1 = .lt) : lookup key entries = none := by
  induction entries with
  | nil => rfl
  | cons first rest ih =>
    rw [lookup_cons, h first (List.mem_cons_self ..), if_neg (by decide)]
    exact ih fun entry hentry => h entry (List.mem_cons_of_mem _ hentry)

/-- Ascending lists that answer every lookup alike are equal. -/
theorem eq_of_lookup_eq {xs ys : List (κ × ν)}
    (hx : xs.Pairwise fun x y => compare x.1 y.1 = .lt)
    (hy : ys.Pairwise fun x y => compare x.1 y.1 = .lt)
    (h : ∀ key, lookup key xs = lookup key ys) : xs = ys := by
  induction xs generalizing ys with
  | nil =>
    cases ys with
    | nil => rfl
    | cons y ys => simpa [lookup_cons] using h y.1
  | cons x xs ih =>
    cases ys with
    | nil => simpa [lookup_cons] using h x.1
    | cons y ys =>
      obtain ⟨hx, hxs⟩ := List.pairwise_cons.1 hx
      obtain ⟨hy, hys⟩ := List.pairwise_cons.1 hy
      have hxy : compare x.1 y.1 = .eq := by
        cases hcmp : compare x.1 y.1 with
        | eq => rfl
        | lt =>
          have hnone : lookup x.1 (y :: ys) = none := by
            refine lookup_eq_none_of_lt fun entry hentry => ?_
            rcases List.mem_cons.1 hentry with rfl | hentry
            · exact hcmp
            · exact Std.TransCmp.lt_trans hcmp (hy entry hentry)
          simpa [lookup_cons, hnone] using h x.1
        | gt =>
          have hcmp := Std.OrientedCmp.lt_of_gt hcmp
          have hnone : lookup y.1 (x :: xs) = none := by
            refine lookup_eq_none_of_lt fun entry hentry => ?_
            rcases List.mem_cons.1 hentry with rfl | hentry
            · exact hcmp
            · exact Std.TransCmp.lt_trans hcmp (hx entry hentry)
          simpa [lookup_cons, hnone] using h y.1
      have hkey : x.1 = y.1 := Std.LawfulEqCmp.eq_of_compare hxy
      have hvalue : x.2 = y.2 := by simpa [lookup_cons, hkey] using h x.1
      have htail : xs = ys := by
        refine ih hxs hys fun key => ?_
        by_cases hk : compare key x.1 = .eq
        · have := Std.LawfulEqCmp.eq_of_compare hk
          subst this
          rw [lookup_eq_none_of_lt hx, lookup_eq_none_of_lt (hkey ▸ hy)]
        · simpa [lookup_cons, hk, ← hkey] using h key
      rw [htail, Prod.ext hkey hvalue]

/-- Maps that answer every lookup alike are equal. -/
theorem ext_get? {first second : SortedMap κ ν} (h : ∀ key, first.get? key = second.get? key) :
    first = second := by
  obtain ⟨xs, hx⟩ := first
  obtain ⟨ys, hy⟩ := second
  have := eq_of_lookup_eq hx hy h
  subst this
  rfl

end SortedMap

end AccessControl
