import AccessControl.Store.SortedMap

/-!
# What ordered maps answer

The entries of a map are what its lookups answer, `mem_entries_iff`, and each operation is said by
when the lookups of its result answer with a value.
-/

namespace AccessControl.SortedMap

variable {κ ν : Type} [Ord κ] [Std.LawfulEqOrd κ] {map : SortedMap κ ν} {key other : κ}
  {value found : ν}

/-- The value of a key in an ascending list is that of the only entry with the key. -/
theorem lookup_eq_some_iff {entries : List (κ × ν)}
    (h : entries.Pairwise fun x y => compare x.1 y.1 = .lt) :
    lookup key entries = some value ↔ (key, value) ∈ entries := by
  induction entries with
  | nil => simp
  | cons first rest ih =>
    obtain ⟨hfirst, hrest⟩ := List.pairwise_cons.mp h
    rw [lookup_cons, List.mem_cons, ← ih hrest]
    by_cases hkey : key = first.1
    · have hnone : lookup key rest = none := by
        rw [hkey]
        exact lookup_eq_none_of_lt hfirst
      rw [if_pos (by rw [hkey]; exact Std.ReflOrd.compare_self), hnone]
      simp [Prod.ext_iff, hkey, eq_comm]
    · rw [if_neg (mt Std.LawfulEqOrd.eq_of_compare hkey)]
      simp [Prod.ext_iff, hkey]

/-- The entries of a map are what its lookups answer. -/
theorem mem_entries_iff : (key, value) ∈ map.entries ↔ map.get? key = some value :=
  (lookup_eq_some_iff map.sorted).symm

theorem get?_filter_eq_some_iff {test : κ → ν → Bool} :
    (map.filter test).get? key = some value ↔ map.get? key = some value ∧ test key value := by
  rw [← mem_entries_iff, ← mem_entries_iff, filter, List.mem_filter]

theorem get?_erase_eq_some_iff :
    (map.erase other).get? key = some value ↔ key ≠ other ∧ map.get? key = some value := by
  rw [get?_erase]
  by_cases h : key = other
  · simp [h, Std.ReflOrd.compare_self]
  · simp [h, mt Std.LawfulEqOrd.eq_of_compare h]

variable [Std.TransOrd κ]

theorem get?_insert_self : (map.insert key value).get? key = some value := by
  rw [get?_insert, if_pos Std.ReflOrd.compare_self]

theorem get?_insert_of_ne (h : key ≠ other) : (map.insert other value).get? key = map.get? key := by
  rw [get?_insert, if_neg (mt Std.LawfulEqOrd.eq_of_compare h)]

theorem get?_insert_eq_some_iff :
    (map.insert other found).get? key = some value ↔
      key = other ∧ found = value ∨ key ≠ other ∧ map.get? key = some value := by
  by_cases h : key = other
  · simp [h, get?_insert_self]
  · simp [h, get?_insert_of_ne h]

/-- Setting a value that a key has changes nothing. -/
theorem insert_of_get?_eq_some (h : map.get? key = some value) : map.insert key value = map := by
  refine ext_get? fun other => ?_
  by_cases hother : other = key
  · rw [hother, get?_insert_self, h]
  · exact get?_insert_of_ne hother

end AccessControl.SortedMap
