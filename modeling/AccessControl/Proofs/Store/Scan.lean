import AccessControl.Proofs.Store.SortedMap
import AccessControl.Store.Memory

/-!
# Scanning

The keys that begin in one way stand next to each other, so `SortedMap.entriesUnder`, which skips
what stands before them and stops behind them, finds them all: it is a filter.
-/

namespace AccessControl

/-! ### The order of keys -/

namespace Bytes

/-- A key is not below what it begins with. -/
theorem compare_ne_lt_of_isPrefixOf {start key : Bytes} (h : start.isPrefixOf key) :
    compare key start ≠ .lt := by
  induction start generalizing key with
  | nil =>
    cases key with
    | nil => rw [List.compare_nil_nil]; decide
    | cons first key => rw [List.compare_cons_nil]; decide
  | cons first start ih =>
    cases key with
    | nil => cases h
    | cons other key =>
      rw [List.isPrefixOf, Bool.and_eq_true, beq_iff_eq] at h
      obtain ⟨rfl, h⟩ := h
      rw [List.compare_cons_cons, Std.ReflOrd.compare_self, Ordering.eq_then]
      exact ih h

/-- Above what does not begin in a way and is not below it, nothing begins in that way. -/
theorem isPrefixOf_eq_false_of_compare_eq_lt {start key other : Bytes}
    (h : start.isPrefixOf key = false) (hge : compare key start ≠ .lt)
    (hlt : compare key other = .lt) : start.isPrefixOf other = false := by
  induction start generalizing key other with
  | nil => cases h
  | cons first start ih =>
    cases key with
    | nil => exact absurd List.compare_nil_cons hge
    | cons head key =>
      cases other with
      | nil =>
        rw [List.compare_cons_nil] at hlt
        cases hlt
      | cons head' other =>
        rw [List.compare_cons_cons] at hge hlt
        rw [List.isPrefixOf, Bool.and_eq_false_iff, beq_eq_false_iff_ne] at h ⊢
        rcases Decidable.em (first = head') with rfl | hne
        · refine .inr ?_
          cases hcompare : compare head first with
          | lt =>
            rw [hcompare] at hge
            exact absurd rfl hge
          | eq =>
            obtain rfl := Std.LawfulEqOrd.eq_of_compare hcompare
            rw [hcompare, Ordering.eq_then] at hge hlt
            exact ih (h.resolve_left (fun hne => hne rfl)) hge hlt
          | gt =>
            rw [hcompare] at hlt
            cases hlt
        · exact .inl hne

end Bytes

namespace SortedMap

variable {ν : Type}

/-- In an ascending list of keys that are not below `start`, those that begin with it come first. -/
theorem takeWhile_eq_filter {start : Bytes} {entries : List (Bytes × ν)}
    (h : entries.Pairwise fun x y => compare x.1 y.1 = .lt)
    (hge : ∀ entry ∈ entries, compare entry.1 start ≠ .lt) :
    entries.takeWhile (fun entry => start.isPrefixOf entry.1) =
      entries.filter fun entry => start.isPrefixOf entry.1 := by
  induction entries with
  | nil => rfl
  | cons first rest ih =>
    obtain ⟨hfirst, hrest⟩ := List.pairwise_cons.mp h
    rw [List.forall_mem_cons] at hge
    cases hprefix : start.isPrefixOf first.1 with
    | true =>
      simp only [List.takeWhile_cons, List.filter_cons, hprefix, if_true]
      rw [ih hrest hge.2]
    | false =>
      simp only [List.takeWhile_cons, List.filter_cons, hprefix, Bool.false_eq_true, if_false]
      rw [eq_comm, List.filter_eq_nil_iff]
      intro entry hentry
      rw [Bytes.isPrefixOf_eq_false_of_compare_eq_lt hprefix hge.1 (hfirst entry hentry)]
      exact Bool.false_ne_true

/-- In an ascending list, the entries under `start` are those that a filter finds. -/
theorem takeWhile_dropWhile_eq_filter {start : Bytes} {entries : List (Bytes × ν)}
    (h : entries.Pairwise fun x y => compare x.1 y.1 = .lt) :
    (entries.dropWhile fun entry => compare entry.1 start == .lt).takeWhile
        (fun entry => start.isPrefixOf entry.1) =
      entries.filter fun entry => start.isPrefixOf entry.1 := by
  induction entries with
  | nil => rfl
  | cons first rest ih =>
    obtain ⟨hfirst, hrest⟩ := List.pairwise_cons.mp h
    by_cases hbelow : compare first.1 start = .lt
    · have hnot : start.isPrefixOf first.1 = false :=
        Bool.eq_false_iff.mpr fun hprefix => Bytes.compare_ne_lt_of_isPrefixOf hprefix hbelow
      rw [List.dropWhile_cons_of_pos (by simp [hbelow]), ih hrest,
        List.filter_cons_of_neg (by simp [hnot])]
    · rw [List.dropWhile_cons_of_neg (by simpa using hbelow)]
      refine takeWhile_eq_filter h ?_
      rw [List.forall_mem_cons]
      refine ⟨hbelow, fun entry hentry hlt => ?_⟩
      exact hbelow (Std.TransCmp.lt_trans (hfirst entry hentry) hlt)

/-- The entries that a scan finds are all those whose keys begin as asked. -/
theorem entriesUnder_eq_filter (map : SortedMap Bytes ν) (start : Bytes) :
    map.entriesUnder start = map.entries.filter fun entry => start.isPrefixOf entry.1 :=
  takeWhile_dropWhile_eq_filter map.sorted

end SortedMap

end AccessControl
