import AccessControl.Proofs.Store.Lawful
import Mathlib.Data.Finmap
import Mathlib.Data.Finset.Sort

/-!
# The map that a store stands for

A `Reference` is a finite map from byte strings to byte strings, without any order of its entries.
Its scan is said by what it lists and not by how: the keys that begin as asked, sorted in the
lexicographic order of byte strings, each with its value (`mem_scan_iff`, `ascending_scan`); a list
that is as described can only be the scan (`eq_scan`).

The calls to a store are `StoreOperation`s, which have an effect and an answer on a `Reference`.
What a lawful store answers, and what its contents are then, is what they are there:
`StoreOperation.exists_run`. The only part with an argument is the scan, since the store compares
keys in its own way; `Bytes.compare_eq_lt_iff` says that this is the lexicographic order.
-/

namespace AccessControl

/-- The order that the stores compare keys by is the lexicographic one. -/
theorem Bytes.compare_eq_lt_iff {first second : Bytes} :
    compare first second = .lt ↔ first < second := by
  induction first generalizing second with
  | nil =>
    cases second with
    | nil => simp
    | cons other second => simp [List.compare_nil_cons]
  | cons head first ih =>
    cases second with
    | nil => simp [List.compare_cons_nil]
    | cons other second =>
      rw [List.compare_cons_cons, List.cons_lt_cons_iff, Ordering.then_eq_lt, ih]
      have heads : compare head other = .lt ↔ head < other := Std.compare_eq_lt
      rw [heads, Std.LawfulEqOrd.compare_eq_iff_eq]

/-- A finite map from byte strings to byte strings. -/
abbrev Reference := Finmap fun _ : Bytes => Bytes

namespace Reference

/-- The entries whose keys begin with `start`, in the lexicographic order of their keys. -/
def scan (map : Reference) (start : Bytes) : List (Bytes × Bytes) :=
  ((map.keys.filter (start <+: ·)).sort (· ≤ ·)).filterMap fun key =>
    (map.lookup key).map (key, ·)

variable {map : Reference} {start : Bytes}

/-- A scan lists the entries whose keys begin as asked, and no others. -/
theorem mem_scan_iff {entry : Bytes × Bytes} :
    entry ∈ map.scan start ↔ start <+: entry.1 ∧ map.lookup entry.1 = some entry.2 := by
  obtain ⟨key, value⟩ := entry
  simp only [scan, List.mem_filterMap, Finset.mem_sort, Finset.mem_filter, Finmap.mem_keys,
    Option.map_eq_some_iff, Prod.mk.injEq]
  constructor
  · rintro ⟨_, ⟨-, hstart⟩, _, hlookup, rfl, rfl⟩
    exact ⟨hstart, hlookup⟩
  · rintro ⟨hstart, hlookup⟩
    exact ⟨key, ⟨Finmap.mem_of_lookup_eq_some hlookup, hstart⟩, value, hlookup, rfl, rfl⟩

/-- The keys of a scan ascend, so that none is listed twice. -/
theorem ascending_scan : (map.scan start).Pairwise fun x y => x.1 < y.1 := by
  rw [scan, List.pairwise_filterMap]
  have sorted := (map.keys.filter (start <+: ·)).pairwise_sort (· ≤ ·)
  have distinct := (map.keys.filter (start <+: ·)).sort_nodup (· ≤ ·)
  refine (sorted.and distinct).imp fun {first second} h entry hentry other hother => ?_
  obtain ⟨_, -, rfl⟩ := Option.map_eq_some_iff.mp hentry
  obtain ⟨_, -, rfl⟩ := Option.map_eq_some_iff.mp hother
  exact Std.lt_of_le_of_ne h.1 h.2

/-- What a scan lists and the order of its keys leave no choice. -/
theorem eq_scan {entries : List (Bytes × Bytes)}
    (hascending : entries.Pairwise fun x y => x.1 < y.1)
    (hmem : ∀ key value, (key, value) ∈ entries ↔ start <+: key ∧ map.lookup key = some value) :
    entries = map.scan start := by
  have asEntries : ∀ {list : List (Bytes × Bytes)}, (list.Pairwise fun x y => x.1 < y.1) →
      list.Pairwise fun x y => compare x.1 y.1 = .lt :=
    fun h => h.imp Bytes.compare_eq_lt_iff.mpr
  refine SortedMap.eq_of_lookup_eq (asEntries hascending) (asEntries ascending_scan) fun key => ?_
  refine Option.ext fun value => ?_
  rw [SortedMap.lookup_eq_some_iff (asEntries hascending),
    SortedMap.lookup_eq_some_iff (asEntries ascending_scan), hmem, mem_scan_iff]

end Reference

/-! ### Ordered maps -/

namespace SortedMap

/-- The map without the order of its entries. -/
def toReference (map : SortedMap Bytes Bytes) : Reference :=
  (map.entries.map fun entry => (⟨entry.1, entry.2⟩ : Σ _ : Bytes, Bytes)).toFinmap

variable (map : SortedMap Bytes Bytes) (key value start : Bytes)

@[simp] theorem lookup_toReference : map.toReference.lookup key = map.get? key := by
  rw [toReference, Finmap.dlookup_list_toFinmap, get?]
  induction map.entries with
  | nil => rfl
  | cons first rest ih =>
    rw [List.map_cons, lookup_cons]
    by_cases hkey : key = first.1
    · subst hkey
      rw [if_pos Std.ReflOrd.compare_self]
      exact List.dlookup_cons_eq _ _ _
    · rw [if_neg (mt Std.LawfulEqOrd.eq_of_compare hkey), ← ih]
      exact List.dlookup_cons_ne _ (⟨first.1, first.2⟩ : Σ _ : Bytes, Bytes) hkey

@[simp] theorem toReference_insert :
    (map.insert key value).toReference = map.toReference.insert key value := by
  refine Finmap.ext_lookup fun other => ?_
  rw [lookup_toReference]
  by_cases hkey : other = key
  · rw [hkey, get?_insert_self, Finmap.lookup_insert]
  · rw [get?_insert_of_ne hkey, Finmap.lookup_insert_of_ne _ hkey, lookup_toReference]

@[simp] theorem toReference_erase : (map.erase key).toReference = map.toReference.erase key := by
  refine Finmap.ext_lookup fun other => ?_
  rw [lookup_toReference, get?_erase]
  by_cases hkey : other = key
  · rw [hkey, if_pos Std.ReflOrd.compare_self, Finmap.lookup_erase]
  · rw [if_neg (mt Std.LawfulEqOrd.eq_of_compare hkey), Finmap.lookup_erase_ne hkey,
      lookup_toReference]

/-- Skipping what lies before the asked keys and stopping behind them is a scan of the map. -/
@[simp] theorem scan_toReference : map.toReference.scan start = map.entriesUnder start := by
  have sorted := Overlay.sorted_entriesUnder map start
  refine (Reference.eq_scan (sorted.imp Bytes.compare_eq_lt_iff.mp) fun key value => ?_).symm
  rw [map.entriesUnder_eq_filter, List.mem_filter, mem_entries_iff, lookup_toReference,
    List.isPrefixOf_iff_prefix, and_comm]

end SortedMap

/-! ### Calls to a store -/

/-- A call to a store. -/
inductive StoreOperation where
  | get (key : Bytes)
  | set (key value : Bytes)
  | delete (key : Bytes)
  | scan (start : Bytes)

/-- What a call gives back. -/
inductive StoreAnswer where
  /-- Writes give back nothing. -/
  | done
  | value (found : Option Bytes)
  | entries (found : List (Bytes × Bytes))

namespace StoreOperation

/-- What a call gives back for a map. -/
def answer (map : Reference) : StoreOperation → StoreAnswer
  | get key => .value (map.lookup key)
  | set _ _ => .done
  | delete _ => .done
  | scan start => .entries (map.scan start)

/-- The map after a call. -/
def after (map : Reference) : StoreOperation → Reference
  | get _ => map
  | set key value => map.insert key value
  | delete key => map.erase key
  | scan _ => map

variable {σ : Type} [Store σ]

/-- Makes a call. -/
def run : StoreOperation → Action σ StoreError StoreAnswer
  | get key => do
    let found ← Action.read (Store.get? · key)
    return .value found
  | set key value => do
    Store.write key value
    return .done
  | delete key => do
    Store.remove key
    return .done
  | scan start => do
    let found ← Action.read (Store.scan · start)
    return .entries found

end StoreOperation

/-- The map that a store stands for. -/
def LawfulStore.view {σ : Type} [Store σ] [LawfulStore σ] (store : σ) : Reference :=
  (contents store).toReference

open LawfulStore

/-- **A lawful store implements the reference**: no call fails, and each one answers what the map
answers and leaves what the map is then. -/
theorem StoreOperation.exists_run {σ : Type} [Store σ] [LawfulStore σ] (store : σ)
    (operation : StoreOperation) :
    ∃ final, operation.run.run store = (.ok (operation.answer (view store)), final) ∧
      view final = operation.after (view store) := by
  cases operation with
  | get key =>
    refine ⟨store, ?_, rfl⟩
    have hread : (Action.read (Store.get? · key)).run store =
        (.ok ((view store).lookup key), store) := by
      rw [Action.run_read, get?_eq, view, SortedMap.lookup_toReference]
    rw [run, Action.run_bind, hread]
    rfl
  | set key value =>
    obtain ⟨final, hwrite, hfinal⟩ := exists_run_write store key value
    refine ⟨final, ?_, ?_⟩
    · rw [run, Action.run_bind, hwrite]
      rfl
    · rw [view, hfinal, SortedMap.toReference_insert]
      rfl
  | delete key =>
    obtain ⟨final, hremove, hfinal⟩ := exists_run_remove store key
    refine ⟨final, ?_, ?_⟩
    · rw [run, Action.run_bind, hremove]
      rfl
    · rw [view, hfinal, SortedMap.toReference_erase]
      rfl
  | scan start =>
    refine ⟨store, ?_, rfl⟩
    have hread : (Action.read (Store.scan · start)).run store =
        (.ok ((view store).scan start), store) := by
      rw [Action.run_read, scan_eq, view, SortedMap.scan_toReference]
    rw [run, Action.run_bind, hread]
    rfl

end AccessControl
