import AccessControl.Proofs.Action
import AccessControl.Proofs.Store.Scan
import AccessControl.Store.Overlay

/-!
# Stores that are maps

A `LawfulStore` has contents, an ordered map of which its calls are the operations. The store in
memory is one, and an overlay of a lawful store is one again: its contents are those below after the
held-back writes. Committing an overlay cannot fail then and leaves its contents in the store below
(`Overlay.exists_commit`).

What is proved of actions on lawful stores is therefore proved of overlays of any depth.
-/

namespace AccessControl

/-- A store whose calls do not fail and are the operations of an ordered map. -/
class LawfulStore (σ : Type) [Store σ] where
  /-- What a store holds. -/
  contents : σ → SortedMap Bytes Bytes
  get?_eq : ∀ (store : σ) key, Store.get? store key = .ok ((contents store).get? key)
  exists_set_eq : ∀ (store : σ) key value, ∃ final, Store.set store key value = .ok final ∧
    contents final = (contents store).insert key value
  exists_delete_eq : ∀ (store : σ) key, ∃ final, Store.delete store key = .ok final ∧
    contents final = (contents store).erase key
  scan_eq : ∀ (store : σ) start,
    Store.scan store start = .ok ((contents store).entriesUnder start)

instance : LawfulStore MemoryStore where
  contents := MemoryStore.entries
  get?_eq _ _ := rfl
  exists_set_eq _ _ _ := ⟨_, rfl, rfl⟩
  exists_delete_eq _ _ := ⟨_, rfl, rfl⟩
  scan_eq _ _ := rfl

namespace LawfulStore

variable {σ : Type} [Store σ] [LawfulStore σ]

/-! ### Single writes -/

theorem exists_run_write (store : σ) (key value : Bytes) :
    ∃ final, (Store.write key value).run store = (.ok (), final) ∧
      contents final = (contents store).insert key value := by
  obtain ⟨final, hset, hcontents⟩ := exists_set_eq store key value
  refine ⟨final, ?_, hcontents⟩
  rw [Store.write, Action.run_attempt_eq_ok_iff, hset]
  rfl

theorem exists_run_remove (store : σ) (key : Bytes) :
    ∃ final, (Store.remove key).run store = (.ok (), final) ∧
      contents final = (contents store).erase key := by
  obtain ⟨final, hdelete, hcontents⟩ := exists_delete_eq store key
  refine ⟨final, ?_, hcontents⟩
  rw [Store.remove, Action.run_attempt_eq_ok_iff, hdelete]
  rfl

theorem contents_of_run_write {store final : σ} {key value : Bytes} {result : Unit}
    (h : (Store.write key value).run store = (.ok result, final)) :
    contents final = (contents store).insert key value := by
  obtain ⟨final', hrun, hcontents⟩ := exists_run_write store key value
  rw [hrun] at h
  cases h
  exact hcontents

theorem contents_of_run_remove {store final : σ} {key : Bytes} {result : Unit}
    (h : (Store.remove key).run store = (.ok result, final)) :
    contents final = (contents store).erase key := by
  obtain ⟨final', hrun, hcontents⟩ := exists_run_remove store key
  rw [hrun] at h
  cases h
  exact hcontents

end LawfulStore

namespace Overlay

/-! ### Lists of writes -/

/-- The entries after writes have been made one after the other. -/
def afterWrites (entries : SortedMap Bytes Bytes) (writes : List (Bytes × Option Bytes)) :
    SortedMap Bytes Bytes :=
  writes.foldl (fun entries write => afterWrite entries write.1 write.2) entries

variable {entries : SortedMap Bytes Bytes} {writes : List (Bytes × Option Bytes)}
  {key other : Bytes} {value : Option Bytes}

theorem get?_afterWrite_self : (afterWrite entries key value).get? key = value := by
  cases value with
  | some value => exact SortedMap.get?_insert_self
  | none => rw [afterWrite, SortedMap.get?_erase, if_pos Std.ReflOrd.compare_self]

theorem get?_afterWrite_of_ne (h : key ≠ other) :
    (afterWrite entries other value).get? key = entries.get? key := by
  cases value with
  | some value => exact SortedMap.get?_insert_of_ne h
  | none => rw [afterWrite, SortedMap.get?_erase, if_neg (mt Std.LawfulEqOrd.eq_of_compare h)]

/-- Writes to different keys, in ascending order, show at the keys that they write and nowhere
else. -/
theorem get?_afterWrites (h : writes.Pairwise fun x y => compare x.1 y.1 = .lt) :
    (afterWrites entries writes).get? key =
      (SortedMap.lookup key writes).getD (entries.get? key) := by
  induction writes generalizing entries with
  | nil => rfl
  | cons first rest ih =>
    obtain ⟨hfirst, hrest⟩ := List.pairwise_cons.mp h
    rw [afterWrites, List.foldl_cons, ← afterWrites, ih hrest, SortedMap.lookup_cons]
    by_cases hkey : key = first.1
    · subst hkey
      rw [SortedMap.lookup_eq_none_of_lt hfirst, if_pos Std.ReflOrd.compare_self,
        get?_afterWrite_self]
      rfl
    · rw [if_neg (mt Std.LawfulEqOrd.eq_of_compare hkey), get?_afterWrite_of_ne hkey]

/-- What the writes of a map show. -/
theorem get?_afterWrites_entries (pending : SortedMap Bytes (Option Bytes)) :
    (afterWrites entries pending.entries).get? key =
      (pending.get? key).getD (entries.get? key) :=
  get?_afterWrites pending.sorted

/-- One more write is made last. -/
theorem afterWrites_insert (pending : SortedMap Bytes (Option Bytes)) :
    afterWrites entries (pending.insert key value).entries =
      afterWrite (afterWrites entries pending.entries) key value := by
  refine SortedMap.ext_get? fun other => ?_
  rw [get?_afterWrites_entries]
  by_cases h : other = key
  · rw [h, SortedMap.get?_insert_self, get?_afterWrite_self]
    rfl
  · rw [SortedMap.get?_insert_of_ne h, get?_afterWrite_of_ne h, get?_afterWrites_entries]

/-! ### Scanning the writes -/

/-- A scan in a list is a lookup of the keys that begin as asked. -/
theorem lookup_entriesUnder {ν : Type} (map : SortedMap Bytes ν) (start : Bytes) :
    SortedMap.lookup key (map.entriesUnder start) =
      if start.isPrefixOf key then map.get? key else none := by
  have hfilter : map.entriesUnder start = (map.filter fun key _ => start.isPrefixOf key).entries :=
    map.entriesUnder_eq_filter start
  rw [hfilter]
  show (map.filter fun key _ => start.isPrefixOf key).get? key = _
  refine Option.ext fun value => ?_
  rw [SortedMap.get?_filter_eq_some_iff]
  by_cases hbegins : start.isPrefixOf key = true
  · simp [hbegins]
  · simp [hbegins]

theorem sorted_entriesUnder {ν : Type} (map : SortedMap Bytes ν) (start : Bytes) :
    (map.entriesUnder start).Pairwise fun x y => compare x.1 y.1 = .lt := by
  rw [map.entriesUnder_eq_filter]
  exact map.sorted.filter _

/-- A map is made again from its entries. -/
theorem get?_ofList {entries : List (Bytes × Bytes)}
    (h : entries.Pairwise fun x y => compare x.1 y.1 = .lt) :
    (SortedMap.ofList entries).get? key = SortedMap.lookup key entries := by
  have hwrites : SortedMap.ofList entries =
      afterWrites .empty (entries.map fun entry => (entry.1, some entry.2)) := by
    rw [SortedMap.ofList, afterWrites, List.foldl_map]
    rfl
  rw [hwrites, get?_afterWrites (List.pairwise_map.mpr h)]
  clear hwrites h
  induction entries with
  | nil => rfl
  | cons first rest ih =>
    rw [List.map_cons, SortedMap.lookup_cons, SortedMap.lookup_cons]
    split
    · rfl
    · exact ih

/-- Scanning below and in the writes, and making the found writes, is scanning after all writes. -/
theorem entries_afterWrites_entriesUnder (pending : SortedMap Bytes (Option Bytes))
    (start : Bytes) :
    (afterWrites (.ofList (entries.entriesUnder start)) (pending.entriesUnder start)).entries =
      (afterWrites entries pending.entries).entriesUnder start := by
  refine SortedMap.eq_of_lookup_eq (SortedMap.sorted _) (sorted_entriesUnder _ _) fun key => ?_
  rw [lookup_entriesUnder]
  show (afterWrites _ _).get? key = _
  rw [get?_afterWrites (sorted_entriesUnder _ _), get?_ofList (sorted_entriesUnder _ _),
    get?_afterWrites pending.sorted, lookup_entriesUnder, lookup_entriesUnder]
  split <;> rfl

/-! ### Overlays of lawful stores -/

variable {σ : Type} [Store σ] [LawfulStore σ]

open LawfulStore

instance : LawfulStore (Overlay σ) where
  contents overlay := afterWrites (contents overlay.backend) overlay.pending.entries
  get?_eq overlay key := by
    rw [get?_afterWrites_entries]
    show (match overlay.pending.get? key with
      | some value => Except.ok value
      | none => Store.get? overlay.backend key) = _
    rw [get?_eq]
    split <;> simp_all
  exists_set_eq overlay key value := ⟨_, rfl, afterWrites_insert _⟩
  exists_delete_eq overlay key := ⟨_, rfl, afterWrites_insert _⟩
  scan_eq overlay start := by
    show (Store.scan overlay.backend start >>= fun below => _) = _
    rw [scan_eq]
    exact congrArg Except.ok (entries_afterWrites_entriesUnder overlay.pending start)

/-- An overlay that holds back nothing has the contents of the store. -/
theorem contents_ofStore (store : σ) : contents (Overlay.ofStore store) = contents store :=
  rfl

theorem exists_run_makeWrite (store : σ) (key : Bytes) (value : Option Bytes) :
    ∃ final, (makeWrite key value).run store = (.ok (), final) ∧
      contents final = afterWrite (contents store) key value := by
  cases value with
  | some value => exact exists_run_write store key value
  | none => exact exists_run_remove store key

theorem exists_run_makeWrites (writes : List (Bytes × Option Bytes)) (store : σ) :
    ∃ final, (makeWrites writes).run store = (.ok (), final) ∧
      contents final = afterWrites (contents store) writes := by
  induction writes generalizing store with
  | nil => exact ⟨store, rfl, rfl⟩
  | cons first rest ih =>
    obtain ⟨middle, hfirst, hmiddle⟩ := exists_run_makeWrite store first.1 first.2
    obtain ⟨final, hrest, hfinal⟩ := ih middle
    refine ⟨final, ?_, ?_⟩
    · rw [makeWrites, Action.run_bind_eq_ok_iff]
      exact ⟨_, _, hfirst, hrest⟩
    · rw [hfinal, hmiddle]
      rfl

/-- **Committing an overlay of a lawful store succeeds**, and the store below has the contents that
the overlay had. -/
theorem exists_commit (overlay : Overlay σ) :
    ∃ final, overlay.commit = (.ok (), final) ∧ contents final = contents overlay :=
  exists_run_makeWrites overlay.pending.entries overlay.backend

end Overlay

end AccessControl
