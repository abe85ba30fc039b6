import AccessControl.Store.Basic
import AccessControl.Store.SortedMap

/-!
# The store in memory

A sorted map from keys to values. It never fails.
-/

namespace AccessControl

namespace SortedMap

/-- The entries whose keys begin with `start`. They stand next to each other: keys before the first
of them are less than `start`, and from there on the first key that does not begin with it ends
them. -/
def entriesUnder {ν : Type} (map : SortedMap Bytes ν) (start : Bytes) : List (Bytes × ν) :=
  (map.entries.dropWhile fun entry => compare entry.1 start == .lt).takeWhile fun entry =>
    start.isPrefixOf entry.1

end SortedMap

/-- A store that is kept in memory. -/
structure MemoryStore where
  entries : SortedMap Bytes Bytes

namespace MemoryStore

/-- The store without entries. -/
def empty : MemoryStore := ⟨.empty⟩

/-- The number of entries. -/
def size (store : MemoryStore) : Nat :=
  store.entries.size

instance : Store MemoryStore where
  get? store key := .ok (store.entries.get? key)
  set store key value := .ok ⟨store.entries.insert key value⟩
  delete store key := .ok ⟨store.entries.erase key⟩
  scan store start := .ok (store.entries.entriesUnder start)

end MemoryStore

end AccessControl
