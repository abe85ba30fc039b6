import AccessControl.Store.Memory

/-!
# Overlays

An overlay holds back what is written to a store. Reads see the held-back writes in front of what is
below; `Overlay.commit` makes them in the store below, in the order of their keys, and
`Overlay.backend` is that store without them. Overlays nest, since an overlay is a store itself.
-/

namespace AccessControl

/-- A store together with writes that have not been made in it. -/
structure Overlay (σ : Type) where
  /-- The store below. -/
  backend : σ
  /-- The writes: a value that is to be set, or `none` for one that is to be removed. -/
  pending : SortedMap Bytes (Option Bytes)

namespace Overlay

variable {σ : Type}

/-- The overlay that holds back nothing. -/
def ofStore (backend : σ) : Overlay σ := ⟨backend, .empty⟩

/-- How many keys are written. -/
def pendingWrites (overlay : Overlay σ) : Nat :=
  overlay.pending.size

/-- The entries after a write. -/
def afterWrite (entries : SortedMap Bytes Bytes) (key : Bytes) :
    Option Bytes → SortedMap Bytes Bytes
  | some value => entries.insert key value
  | none => entries.erase key

instance [Store σ] : Store (Overlay σ) where
  get? overlay key :=
    match overlay.pending.get? key with
    | some value => .ok value
    | none => Store.get? overlay.backend key
  set overlay key value := .ok { overlay with pending := overlay.pending.insert key (some value) }
  delete overlay key := .ok { overlay with pending := overlay.pending.insert key none }
  scan overlay start := do
    -- Held-back writes replace, remove or add to what lies below.
    let below ← Store.scan overlay.backend start
    let merged := (overlay.pending.entriesUnder start).foldl
      (fun entries write => afterWrite entries write.1 write.2) (SortedMap.ofList below)
    return merged.entries

/-- Makes a write. -/
def makeWrite [Store σ] (key : Bytes) : Option Bytes → Action σ StoreError Unit
  | some value => Store.write key value
  | none => Store.remove key

/-- Makes writes one after the other, up to the first that fails. -/
def makeWrites [Store σ] : List (Bytes × Option Bytes) → Action σ StoreError Unit
  | [] => pure ()
  | (key, value) :: rest => do
    makeWrite key value
    makeWrites rest

/-- Makes the held-back writes in the store below. If one of them fails, those before it have been
made. -/
def commit [Store σ] (overlay : Overlay σ) : Except StoreError Unit × σ :=
  (makeWrites overlay.pending.entries).run overlay.backend

end Overlay

end AccessControl
