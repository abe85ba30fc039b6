import AccessControl.Proofs.Store.Reference

/-!
# Overlays are transparent

Working on an overlay looks like working on the store below: the answers are the same, committing
the overlay leaves exactly the store that working on it directly leaves, and without the commit the
store is what it was. This is so for what any program does, and programs open overlays themselves,
which they keep or drop: a `Script` is such a program, and `Layers` is the type of an overlay of an
overlay and so on of a store in memory.

That the answers are right needs the contents of a store only, and goes by the laws of `LawfulStore`
(`StoreOperation.exists_run`). That the stores are **equal** needs more, because a commit makes the
writes in the order of their keys, each key once, and a program makes them in its own order: in a
`ReplayableStore` the last write to a key is the only one that counts, and writes to different keys
can be exchanged. The store in memory is one, and so is an overlay of any store, as its held-back
writes are an ordered map. `Overlay.committed_written` moves one more write past a commit, and
`Script.exists_mirrored` does this for all that a program does.
-/

namespace AccessControl

open LawfulStore

/-! ### Stores that can be replayed -/

/-- A lawful store in which only the last write to each key counts. -/
class ReplayableStore (σ : Type) [Store σ] extends LawfulStore σ where
  /-- The store after a write. -/
  written : σ → Bytes → Option Bytes → σ
  run_makeWrite : ∀ (store : σ) key value,
    (Overlay.makeWrite key value).run store = (.ok (), written store key value)
  written_written_self : ∀ (store : σ) key value other,
    written (written store key value) key other = written store key other
  written_comm : ∀ (store : σ) {key other : Bytes} value found, key ≠ other →
    written (written store key value) other found = written (written store other found) key value

open ReplayableStore

namespace SortedMap

variable {κ ν : Type} [Ord κ] [Std.LawfulEqOrd κ] [Std.TransOrd κ] {key other : κ}

/-- The last value of a key is the only one that counts. -/
theorem insert_insert_self (map : SortedMap κ ν) (value found : ν) :
    (map.insert key value).insert key found = map.insert key found := by
  refine ext_get? fun asked => ?_
  by_cases hasked : asked = key
  · rw [hasked, get?_insert_self, get?_insert_self]
  · rw [get?_insert_of_ne hasked, get?_insert_of_ne hasked, get?_insert_of_ne hasked]

/-- Values of different keys can be set in any order. -/
theorem insert_comm (map : SortedMap κ ν) (value found : ν) (h : key ≠ other) :
    (map.insert key value).insert other found = (map.insert other found).insert key value := by
  refine ext_get? fun asked => ?_
  by_cases hkey : asked = key
  · subst hkey
    rw [get?_insert_of_ne h, get?_insert_self, get?_insert_self]
  · by_cases hother : asked = other
    · subst hother
      rw [get?_insert_self, get?_insert_of_ne hkey, get?_insert_self]
    · rw [get?_insert_of_ne hother, get?_insert_of_ne hkey, get?_insert_of_ne hkey,
        get?_insert_of_ne hother]

end SortedMap

instance : ReplayableStore MemoryStore where
  written store key value := ⟨Overlay.afterWrite store.entries key value⟩
  run_makeWrite _ _ value := by cases value <;> rfl
  written_written_self store key value other := by
    refine congrArg MemoryStore.mk (SortedMap.ext_get? fun asked => ?_)
    by_cases hasked : asked = key
    · rw [hasked, Overlay.get?_afterWrite_self, Overlay.get?_afterWrite_self]
    · rw [Overlay.get?_afterWrite_of_ne hasked, Overlay.get?_afterWrite_of_ne hasked,
        Overlay.get?_afterWrite_of_ne hasked]
  written_comm store {key other} value found h := by
    refine congrArg MemoryStore.mk (SortedMap.ext_get? fun asked => ?_)
    by_cases hkey : asked = key
    · subst hkey
      rw [Overlay.get?_afterWrite_of_ne h, Overlay.get?_afterWrite_self,
        Overlay.get?_afterWrite_self]
    · by_cases hother : asked = other
      · subst hother
        rw [Overlay.get?_afterWrite_self, Overlay.get?_afterWrite_of_ne hkey,
          Overlay.get?_afterWrite_self]
      · rw [Overlay.get?_afterWrite_of_ne hother, Overlay.get?_afterWrite_of_ne hkey,
          Overlay.get?_afterWrite_of_ne hkey, Overlay.get?_afterWrite_of_ne hother]

instance {σ : Type} [Store σ] [ReplayableStore σ] : ReplayableStore (Overlay σ) where
  written overlay key value := { overlay with pending := overlay.pending.insert key value }
  run_makeWrite _ _ value := by cases value <;> rfl
  written_written_self overlay _ value other := by
    rw [overlay.pending.insert_insert_self value other]
  written_comm overlay _ _ value found h := by
    rw [overlay.pending.insert_comm value found h]

namespace Overlay

variable {σ : Type} [Store σ] [ReplayableStore σ]

/-- The store after writes have been made one after the other. -/
def replayed (store : σ) (writes : List (Bytes × Option Bytes)) : σ :=
  writes.foldl (fun store write => written store write.1 write.2) store

theorem run_makeWrites (store : σ) (writes : List (Bytes × Option Bytes)) :
    (makeWrites writes).run store = (.ok (), replayed store writes) := by
  induction writes generalizing store with
  | nil => rfl
  | cons first rest ih =>
    rw [makeWrites, Action.run_bind, run_makeWrite]
    exact ih _

/-- A write can be made after all writes to other keys. -/
theorem replayed_written {store : σ} {key : Bytes} {value : Option Bytes}
    {writes : List (Bytes × Option Bytes)} (h : ∀ write ∈ writes, write.1 ≠ key) :
    replayed (written store key value) writes = written (replayed store writes) key value := by
  induction writes generalizing store with
  | nil => rfl
  | cons first rest ih =>
    rw [List.forall_mem_cons] at h
    have hswap : written (written store key value) first.1 first.2 =
        written (written store first.1 first.2) key value :=
      written_comm store _ _ h.1.symm
    rw [replayed, List.foldl_cons, hswap]
    exact ih h.2

/-- Putting a write among others, in the order of the keys, is making it last. -/
theorem replayed_insertEntry {store : σ} {key : Bytes} {value : Option Bytes}
    {writes : List (Bytes × Option Bytes)}
    (h : writes.Pairwise fun x y => compare x.1 y.1 = .lt) :
    replayed store (SortedMap.insertEntry key value writes) =
      written (replayed store writes) key value := by
  induction writes generalizing store with
  | nil => rfl
  | cons first rest ih =>
    obtain ⟨hfirst, hrest⟩ := List.pairwise_cons.mp h
    have later : ∀ {bound : Bytes}, (∀ write ∈ rest, compare bound write.1 = .lt) →
        ∀ write ∈ rest, write.1 ≠ bound := by
      rintro bound hbound write hwrite rfl
      have hlt := hbound write hwrite
      rw [Std.ReflOrd.compare_self] at hlt
      cases hlt
    rw [SortedMap.insertEntry]
    cases hcompare : compare key first.1 with
    | lt =>
      -- The key is below all that is written, so it is none of them.
      have hbelow : ∀ write ∈ first :: rest, write.1 ≠ key := by
        rw [List.forall_mem_cons]
        refine ⟨?_, later fun write hwrite => Std.TransCmp.lt_trans hcompare (hfirst write hwrite)⟩
        rintro rfl
        rw [Std.ReflOrd.compare_self] at hcompare
        cases hcompare
      exact replayed_written hbelow
    | eq =>
      obtain rfl := Std.LawfulEqOrd.eq_of_compare hcompare
      show replayed (written store first.1 value) rest =
        written (replayed (written store first.1 first.2) rest) first.1 value
      rw [replayed_written (later hfirst), replayed_written (later hfirst), written_written_self]
    | gt => exact ih hrest

/-- The store below after the commit of an overlay. -/
def committed (overlay : Overlay σ) : σ :=
  replayed overlay.backend overlay.pending.entries

theorem commit_eq (overlay : Overlay σ) : overlay.commit = (.ok (), overlay.committed) :=
  run_makeWrites overlay.backend overlay.pending.entries

theorem committed_ofStore (store : σ) : (ofStore store).committed = store :=
  rfl

/-- **A write to an overlay is, after the commit, a write to the store below.** -/
theorem committed_written (overlay : Overlay σ) (key : Bytes) (value : Option Bytes) :
    (written overlay key value).committed = written overlay.committed key value :=
  replayed_insertEntry overlay.pending.sorted

theorem contents_committed (overlay : Overlay σ) :
    contents overlay.committed = contents overlay := by
  obtain ⟨final, hcommit, hfinal⟩ := exists_commit overlay
  rw [commit_eq] at hcommit
  cases hcommit
  exact hfinal

theorem view_committed (overlay : Overlay σ) : view overlay.committed = view overlay := by
  rw [view, contents_committed]
  rfl

end Overlay

/-! ### Calls -/

namespace StoreOperation

variable {σ : Type} [Store σ] [ReplayableStore σ]

/-- The store after a call. -/
def changed (store : σ) : StoreOperation → σ
  | get _ => store
  | set key value => written store key (some value)
  | delete key => written store key none
  | scan _ => store

/-- What a call gives back and what it leaves. -/
theorem run_eq (store : σ) (operation : StoreOperation) :
    operation.run.run store = (.ok (operation.answer (view store)), operation.changed store) := by
  obtain ⟨final, hrun, -⟩ := operation.exists_run store
  have hfinal : (operation.run.run store).2 = operation.changed store := by
    cases operation with
    | get key =>
      rw [run, Action.run_bind, Action.run_read, get?_eq]
      rfl
    | set key value =>
      have hwrite := run_makeWrite store key (some value)
      rw [Overlay.makeWrite] at hwrite
      rw [run, Action.run_bind, hwrite]
      rfl
    | delete key =>
      have hremove := run_makeWrite store key none
      rw [Overlay.makeWrite] at hremove
      rw [run, Action.run_bind, hremove]
      rfl
    | scan start =>
      rw [run, Action.run_bind, Action.run_read, scan_eq]
      rfl
  rw [hrun] at hfinal ⊢
  rw [← hfinal]

theorem view_changed (store : σ) (operation : StoreOperation) :
    view (operation.changed store) = operation.after (view store) := by
  obtain ⟨final, hrun, hfinal⟩ := operation.exists_run store
  rw [run_eq] at hrun
  cases hrun
  exact hfinal

/-- A call to an overlay is, after the commit, the call to the store below. -/
theorem committed_changed (overlay : Overlay σ) (operation : StoreOperation) :
    (operation.changed overlay).committed = operation.changed overlay.committed := by
  cases operation with
  | get key => rfl
  | set key value => exact overlay.committed_written key (some value)
  | delete key => exact overlay.committed_written key none
  | scan start => rfl

/-- No call to an overlay touches the store below. -/
theorem backend_changed (overlay : Overlay σ) (operation : StoreOperation) :
    (operation.changed overlay).backend = overlay.backend := by
  cases operation <;> rfl

end StoreOperation

/-! ### Programs -/

/-- A program on a store. -/
inductive Script where
  | done
  /-- A call, and what comes after it. -/
  | call (operation : StoreOperation) (rest : Script)
  /-- A program on a new overlay, which is then committed if it is to be kept and dropped
  otherwise, and what comes after it. -/
  | session (body : Script) (keeps : Bool) (rest : Script)

/-- An action on a new overlay, which is then committed if it is to be kept and dropped
otherwise. -/
def Overlay.session {σ α : Type} [Store σ] (action : Action (Overlay σ) StoreError α)
    (keeps : Bool) : Action σ StoreError α :=
  .ofStep fun store =>
    let (result, overlay) := action.run (ofStore store)
    match result, keeps with
    | .ok value, true =>
      let (committed, store) := overlay.commit
      (committed.map fun _ => value, store)
    | result, _ => (result, overlay.backend)

namespace Script

/-- Runs a program and lists what its calls give back, those in overlays included. -/
def run : Script → {σ : Type} → [Store σ] → Action σ StoreError (List StoreAnswer)
  | done, _, _ => pure []
  | call operation rest, _, _ => do
    let answer ← operation.run
    let answers ← rest.run
    return answer :: answers
  | session body keeps rest, _, _ => do
    let inner ← Overlay.session body.run keeps
    let outer ← rest.run
    return inner ++ outer

/-- What a program is answered by a map, and the map that it leaves. There are no overlays: the
program writes to the map, and goes back to the map as it was where it drops an overlay. -/
def onReference : Script → Reference → List StoreAnswer × Reference
  | done, map => ([], map)
  | call operation rest, map =>
    let (answers, final) := rest.onReference (operation.after map)
    (operation.answer map :: answers, final)
  | session body keeps rest, map =>
    let (inner, changed) := body.onReference map
    let (outer, final) := rest.onReference (if keeps then changed else map)
    (inner ++ outer, final)

variable {σ : Type} [Store σ]

/-! ### Steps of a program -/

theorem run_call {store middle final : σ} {operation : StoreOperation} {rest : Script}
    {answer : StoreAnswer} {answers : List StoreAnswer}
    (hcall : operation.run.run store = (.ok answer, middle))
    (hrest : rest.run.run middle = (.ok answers, final)) :
    (call operation rest).run.run store = (.ok (answer :: answers), final) := by
  rw [run, Action.run_bind, hcall]
  show (rest.run >>= fun answers => pure (answer :: answers)).run middle = _
  rw [Action.run_bind, hrest]
  rfl

theorem run_session {store middle final : σ} {body rest : Script} {keeps : Bool}
    {inner outer : List StoreAnswer}
    (hbody : (Overlay.session body.run keeps).run store = (.ok inner, middle))
    (hrest : rest.run.run middle = (.ok outer, final)) :
    (session body keeps rest).run.run store = (.ok (inner ++ outer), final) := by
  rw [run, Action.run_bind, hbody]
  show (rest.run >>= fun outer => pure (inner ++ outer)).run middle = _
  rw [Action.run_bind, hrest]
  rfl

/-! ### Transparency -/

/-- A program on an overlay does what it does on the store below after the commit: it is answered
alike, as the map is, and leaves alike stores. The store below the overlay is not touched. -/
structure Mirrored {σ : Type} [Store σ] [ReplayableStore σ] (script : Script)
    (overlay final : Overlay σ) : Prop where
  above : script.run.run overlay = (.ok (script.onReference (view overlay)).1, final)
  below : script.run.run overlay.committed =
    (.ok (script.onReference (view overlay)).1, final.committed)
  view_final : view final = (script.onReference (view overlay)).2
  backend_final : final.backend = overlay.backend

namespace Mirrored

variable [ReplayableStore σ] {script : Script} {store final : σ} {overlay : Overlay σ}

/-- The commit of a new overlay leaves what the program leaves without the overlay. -/
theorem committed_eq {result : Except StoreError (List StoreAnswer)}
    (h : script.Mirrored (Overlay.ofStore store) overlay)
    (hrun : script.run.run store = (result, final)) : overlay.committed = final := by
  have hbelow := h.below
  rw [Overlay.committed_ofStore, hrun] at hbelow
  exact (congrArg Prod.snd hbelow).symm

/-- What a session does in which the program is run. -/
theorem run_session (h : script.Mirrored (Overlay.ofStore store) overlay) (keeps : Bool) :
    (Overlay.session script.run keeps).run store =
      (.ok (script.onReference (view store)).1, if keeps then overlay.committed else store) := by
  have habove : script.run.run (Overlay.ofStore store) =
      (.ok (script.onReference (view store)).1, overlay) := h.above
  have hbackend : overlay.backend = store := h.backend_final
  cases keeps with
  | false =>
    simp only [Overlay.session, Action.run_ofStep, habove, hbackend]
    rfl
  | true =>
    simp only [Overlay.session, Action.run_ofStep, habove, Overlay.commit_eq]
    rfl

end Mirrored

/-- **A program on an overlay does what it does on the store below after the commit.** The induction
is on the program, for all stores at once, since the body of a session runs one overlay higher. -/
theorem exists_mirrored (script : Script) {σ : Type} [Store σ] [ReplayableStore σ]
    (overlay : Overlay σ) : ∃ final, script.Mirrored overlay final := by
  induction script generalizing σ with
  | done => exact ⟨overlay, rfl, rfl, rfl, rfl⟩
  | call operation rest ih =>
    obtain ⟨final, hrest⟩ := ih (operation.changed overlay)
    have hview := operation.view_changed overlay
    have habove := hrest.above
    have hbelow := hrest.below
    rw [hview] at habove hbelow
    rw [operation.committed_changed] at hbelow
    have hcall := operation.run_eq overlay.committed
    rw [overlay.view_committed] at hcall
    exact ⟨final, run_call (operation.run_eq overlay) habove, run_call hcall hbelow,
      hrest.view_final.trans (by rw [hview]; rfl),
      hrest.backend_final.trans (operation.backend_changed overlay)⟩
  | session body keeps rest hbody hrest =>
    -- The body runs on an overlay of the overlay, and on an overlay of the committed store.
    obtain ⟨inner, hinner⟩ := hbody (Overlay.ofStore overlay)
    obtain ⟨other, hother⟩ := hbody (Overlay.ofStore overlay.committed)
    have habove := hinner.run_session keeps
    have hbelow := hother.run_session keeps
    rw [overlay.view_committed] at hbelow
    cases keeps with
    | false =>
      obtain ⟨final, hfinal⟩ := hrest overlay
      exact ⟨final, run_session habove hfinal.above, run_session hbelow hfinal.below,
        hfinal.view_final, hfinal.backend_final⟩
    | true =>
      -- Kept, the body leaves what it leaves when it is run without the inner overlay.
      obtain ⟨middle, hmiddle⟩ := hbody overlay
      obtain ⟨final, hfinal⟩ := hrest middle
      have hfinalAbove := hfinal.above
      have hfinalBelow := hfinal.below
      rw [if_pos rfl, hinner.committed_eq hmiddle.above] at habove
      rw [if_pos rfl, hother.committed_eq hmiddle.below] at hbelow
      rw [hmiddle.view_final] at hfinalAbove hfinalBelow
      exact ⟨final, run_session habove hfinalAbove, run_session hbelow hfinalBelow,
        hfinal.view_final.trans (by rw [hmiddle.view_final]; rfl),
        hfinal.backend_final.trans hmiddle.backend_final⟩

end Script

/-! ### Overlays of any depth -/

/-- An overlay of an overlay and so on of a store in memory, `depth` of them. -/
def Layers : (depth : Nat) → Type
  | 0 => MemoryStore
  | depth + 1 => Overlay (Layers depth)

namespace Layers

instance instStore : (depth : Nat) → Store (Layers depth)
  | 0 => inferInstanceAs (Store MemoryStore)
  | depth + 1 =>
    have := instStore depth
    inferInstanceAs (Store (Overlay (Layers depth)))

instance instReplayableStore : (depth : Nat) → ReplayableStore (Layers depth)
  | 0 => inferInstanceAs (ReplayableStore MemoryStore)
  | depth + 1 =>
    have := instReplayableStore depth
    inferInstanceAs (ReplayableStore (Overlay (Layers depth)))

end Layers

/-- **Overlays are transparent.** Take a store in memory, or overlays of one to any depth, whatever
they hold. A program that is run on it is answered as the map that the store stands for answers, and
leaves what the map is then. Run on a new overlay, the program is answered the same; committing the
overlay leaves exactly the store that the program leaves when it is run without it; and below the
overlay the store is what it was. -/
theorem overlay_transparent (depth : Nat) (store : Layers depth) (script : Script) :
    ∃ (direct : Layers depth) (overlay : Overlay (Layers depth)),
      script.run.run store = (.ok (script.onReference (view store)).1, direct) ∧
      view direct = (script.onReference (view store)).2 ∧
      script.run.run (Overlay.ofStore store) = (.ok (script.onReference (view store)).1, overlay) ∧
      overlay.commit = (.ok (), direct) ∧
      overlay.backend = store := by
  obtain ⟨overlay, h⟩ := script.exists_mirrored (Overlay.ofStore store)
  refine ⟨overlay.committed, overlay, ?_, ?_, h.above, overlay.commit_eq, h.backend_final⟩
  · rw [← Overlay.committed_ofStore store]
    exact h.below
  · rw [overlay.view_committed]
    exact h.view_final

end AccessControl
