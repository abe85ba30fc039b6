import AccessControl.Proofs.Command.Due
import AccessControl.Proofs.Keeper.Grown
import AccessControl.Proofs.Keeper.Sweeps

/-!
# What the end of a block marks

`Keeper.Swept` says of two stores and a list of commitments that the list is what was to be marked
in the first store, and that the second store differs in these marks and in nothing else. The end of
a block, in every keeper that has grown from an empty store, never fails and leaves such a store,
and ends of blocks compose as the time between them suggests (`Keeper.Grown.endBlock_exact`).

A store that has grown keeps a book, so all of this is read off the book:
`Host.exists_run_sweepExpired` says which book a sweep leaves, and stores that keep the same book
hold the same.
-/

namespace AccessControl

open Repository

namespace Keeper

variable {σ ρ : Type} [Store σ] {now : Timestamp}

/-- What a sweep does: the store before, the store after, and the commitments it returns. -/
structure Swept (now : Timestamp) (before after : σ) (marked : List Commitment) : Prop where
  /-- Returned are, with their marks, the commitments without a mark whose window has passed. -/
  mem_iff : ∀ commitment, commitment ∈ marked ↔ ∃ found,
    commitment? commitment.id before = .ok (some found) ∧ found.expired = false ∧
      found.isExpiredAt now = true ∧ commitment = found.asExpired
  /-- They are in the order of their numbers. -/
  ascending : marked.Pairwise fun first second => first.id.toNat < second.id.toNat
  /-- Their marks have changed, and nothing else about any record has. -/
  commitment?_eq : ∀ id, ∃ found, commitment? id before = .ok found ∧
    commitment? id after = .ok (found.map fun commitment =>
      if commitment.asExpired ∈ marked then commitment.asExpired else commitment)
  amendment?_eq : ∀ id, ∃ found, amendment? id before = .ok found ∧ amendment? id after = .ok found
  /-- Apart from the records of these commitments and their entries in the index of expired ones,
  every entry is as it was. -/
  get?_eq : ∀ key, (∀ commitment ∈ marked, key ≠ commitmentKey commitment.id ∧
      ∀ expired, key ≠ expiredIndex expired ++ idOctets commitment.id) →
    Store.get? after key = Store.get? before key

omit [Store σ] in
/-- The keeper over another store. -/
def withStore (keeper : Keeper σ ρ) (store : σ) : Keeper σ ρ :=
  { keeper with host := { keeper.host with store } }

variable [LawfulStore σ] {keeper : Keeper σ ρ} {book : Book} {store store' : σ}

/-- A store that keeps the book after a sweep is swept. -/
theorem swept_of_kept (hkept : Kept book store) (hswept : Kept (book.sweep now) store') :
    Swept now store store' (book.due now) where
  mem_iff commitment := by
    simp only [hkept.sound.mem_due_iff, hkept.commitment?_eq, Except.ok.injEq,
      Commitment.isDueAt_iff, and_assoc]
  ascending := hkept.sound.pairwise_due now
  commitment?_eq id := by
    refine ⟨_, hkept.commitment?_eq id, ?_⟩
    rw [hswept.commitment?_eq, Book.commitment?_sweep]
    cases hfound : book.commitment? id with
    | none => rfl
    | some commitment =>
      rw [Option.map_some, Option.map_some, Commitment.sweptAt]
      congr 2
      exact if_congr (hkept.sound.asExpired_mem_due_iff hfound).symm rfl rfl
  amendment?_eq id := ⟨_, hkept.amendment?_eq id, hswept.amendment?_eq id⟩
  get?_eq octets hoctets := by
    rw [LawfulStore.get?_eq, LawfulStore.get?_eq]
    refine congrArg Except.ok (hswept.shows.get?_congr hkept.shows fun key hkey => ?_)
    subst hkey
    refine hkept.sound.value?_sweep fun commitment hmem => ?_
    obtain ⟨hrecord, hentry⟩ := hoctets commitment hmem
    exact ⟨fun heq => hrecord (heq ▸ rfl), fun expired heq => hentry expired (heq ▸ rfl)⟩

/-- **The end of a block never fails.** It returns what is due in the book and leaves the book
swept, and touches nothing but the store. -/
theorem exists_run_endBlock (hkept : Kept book keeper.host.store) (now : Timestamp) :
    ∃ store, (endBlock now).run keeper =
        (.ok (book.due now), keeper.withStore store) ∧
      Kept (book.sweep now) store := by
  let host : Host (Overlay σ) ρ := ⟨Overlay.ofStore keeper.host.store, keeper.host.engine⟩
  have hhost : Kept book host.store := hkept.ofStore
  obtain ⟨overlay, hrun, hswept⟩ := Host.exists_run_sweepExpired hhost now
  obtain ⟨store, hcommit, -⟩ := Overlay.exists_commit overlay
  exact ⟨store, run_endBlock_eq_ok_iff.mpr ⟨overlay, hrun, hcommit, rfl⟩,
    kept_of_commit hswept hcommit⟩

/-- **The end of a block in which nothing is due changes nothing.** -/
theorem run_endBlock_of_due_eq_nil (hkept : Kept book keeper.host.store)
    (hdue : book.due now = []) : (endBlock now).run keeper = (.ok [], keeper) := by
  let host : Host (Overlay σ) ρ := ⟨Overlay.ofStore keeper.host.store, keeper.host.engine⟩
  have hhost : Kept book host.store := hkept.ofStore
  have hrun := Host.run_sweepExpired_of_due_eq_nil hhost hdue
  exact run_endBlock_eq_ok_iff.mpr ⟨Overlay.ofStore keeper.host.store, hrun, rfl, rfl⟩

/-- **What ends of blocks mark.** In a keeper that has grown from an empty store, the end of a block
never fails. What it returns and what it leaves in the store is as in `Swept`, and the store is all
that it changes. Another one at the same time or before returns nothing and changes nothing at all.
Another one at the same time or later leaves what it would have left without the first one, and the
two together return what it would have returned then. -/
theorem Grown.endBlock_exact {keeper : Keeper σ MemoryEngine} (h : keeper.Grown)
    (now : Timestamp) :
    ∃ marked store,
      (endBlock now).run keeper = (.ok marked, keeper.withStore store) ∧
      Swept now keeper.host.store store marked ∧
      (∀ earlier ≤ now,
        (endBlock earlier).run (keeper.withStore store) = (.ok [], keeper.withStore store)) ∧
      ∀ later, now ≤ later → ∃ rest all final final',
        (endBlock later).run (keeper.withStore store) = (.ok rest, keeper.withStore final) ∧
        (endBlock later).run keeper = (.ok all, keeper.withStore final') ∧
        LawfulStore.contents final = LawfulStore.contents final' ∧
        (marked ++ rest).Perm all := by
  obtain ⟨book, hbook⟩ := h.exists_inOrder
  have hkept := hbook.keepsBook.kept
  obtain ⟨store, hrun, hswept⟩ := exists_run_endBlock hkept now
  have hkept' : Kept (book.sweep now) (keeper.withStore store).host.store := hswept
  refine ⟨book.due now, store, hrun, swept_of_kept hkept hswept, ?_, ?_⟩
  · intro earlier hle
    exact run_endBlock_of_due_eq_nil hkept' (Book.due_sweep_eq_nil hle)
  · intro later hle
    obtain ⟨final, hfinal, hkeptFinal⟩ := exists_run_endBlock hkept' later
    obtain ⟨final', hfinal', hkeptFinal'⟩ := exists_run_endBlock hkept later
    rw [Book.sweep_sweep hle] at hkeptFinal
    exact ⟨_, _, final, final', hfinal, hfinal', hkeptFinal.contents_eq hkeptFinal',
      Book.due_append_due_perm hle⟩

end Keeper

namespace Keeper

open Ledger

/-- Three commitments, of a day, of five blocks and of a minute. After two minutes the third one is
marked, after two days the other two are. Without the first sweep they are marked in their order. -/
theorem Grown.endBlock_exact_mixed :
    let committed (height : UInt64) :
        Keeper MemoryStore MemoryEngine → Keeper MemoryStore MemoryEngine :=
      fun keeper => ((execute alice "policy" (commit alice) (transaction height)).run keeper).2
    let configured (validity : Validity) :
        Keeper MemoryStore MemoryEngine → Keeper MemoryStore MemoryEngine :=
      fun keeper =>
        ((setParams { Params.default with commitmentValidity := validity }).run keeper).2
    let keeper := committed 3 (configured (.wall (.ofSeconds 60)) (committed 2
      (configured (.blockCount 5) (committed 1 (Ledger.created .empty)))))
    let now : Timestamp := ⟨⟨120, 0, by decide, by decide, by decide⟩, 4⟩
    let later : Timestamp := ⟨⟨172800, 0, by decide, by decide, by decide⟩, 9⟩
    let ids (result : Except HandlerError (List Commitment)) : Option (List UInt64) :=
      result.toOption.map fun marked => marked.map Commitment.id
    keeper.Grown ∧ now ≤ later ∧
      ids ((endBlock now).run keeper).1 = some [3] ∧
      ids ((endBlock later).run ((endBlock now).run keeper).2).1 = some [1, 2] ∧
      ids ((endBlock later).run keeper).1 = some [1, 2, 3] ∧
      ∃ marked store,
        (endBlock now).run keeper = (.ok marked, keeper.withStore store) ∧
        Swept now keeper.host.store store marked ∧
        (∀ earlier ≤ now,
          (endBlock earlier).run (keeper.withStore store) = (.ok [], keeper.withStore store)) ∧
        ∀ later, now ≤ later → ∃ rest all final final',
          (endBlock later).run (keeper.withStore store) = (.ok rest, keeper.withStore final) ∧
          (endBlock later).run keeper = (.ok all, keeper.withStore final') ∧
          LawfulStore.contents final = LawfulStore.contents final' ∧
          (marked ++ rest).Perm all := by
  intro committed configured keeper now later ids
  have hgrown : keeper.Grown :=
    ((((grown_created.executed _ _ _ _).configured _).executed _ _ _ _).configured _).executed
      _ _ _ _
  exact ⟨hgrown, by decide, by decide +kernel, by decide +kernel, by decide +kernel,
    hgrown.endBlock_exact now⟩

end Keeper

end AccessControl
