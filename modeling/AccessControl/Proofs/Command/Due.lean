import AccessControl.Proofs.Command.Recorded
import AccessControl.Proofs.Registration.Indexed
import AccessControl.Proofs.Time.Expiry
import Mathlib.Data.List.Perm.Basic

/-!
# What a sweep marks

A commitment is due at a time if it is not marked and its window has passed. `Book.due` lists the
commitments that are due and `Book.sweep` marks them; both are said of the book alone, without the
index that a sweep reads and moves along. On a host whose store keeps a book, a sweep returns
exactly the former and leaves the latter (`Host.exists_run_sweepExpired`).

What is true of sweeps is then read off the book: one that is not later than another one has nothing
to do after it (`Book.due_sweep_eq_nil`), and one before it does part of its work
(`Book.sweep_sweep`, `Book.due_append_due_perm`). Both are so because what has expired stays
expired.
-/

namespace AccessControl

namespace Commitment

variable {commitment : Commitment} {now earlier later : Timestamp}

/-- Whether a sweep finds the commitment to mark. -/
def isDueAt (commitment : Commitment) (now : Timestamp) : Bool :=
  !commitment.expired && commitment.isExpiredAt now

/-- The commitment after a sweep. -/
def sweptAt (commitment : Commitment) (now : Timestamp) : Commitment :=
  if commitment.isDueAt now then commitment.asExpired else commitment

theorem isDueAt_iff :
    commitment.isDueAt now = true ↔
      commitment.expired = false ∧ commitment.isExpiredAt now = true := by
  simp [isDueAt]

/-- A commitment that is marked already is marked again. -/
theorem sweptAt_of_isExpiredAt (h : commitment.isExpiredAt now = true) :
    commitment.sweptAt now = commitment.asExpired := by
  rw [sweptAt, isDueAt, h, Bool.and_true]
  cases hexpired : commitment.expired with
  | false => rfl
  | true =>
    rw [Bool.not_true, if_neg Bool.false_ne_true, asExpired, ← hexpired]

theorem sweptAt_of_not_isExpiredAt (h : commitment.isExpiredAt now = false) :
    commitment.sweptAt now = commitment := by
  rw [sweptAt, isDueAt, h, Bool.and_false, if_neg Bool.false_ne_true]

@[simp] theorem id_sweptAt : (commitment.sweptAt now).id = commitment.id := by
  rw [sweptAt]
  split <;> rfl

@[simp] theorem root_sweptAt : (commitment.sweptAt now).root = commitment.root := by
  rw [sweptAt]
  split <;> rfl

/-- A sweep changes the mark and nothing else. -/
theorem asExpired_sweptAt : (commitment.sweptAt now).asExpired = commitment.asExpired := by
  rw [sweptAt]
  split <;> rfl

theorem isExpiredAt_sweptAt :
    (commitment.sweptAt now).isExpiredAt later = commitment.isExpiredAt later := by
  rw [sweptAt]
  split <;> rfl

theorem isExpiredAt_of_le (hle : now ≤ later) (h : commitment.isExpiredAt now = true) :
    commitment.isExpiredAt later = true :=
  Timestamp.expiredAt_of_le hle h

/-- What is due later, but was not due at an earlier sweep, is still due after it. -/
theorem isDueAt_sweptAt :
    (commitment.sweptAt now).isDueAt later =
      (!commitment.isExpiredAt now && commitment.isDueAt later) := by
  cases h : commitment.isExpiredAt now with
  | true =>
    rw [sweptAt_of_isExpiredAt h]
    rfl
  | false =>
    rw [sweptAt_of_not_isExpiredAt h]
    rfl

theorem isDueAt_of_le (hle : now ≤ later) :
    (commitment.isExpiredAt now && commitment.isDueAt later) = commitment.isDueAt now := by
  cases h : commitment.isExpiredAt now with
  | true => rw [isDueAt, isDueAt, h, isExpiredAt_of_le hle h, Bool.true_and]
  | false => rw [Bool.false_and, isDueAt, h, Bool.and_false]

/-- A later sweep does what an earlier one did. -/
theorem sweptAt_sweptAt (hle : now ≤ later) :
    (commitment.sweptAt now).sweptAt later = commitment.sweptAt later := by
  cases h : commitment.isExpiredAt now with
  | true =>
    have hlater := isExpiredAt_of_le hle h
    rw [sweptAt_of_isExpiredAt (isExpiredAt_sweptAt.trans hlater), asExpired_sweptAt,
      sweptAt_of_isExpiredAt hlater]
  | false => rw [sweptAt_of_not_isExpiredAt h]

end Commitment

namespace Repository

namespace Book

variable {book : Book} {commitment : Commitment} {now earlier later : Timestamp} {id : UInt64}

/-- The commitments that a sweep marks, as it leaves them. -/
def due (book : Book) (now : Timestamp) : List Commitment :=
  (book.commitments.filter (·.isDueAt now)).map Commitment.asExpired

/-- The book after a sweep. -/
def sweep (book : Book) (now : Timestamp) : Book :=
  { book with commitments := book.commitments.map (·.sweptAt now) }

theorem commitment?_sweep :
    (book.sweep now).commitment? id = (book.commitment? id).map (·.sweptAt now) := by
  rw [commitment?, find?, sweep, List.find?_map]
  simp only [Function.comp_def, Commitment.id_sweptAt]
  rfl

/-- A marked commitment stands for the one that was due, and there is one of its number only. -/
theorem Sound.mem_due_iff (h : book.Sound) :
    commitment ∈ book.due now ↔
      ∃ found, book.commitment? commitment.id = some found ∧ found.isDueAt now = true ∧
        commitment = found.asExpired := by
  rw [due, List.mem_map]
  constructor
  · rintro ⟨found, hfound, rfl⟩
    obtain ⟨hmem, hdue⟩ := List.mem_filter.mp hfound
    exact ⟨found, h.commitment?_eq_some_iff.mpr ⟨hmem, rfl⟩, hdue, rfl⟩
  · rintro ⟨found, hfound, hdue, rfl⟩
    have hmem := (h.commitment?_eq_some_iff.mp hfound).1
    exact ⟨found, List.mem_filter.mpr ⟨hmem, hdue⟩, rfl⟩

/-- Of the commitments with their marks, those are in the list that are due. -/
theorem Sound.asExpired_mem_due_iff (h : book.Sound)
    (hfound : book.commitment? id = some commitment) :
    commitment.asExpired ∈ book.due now ↔ commitment.isDueAt now = true := by
  obtain ⟨-, rfl⟩ := h.commitment?_eq_some_iff.mp hfound
  rw [h.mem_due_iff]
  constructor
  · rintro ⟨found, hfound', hdue, -⟩
    obtain rfl : commitment = found := Option.some.inj (hfound.symm.trans hfound')
    exact hdue
  · intro hdue
    exact ⟨commitment, hfound, hdue, rfl⟩

/-- The marked commitments are in the order of their numbers. -/
theorem Sound.pairwise_due (h : book.Sound) (now : Timestamp) :
    (book.due now).Pairwise fun first second => first.id.toNat < second.id.toNat :=
  List.pairwise_map.mpr (h.commitments_numbered.pairwise_lt.filter _)

/-! ### Marking one after the other -/

/-- **To mark what is due, one after the other, is to sweep.** -/
theorem Sound.afterSweep_due (h : book.Sound) (now : Timestamp) :
    book.afterSweep (book.due now) = book.sweep now := by
  have hcommitments : (book.afterSweep (book.due now)).commitments =
      (book.sweep now).commitments := by
    rw [commitments_afterSweep]
    refine List.map_congr_left fun commitment hmem => ?_
    have hfound := h.commitment?_eq_some_iff.mpr ⟨hmem, rfl⟩
    have hmarked : commitment.id ∈ (book.due now).map Commitment.id ↔
        commitment.isDueAt now = true := by
      rw [← h.asExpired_mem_due_iff hfound]
      constructor
      · intro hid
        obtain ⟨marked, hdue, hid⟩ := List.mem_map.mp hid
        obtain ⟨found, hfound', -, rfl⟩ := h.mem_due_iff.mp hdue
        rw [hid, hfound, Option.some.injEq] at hfound'
        rwa [hfound']
      · exact List.mem_map_of_mem
    rw [Commitment.sweptAt]
    exact if_congr hmarked rfl rfl
  have hamendments : (book.afterSweep (book.due now)).amendments = book.amendments :=
    amendments_afterSweep _
  calc book.afterSweep (book.due now)
      = ⟨(book.sweep now).commitments, book.amendments⟩ := by
        rw [← hcommitments, ← hamendments]
    _ = book.sweep now := rfl

/-! ### Sweeps one after the other -/

/-- **After a sweep nothing is due**, at its time or before. -/
theorem due_sweep_eq_nil (hle : earlier ≤ now) : (book.sweep now).due earlier = [] := by
  have hdue : ∀ commitment ∈ book.commitments,
      (commitment.sweptAt now).isDueAt earlier = false := by
    intro commitment _
    rw [Commitment.isDueAt_sweptAt, ← Commitment.isDueAt_of_le hle]
    cases hexpired : commitment.isExpiredAt now with
    | true => rfl
    | false =>
      rw [Commitment.isDueAt, hexpired, Bool.and_false, Bool.and_false, Bool.and_false]
  rw [due, sweep, List.filter_map, List.map_map, List.map_eq_nil_iff, List.filter_eq_nil_iff]
  intro commitment hmem
  rw [Function.comp_apply, hdue commitment hmem]
  exact Bool.false_ne_true

/-- **A sweep before another one can be left out.** -/
theorem sweep_sweep (hle : now ≤ later) : (book.sweep now).sweep later = book.sweep later := by
  have hcommitments : (book.commitments.map (·.sweptAt now)).map (·.sweptAt later) =
      book.commitments.map (·.sweptAt later) := by
    rw [List.map_map]
    exact List.map_congr_left fun commitment _ => Commitment.sweptAt_sweptAt hle
  rw [sweep, sweep, sweep, hcommitments]

/-- **Two sweeps share the work of the second one.** -/
theorem due_append_due_perm (hle : now ≤ later) :
    (book.due now ++ (book.sweep now).due later).Perm (book.due later) := by
  have hfirst : book.commitments.filter (·.isDueAt now) =
      (book.commitments.filter (·.isDueAt later)).filter (·.isExpiredAt now) := by
    rw [List.filter_filter]
    exact List.filter_congr fun commitment _ => (Commitment.isDueAt_of_le hle).symm
  have hsecond : (book.sweep now).due later =
      ((book.commitments.filter (·.isDueAt later)).filter fun commitment =>
        !commitment.isExpiredAt now).map Commitment.asExpired := by
    rw [due, sweep, List.filter_map, List.map_map, List.filter_filter]
    simp only [Function.comp_def, Commitment.isDueAt_sweptAt, Commitment.asExpired_sweptAt]
  rw [hsecond, due, hfirst, ← List.map_append]
  exact (List.filter_append_perm (·.isExpiredAt now) _).map Commitment.asExpired

/-! ### Where a sweep shows -/

/-- **A sweep changes the records of what it marks and moves their index entries**, and no other
value. -/
theorem Sound.value?_sweep (h : book.Sound) {key : Key}
    (hkey : ∀ commitment ∈ book.due now, key ≠ .commitment commitment.id ∧
      ∀ expired, key ≠ .expiry expired commitment.id) :
    (book.sweep now).value? key = book.value? key := by
  have hsame : ∀ id, (∀ commitment ∈ book.due now, commitment.id ≠ id) →
      (book.sweep now).commitment? id = book.commitment? id := by
    intro id hid
    rw [commitment?_sweep]
    cases hfound : book.commitment? id with
    | none => rfl
    | some commitment =>
      have hnumber := (h.commitment?_eq_some_iff.mp hfound).2
      have hdue : ¬ commitment.isDueAt now = true := fun hdue =>
        hid _ ((h.asExpired_mem_due_iff hfound).mpr hdue) hnumber
      rw [Option.map_some, Commitment.sweptAt, if_neg hdue]
  cases key with
  | commitmentCount => rw [value?, value?, sweep, List.length_map]
  | commitment id =>
    rw [value?, value?, hsame id fun commitment hmem heq => (hkey commitment hmem).1 (heq ▸ rfl)]
  | expiry expired id =>
    rw [value?, value?,
      hsame id fun commitment hmem heq => (hkey commitment hmem).2 expired (heq ▸ rfl)]
  | root root id =>
    rw [value?, value?, commitment?_sweep]
    cases book.commitment? id with
    | none => rfl
    | some commitment =>
      rw [Option.map_some, Option.any_some, Option.any_some, Commitment.root_sweptAt]
  | amendmentCount | amendment id | dispute policyId id => rfl

end Book

/-! ### Stores that keep the same book -/

/-- Two stores that keep the same book hold the same. -/
theorem Kept.contents_eq {σ : Type} [Store σ] [LawfulStore σ] {book : Book} {store store' : σ}
    (h : Kept book store) (h' : Kept book store') :
    LawfulStore.contents store = LawfulStore.contents store' :=
  h.shows.eq h'.shows

/-- A commitment can always be marked. -/
theorem exists_run_markExpired {σ : Type} [Store σ] [LawfulStore σ] (store : σ)
    (commitment : Commitment) :
    ∃ store', (markExpired commitment).run store = (.ok commitment.asExpired, store') := by
  obtain ⟨store₁, hrecord, -⟩ := LawfulStore.exists_run_write store (commitmentKey commitment.id)
    commitment.asExpired.toJson.render
  obtain ⟨store₂, hremove, -⟩ := LawfulStore.exists_run_remove store₁
    (expiredIndex false ++ idOctets commitment.id)
  obtain ⟨store₃, hentry, -⟩ := LawfulStore.exists_run_write store₂
    (expiredIndex true ++ idOctets commitment.id) []
  refine ⟨store₃, ?_⟩
  simp only [markExpired, Action.run_bind_eq_ok_iff, Action.run_pure_eq_ok_iff]
  exact ⟨(), store₁, hrecord, (), store₂, hremove, (), store₃, hentry, rfl, rfl⟩

end Repository

namespace Host

open Repository

variable {σ ρ : Type} [Store σ] [LawfulStore σ] {host : Host σ ρ} {book : Book} {now : Timestamp}

/-- Marking never fails, and returns the commitments that have expired. -/
theorem exists_run_markExpired (now : Timestamp) (commitments : List Commitment)
    (host : Host σ ρ) :
    ∃ host', (markExpired now commitments).run host =
      (.ok ((commitments.filter (·.isExpiredAt now)).map Commitment.asExpired), host') := by
  induction commitments generalizing host with
  | nil => exact ⟨host, rfl⟩
  | cons first rest ih =>
    rw [markExpired]
    by_cases hexpired : first.isExpiredAt now = true
    · obtain ⟨store, hmark⟩ := Repository.exists_run_markExpired host.store first
      obtain ⟨host', hrest⟩ := ih { host with store }
      refine ⟨host', ?_⟩
      rw [if_pos hexpired, List.filter_cons, if_pos hexpired, List.map_cons]
      simp only [Action.run_bind_eq_ok_iff, Action.run_pure_eq_ok_iff, run_onStore_eq_ok_iff]
      exact ⟨_, _, ⟨store, hmark, rfl⟩, _, host', hrest, rfl, rfl⟩
    · rw [if_neg hexpired, List.filter_cons, if_neg hexpired]
      exact ih host

omit [LawfulStore σ] in
/-- Marking leaves the host alone if no commitment has expired. -/
theorem run_markExpired_of_forall {commitments : List Commitment}
    (h : ∀ commitment ∈ commitments, ¬ commitment.isExpiredAt now = true) :
    (markExpired now commitments).run host = (.ok [], host) := by
  induction commitments with
  | nil => rfl
  | cons first rest ih =>
    obtain ⟨hfirst, hrest⟩ := List.forall_mem_cons.mp h
    rw [markExpired, if_neg hfirst]
    exact ih hrest

/-- What has expired among the commitments that are not marked is what is due. -/
theorem filter_isExpiredAt_eq_filter_isDueAt (commitments : List Commitment) (now : Timestamp) :
    (commitments.filter fun commitment => commitment.expired = false).filter (·.isExpiredAt now) =
      commitments.filter (·.isDueAt now) := by
  rw [List.filter_filter]
  refine List.filter_congr fun commitment _ => ?_
  rw [Commitment.isDueAt, Bool.and_comm]
  cases commitment.expired <;> rfl

/-- **A sweep never fails. It returns what is due in the book, and leaves the book swept.** -/
theorem exists_run_sweepExpired (hkept : Kept book host.store) (now : Timestamp) :
    ∃ store, (sweepExpired now).run host = (.ok (book.due now), { host with store }) ∧
      Kept (book.sweep now) store := by
  obtain ⟨⟨store, engine⟩, hmark⟩ := exists_run_markExpired now
    (book.commitments.filter fun commitment => commitment.expired = false) host
  rw [filter_isExpiredAt_eq_filter_isDueAt] at hmark
  have hrun : (sweepExpired now).run host = (.ok (book.due now), ⟨store, engine⟩) := by
    simp only [sweepExpired, Action.run_bind_eq_ok_iff, Action.run_read_eq_ok_iff,
      readStore_eq_ok_iff]
    exact ⟨_, host, ⟨hkept.activeCommitments_eq, rfl⟩, hmark⟩
  obtain ⟨hfinal, hengine, -⟩ := kept_of_run_sweepExpired hkept hrun
  rw [hkept.sound.afterSweep_due] at hfinal
  obtain rfl : engine = host.engine := hengine
  exact ⟨store, hrun, hfinal⟩

/-- **A sweep that finds nothing due writes nothing.** -/
theorem run_sweepExpired_of_due_eq_nil (hkept : Kept book host.store) (hdue : book.due now = []) :
    (sweepExpired now).run host = (.ok [], host) := by
  have hnone := filter_isExpiredAt_eq_filter_isDueAt book.commitments now
  rw [List.map_eq_nil_iff.mp hdue, List.filter_eq_nil_iff] at hnone
  simp only [sweepExpired, Action.run_bind_eq_ok_iff, Action.run_read_eq_ok_iff,
    readStore_eq_ok_iff]
  exact ⟨_, host, ⟨hkept.activeCommitments_eq, rfl⟩, run_markExpired_of_forall hnone⟩

end Host

end AccessControl
