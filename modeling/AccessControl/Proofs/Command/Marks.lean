import AccessControl.Proofs.Agreement
import AccessControl.Proofs.Command.Recorded
import AccessControl.Proofs.Time.Expiry

/-!
# Books that differ in marks

Sweeps mark commitments, and when they do is up to the host. `Book.AlikeAt` relates books that
differ in nothing else, at a time at which every commitment that either of them has marked has
expired. At no later time does it matter which of the two a commitment is looked up in: it is the
same one, or it has expired in both (`Book.AlikeAt.commitment?_cases`). So the operations of the
repository agree on stores that keep such books, `KeptAlike`.
-/

namespace AccessControl.Repository

open LawfulStore

namespace Book

/-- The book with every commitment marked as expired: what a book says apart from its marks. -/
def allExpired (book : Book) : Book :=
  { book with commitments := book.commitments.map Commitment.asExpired }

/-- Only commitments that have expired at a time are marked. -/
def MarkedBy (book : Book) (now : Timestamp) : Prop :=
  ∀ commitment ∈ book.commitments, commitment.expired = true → commitment.isExpiredAt now = true

variable {book other : Book} {commitment : Commitment} {amendment : Amendment} {id : UInt64}
  {now later : Timestamp}

/-! ### Changes of books apart from their marks -/

theorem commitment?_allExpired (book : Book) (id : UInt64) :
    book.allExpired.commitment? id = (book.commitment? id).map Commitment.asExpired :=
  List.find?_map

theorem allExpired_addCommitment :
    (book.addCommitment commitment).allExpired =
      book.allExpired.addCommitment commitment.asExpired := by
  rw [allExpired, addCommitment, List.map_append]
  rfl

theorem allExpired_addAmendment :
    (book.addAmendment amendment).allExpired = book.allExpired.addAmendment amendment :=
  rfl

theorem allExpired_dispute : (book.dispute id).allExpired = book.allExpired.dispute id :=
  rfl

theorem allExpired_expire : (book.expire id).allExpired = book.allExpired := by
  rw [allExpired, expire, update, List.map_map]
  refine congrArg (Book.mk · book.amendments) (List.map_congr_left fun found _ => ?_)
  rw [Function.comp_apply]
  split <;> rfl

/-- A sweep changes nothing but marks. -/
theorem allExpired_afterSweep (marked : List Commitment) :
    (book.afterSweep marked).allExpired = book.allExpired := by
  induction marked generalizing book with
  | nil => rfl
  | cons first rest ih =>
    rw [afterSweep, List.foldl_cons, ← afterSweep, ih, allExpired_expire]

/-! ### Marks in the course of time -/

theorem MarkedBy.mono (h : book.MarkedBy now) (hle : now ≤ later) : book.MarkedBy later :=
  fun commitment hmem hexpired => Timestamp.expiredAt_of_le hle (h commitment hmem hexpired)

theorem MarkedBy.addCommitment (h : book.MarkedBy now) (hnew : commitment.expired = false) :
    (book.addCommitment commitment).MarkedBy now := by
  intro found hfound hexpired
  rcases List.mem_append.mp hfound with hold | hlast
  · exact h found hold hexpired
  · rw [List.mem_singleton.mp hlast, Commitment.expired_civil, hnew] at hexpired
    cases hexpired

/-- A commitment that has expired can be marked. -/
theorem MarkedBy.expire (h : book.MarkedBy now)
    (hexpired : ∀ found ∈ book.commitments, found.id = id → found.isExpiredAt now = true) :
    (book.expire id).MarkedBy now := by
  intro marked hmarked hmark
  obtain ⟨found, hfound, rfl⟩ := List.mem_map.mp hmarked
  by_cases hid : found.id = id
  · rw [if_pos hid]
    exact hexpired found hfound hid
  · rw [if_neg hid] at hmark ⊢
    exact h found hfound hmark

/-- A sweep marks what has expired at its time. -/
theorem MarkedBy.afterSweep {marked : List Commitment} (h : book.MarkedBy now)
    (hexpired : ∀ commitment ∈ marked, ∀ found ∈ book.commitments, found.id = commitment.id →
      found.isExpiredAt now = true) : (book.afterSweep marked).MarkedBy now := by
  induction marked generalizing book with
  | nil => exact h
  | cons first rest ih =>
    rw [List.forall_mem_cons] at hexpired
    rw [Book.afterSweep, List.foldl_cons, ← Book.afterSweep]
    refine ih (h.expire hexpired.1) fun commitment hcommitment marked hmarked hid => ?_
    obtain ⟨found, hfound, rfl⟩ := List.mem_map.mp hmarked
    by_cases hfirst : found.id = first.id
    · rw [if_pos hfirst]
      exact hexpired.1 found hfound hfirst
    · rw [if_neg hfirst] at hid ⊢
      exact hexpired.2 commitment hcommitment found hfound hid

/-! ### Books that are alike -/

/-- Two books differ at most in marks, and only expired commitments are marked in them. -/
structure AlikeAt (now : Timestamp) (book other : Book) : Prop where
  allExpired_eq : book.allExpired = other.allExpired
  marked : book.MarkedBy now
  marked_other : other.MarkedBy now

namespace AlikeAt

theorem mono (h : AlikeAt now book other) (hle : now ≤ later) : AlikeAt later book other :=
  ⟨h.allExpired_eq, h.marked.mono hle, h.marked_other.mono hle⟩

theorem amendments_eq (h : AlikeAt now book other) : book.amendments = other.amendments := by
  show book.allExpired.amendments = other.allExpired.amendments
  rw [h.allExpired_eq]

theorem length_commitments_eq (h : AlikeAt now book other) :
    book.commitments.length = other.commitments.length := by
  have hlength := congrArg (fun book => book.commitments.length) h.allExpired_eq
  simpa only [allExpired, List.length_map] using hlength

theorem amendment?_eq (h : AlikeAt now book other) (id : UInt64) :
    book.amendment? id = other.amendment? id := by
  rw [amendment?, amendment?, h.amendments_eq]

theorem map_commitment?_eq (h : AlikeAt now book other) (id : UInt64) :
    (book.commitment? id).map Commitment.asExpired =
      (other.commitment? id).map Commitment.asExpired := by
  rw [← commitment?_allExpired, ← commitment?_allExpired, h.allExpired_eq]

/-- **The mark of a commitment does not matter**: it is found in neither book, or it is the same in
both, or it has expired in both. -/
theorem commitment?_cases (h : AlikeAt now book other) (hsound : book.Sound)
    (hsound' : other.Sound) (id : UInt64) :
    (book.commitment? id = none ∧ other.commitment? id = none) ∨
      ∃ found found', book.commitment? id = some found ∧ other.commitment? id = some found' ∧
        found.asExpired = found'.asExpired ∧
        (found = found' ∨ found.isExpiredAt now = true ∧ found'.isExpiredAt now = true) := by
  have hsame := h.map_commitment?_eq id
  cases hfound : book.commitment? id with
  | none =>
    rw [hfound, Option.map_none, eq_comm, Option.map_eq_none_iff] at hsame
    exact .inl ⟨rfl, hsame⟩
  | some found =>
    rw [hfound, Option.map_some, eq_comm, Option.map_eq_some_iff] at hsame
    obtain ⟨found', hfound', hmarks⟩ := hsame
    refine .inr ⟨found, found', rfl, hfound', hmarks.symm, ?_⟩
    have hexpiry : found.isExpiredAt now = found'.isExpiredAt now :=
      congrArg (·.isExpiredAt now) hmarks.symm
    have hmem := (hsound.commitment?_eq_some_iff.mp hfound).1
    have hmem' := (hsound'.commitment?_eq_some_iff.mp hfound').1
    cases hexpired : found.isExpiredAt now with
    | true => exact .inr ⟨rfl, hexpiry ▸ hexpired⟩
    | false =>
      -- Neither is marked, so the rest is all there is.
      have hunmarked : found.expired = false := by
        refine Bool.eq_false_iff.mpr fun hmark => ?_
        rw [h.marked found hmem hmark] at hexpired
        cases hexpired
      have hunmarked' : found'.expired = false := by
        refine Bool.eq_false_iff.mpr fun hmark => ?_
        rw [hexpiry, h.marked_other found' hmem' hmark] at hexpired
        cases hexpired
      have hunmark := congrArg (fun commitment => { commitment with expired := false }) hmarks
      refine .inl ?_
      calc found = { found.asExpired with expired := false } := by rw [← hunmarked]; rfl
        _ = { found'.asExpired with expired := false } := hunmark.symm
        _ = found' := by rw [← hunmarked']; rfl

theorem addCommitment (h : AlikeAt now book other) (hnew : commitment.expired = false) :
    AlikeAt now (book.addCommitment commitment) (other.addCommitment commitment) where
  allExpired_eq := by
    rw [allExpired_addCommitment, allExpired_addCommitment, h.allExpired_eq]
  marked := h.marked.addCommitment hnew
  marked_other := h.marked_other.addCommitment hnew

theorem addAmendment (h : AlikeAt now book other) (amendment : Amendment) :
    AlikeAt now (book.addAmendment amendment) (other.addAmendment amendment) where
  allExpired_eq := by
    rw [allExpired_addAmendment, allExpired_addAmendment, h.allExpired_eq]
  marked := h.marked
  marked_other := h.marked_other

theorem dispute (h : AlikeAt now book other) (id : UInt64) :
    AlikeAt now (book.dispute id) (other.dispute id) where
  allExpired_eq := by rw [allExpired_dispute, allExpired_dispute, h.allExpired_eq]
  marked := h.marked
  marked_other := h.marked_other

end AlikeAt

end Book

/-! ### Stores that keep such books -/

variable {σ : Type} [Store σ] [LawfulStore σ] {now : Timestamp} {store other : σ}

/-- Two stores keep books that are alike. -/
def KeptAlike (now : Timestamp) (store other : σ) : Prop :=
  ∃ book book' : Book, Kept book store ∧ Kept book' other ∧ book.AlikeAt now book'

/-- What gets the next number and is entered with it gets the same number in both stores, or there
is no number for it. -/
theorem agrees_of_numbered {α : Type} {action : Action σ StoreError α} (make : UInt64 → α)
    (size : Book → Nat) (enter : Book → α → Book)
    (hroom : ∀ {store : σ} {book : Book}, Kept book store → size book + 1 < UInt64.size →
      ∃ id store', action.run store = (.ok (make id), store') ∧ id.toNat = size book + 1 ∧
        Kept (enter book (make id)) store')
    (hfull : ∀ {store : σ} {book : Book}, Kept book store → UInt64.size ≤ size book + 1 →
      action.run store = (.error .sequenceExhausted, store))
    (hsize : ∀ {book other : Book}, book.AlikeAt now other → size book = size other)
    (henter : ∀ {book other : Book} id, book.AlikeAt now other →
      (enter book (make id)).AlikeAt now (enter other (make id))) :
    Action.Agrees (KeptAlike now) action action := by
  rintro store other ⟨book, book', hkept, hkept', halike⟩
  have hsizes := hsize halike
  by_cases hnext : size book + 1 < UInt64.size
  · obtain ⟨id, store₁, hrun, hid, hfinal⟩ := hroom hkept hnext
    obtain ⟨id', store₂, hrun', hid', hfinal'⟩ := hroom hkept' (hsizes ▸ hnext)
    obtain rfl : id = id' := UInt64.toNat_inj.mp (by omega)
    rw [hrun, hrun']
    exact ⟨rfl, _, _, hfinal, hfinal', henter id halike⟩
  · rw [hfull hkept (by omega), hfull hkept' (by omega)]
    exact ⟨rfl, book, book', hkept, hkept', halike⟩

theorem agrees_createCommitment (now : Timestamp) (policyId : String) (root : Digest)
    {validity : Validity} (hwhole : validity.IsWhole) (provenance : Provenance) :
    Action.Agrees (KeptAlike now : σ → σ → Prop)
      (createCommitment policyId root validity provenance)
      (createCommitment policyId root validity provenance) := by
  apply agrees_of_numbered (fun id => ⟨id, policyId, root, false, validity, provenance⟩)
    (fun book => book.commitments.length) Book.addCommitment
  · intro store book hkept hroom
    obtain ⟨commitment, store', hrun⟩ := hkept.exists_run_createCommitment hroom
    obtain ⟨hid, hcommitment, hfinal⟩ := hkept.of_run_createCommitment hwhole hrun
    rw [hcommitment] at hrun hfinal
    exact ⟨commitment.id, store', hrun, hid, hfinal⟩
  · intro store book hkept hfull
    exact hkept.run_createCommitment_eq_error hfull
  · intro book other halike
    exact halike.length_commitments_eq
  · intro book other id halike
    exact halike.addCommitment rfl

theorem agrees_createAmendment (now : Timestamp) (policyId : String) (object : Object)
    (newOwner : Did) (previousOwner : Option Did) (commitmentId : UInt64)
    (provenance : Provenance) :
    Action.Agrees (KeptAlike now : σ → σ → Prop)
      (createAmendment policyId object newOwner previousOwner commitmentId provenance)
      (createAmendment policyId object newOwner previousOwner commitmentId provenance) := by
  apply agrees_of_numbered (fun id => ⟨id, policyId, object, newOwner, previousOwner, commitmentId,
    false, provenance⟩) (fun book => book.amendments.length) Book.addAmendment
  · intro store book hkept hroom
    obtain ⟨amendment, store', hrun⟩ := hkept.exists_run_createAmendment hroom
    obtain ⟨hid, hamendment, hfinal⟩ := hkept.of_run_createAmendment hrun
    rw [hamendment] at hrun hfinal
    exact ⟨amendment.id, store', hrun, hid, hfinal⟩
  · intro store book hkept hfull
    exact hkept.run_createAmendment_eq_error hfull
  · intro book other halike
    rw [halike.amendments_eq]
  · intro book other id halike
    exact halike.addAmendment _

/-- An amendment that is read is the same in both stores. -/
theorem KeptAlike.amendment?_eq (h : KeptAlike now store other) (id : UInt64) :
    amendment? id store = amendment? id other := by
  obtain ⟨book, book', hkept, hkept', halike⟩ := h
  rw [hkept.amendment?_eq, hkept'.amendment?_eq, halike.amendment?_eq]

/-- Disputing an amendment that is there is the same in both stores. -/
theorem KeptAlike.run_markDisputed (h : KeptAlike now store other) {amendment : Amendment}
    (hfound : amendment? amendment.id store = .ok (some amendment))
    (hdisputed : amendment.disputed = false) :
    ((markDisputed amendment).run store).1 = ((markDisputed amendment).run other).1 ∧
      KeptAlike now ((markDisputed amendment).run store).2
        ((markDisputed amendment).run other).2 := by
  obtain ⟨book, book', hkept, hkept', halike⟩ := h
  rw [hkept.amendment?_eq, Except.ok.injEq] at hfound
  obtain ⟨final, hrun⟩ := Kept.exists_run_markDisputed store amendment
  obtain ⟨final', hrun'⟩ := Kept.exists_run_markDisputed other amendment
  have hfinal := (hkept.of_run_markDisputed hfound hdisputed hrun).2
  have hfinal' := (hkept'.of_run_markDisputed (halike.amendment?_eq _ ▸ hfound) hdisputed hrun').2
  rw [hrun, hrun']
  exact ⟨rfl, _, _, hfinal, hfinal', halike.dispute amendment.id⟩

/-! ### What such stores share -/

/-- Two stores differ at most in which commitments are marked as expired, and in the index of these
marks. -/
structure DifferInMarks (store other : σ) : Prop where
  commitments : ∀ id, ∃ found found', commitment? id store = .ok found ∧
    commitment? id other = .ok found' ∧
    found.map Commitment.asExpired = found'.map Commitment.asExpired
  amendment?_eq : ∀ id, amendment? id store = amendment? id other
  disputedAmendments_eq : ∀ policyId,
    disputedAmendments policyId store = disputedAmendments policyId other
  commitmentCount_eq : commitmentSequence.current store = commitmentSequence.current other
  amendmentCount_eq : amendmentSequence.current store = amendmentSequence.current other
  /-- All other entries are the same, whether the repository has a name for their keys or not. -/
  get?_eq : ∀ octets, (∀ id, octets ≠ commitmentKey id) → ¬ KeySpace.expiry.start <+: octets →
    Store.get? store octets = Store.get? other octets

namespace DifferInMarks

variable {middle : σ}

omit [LawfulStore σ] in
theorem symm (h : DifferInMarks store other) : DifferInMarks other store where
  commitments id := by
    obtain ⟨found, found', hfound, hfound', hmarks⟩ := h.commitments id
    exact ⟨found', found, hfound', hfound, hmarks.symm⟩
  amendment?_eq id := (h.amendment?_eq id).symm
  disputedAmendments_eq policyId := (h.disputedAmendments_eq policyId).symm
  commitmentCount_eq := h.commitmentCount_eq.symm
  amendmentCount_eq := h.amendmentCount_eq.symm
  get?_eq octets hrecord hindex := (h.get?_eq octets hrecord hindex).symm

omit [LawfulStore σ] in
theorem trans (h : DifferInMarks store middle) (h' : DifferInMarks middle other) :
    DifferInMarks store other where
  commitments id := by
    obtain ⟨found, found₁, hfound, hfound₁, hmarks⟩ := h.commitments id
    obtain ⟨found₂, found', hfound₂, hfound', hmarks'⟩ := h'.commitments id
    rw [hfound₁, Except.ok.injEq] at hfound₂
    rw [← hfound₂] at hmarks'
    exact ⟨found, found', hfound, hfound', hmarks.trans hmarks'⟩
  amendment?_eq id := (h.amendment?_eq id).trans (h'.amendment?_eq id)
  disputedAmendments_eq policyId :=
    (h.disputedAmendments_eq policyId).trans (h'.disputedAmendments_eq policyId)
  commitmentCount_eq := h.commitmentCount_eq.trans h'.commitmentCount_eq
  amendmentCount_eq := h.amendmentCount_eq.trans h'.amendmentCount_eq
  get?_eq octets hrecord hindex :=
    (h.get?_eq octets hrecord hindex).trans (h'.get?_eq octets hrecord hindex)

end DifferInMarks

/-- The only values that marks show in are those of the commitments and of the index of marks. -/
theorem Book.AlikeAt.value?_eq {book book' : Book} (h : book.AlikeAt now book') {key : Key}
    (hrecord : ∀ id, key ≠ .commitment id) (hindex : ∀ expired id, key ≠ .expiry expired id) :
    book.value? key = book'.value? key := by
  cases key with
  | commitmentCount => rw [Book.value?, Book.value?, h.length_commitments_eq]
  | commitment id => exact absurd rfl (hrecord id)
  | expiry expired id => exact absurd rfl (hindex expired id)
  | root root id =>
    -- A mark does not change the root.
    have hroots : ∀ found : Option Commitment, found.any (·.root = root) =
        (found.map Commitment.asExpired).any (·.root = root) := by
      intro found
      cases found <;> rfl
    rw [Book.value?, Book.value?, hroots, hroots (book'.commitment? id), h.map_commitment?_eq]
  | amendmentCount => rw [Book.value?, Book.value?, h.amendments_eq]
  | amendment id => rw [Book.value?, Book.value?, h.amendment?_eq]
  | dispute policyId id => rw [Book.value?, Book.value?, h.amendment?_eq]

namespace KeptAlike

theorem get?_eq (h : KeptAlike now store other) {octets : Bytes}
    (hrecord : ∀ id, octets ≠ commitmentKey id) (hindex : ¬ KeySpace.expiry.start <+: octets) :
    (contents store).get? octets = (contents other).get? octets := by
  obtain ⟨book, book', hkept, hkept', halike⟩ := h
  refine hkept.shows.get?_congr hkept'.shows fun key hkey => ?_
  subst hkey
  refine halike.value?_eq (fun id heq => hrecord id (by rw [heq]; rfl)) fun expired id heq => ?_
  exact hindex (by rw [heq]; exact Key.start_prefix_octets (.expiry expired id))

/-- No key of a commitment or of the index of marks begins as those of disputed amendments do. -/
theorem scan_dispute_eq (h : KeptAlike now store other) (policyId : String) :
    Store.scan store (disputeIndex policyId) = Store.scan other (disputeIndex policyId) := by
  rw [scan_eq, scan_eq]
  refine congrArg Except.ok (SortedMap.eq_of_lookup_eq (Overlay.sorted_entriesUnder _ _)
    (Overlay.sorted_entriesUnder _ _) fun octets => ?_)
  rw [Overlay.lookup_entriesUnder, Overlay.lookup_entriesUnder]
  by_cases hbegins : (disputeIndex policyId).isPrefixOf octets = true
  · rw [if_pos hbegins, if_pos hbegins]
    have hdispute : KeySpace.dispute.start <+: octets := by
      refine List.IsPrefix.trans ?_ (List.isPrefixOf_iff_prefix.mp hbegins)
      rw [disputeIndex, List.append_assoc, List.append_assoc]
      exact List.prefix_append _ _
    have hother : ∀ space : KeySpace, space ≠ .dispute → ¬ space.start <+: octets := by
      intro space hspace hstart
      rcases List.prefix_or_prefix_of_prefix hstart hdispute with hcontinues | hcontinues
      · exact hspace (KeySpace.eq_of_continues hcontinues)
      · exact hspace (KeySpace.eq_of_continues hcontinues).symm
    refine h.get?_eq (fun id heq => ?_) (hother .expiry (by decide))
    exact hother .commitment (by decide) (by rw [heq]; exact List.prefix_append _ _)
  · rw [if_neg hbegins, if_neg hbegins]

/-- **Stores whose books are alike differ in marks at most.** -/
theorem differInMarks (h : KeptAlike now store other) : DifferInMarks store other where
  commitments id := by
    obtain ⟨book, book', hkept, hkept', halike⟩ := h
    exact ⟨_, _, hkept.commitment?_eq id, hkept'.commitment?_eq id, halike.map_commitment?_eq id⟩
  amendment?_eq := h.amendment?_eq
  disputedAmendments_eq policyId := by
    rw [disputedAmendments, disputedAmendments, h.scan_dispute_eq policyId]
    simp only [h.amendment?_eq]
  commitmentCount_eq := by
    obtain ⟨book, book', hkept, hkept', halike⟩ := h
    rw [hkept.current_commitmentSequence, hkept'.current_commitmentSequence,
      halike.length_commitments_eq]
  amendmentCount_eq := by
    obtain ⟨book, book', hkept, hkept', halike⟩ := h
    rw [hkept.current_amendmentSequence, hkept'.current_amendmentSequence, halike.amendments_eq]
  get?_eq octets hrecord hindex := by
    rw [LawfulStore.get?_eq, LawfulStore.get?_eq, h.get?_eq hrecord hindex]

end KeptAlike

end AccessControl.Repository
