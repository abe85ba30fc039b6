import AccessControl.Proofs.Command.Dispatch
import AccessControl.Proofs.Registration.Repository

/-!
# What commands leave in the book

On a host whose store keeps a book, a command that succeeds makes one change to the book at most,
and its outcome says which (`Host.Effect.kept`). A sweep marks commitments of the book that have
expired at its time, and returns them as they are then (`Host.kept_of_run_sweepExpired`).
-/

namespace AccessControl

namespace Repository.Book

/-- The book after a command with an outcome. -/
def afterCommand (book : Book) : CommandOutcome → Book
  | .commitRegistrations commitment => book.addCommitment commitment
  | .revealRegistration _ amendment => book.addAmendment amendment
  | .flagHijackAttempt amendment => book.dispute amendment.id
  | _ => book

/-- The book after a sweep that marked some commitments. -/
def afterSweep (book : Book) (marked : List Commitment) : Book :=
  marked.foldl (fun book commitment => book.expire commitment.id) book

variable {book : Book}

theorem commitments_afterSweep (marked : List Commitment) :
    (book.afterSweep marked).commitments = book.commitments.map fun commitment =>
      if commitment.id ∈ marked.map Commitment.id then commitment.asExpired else commitment := by
  induction marked generalizing book with
  | nil => simp [afterSweep]
  | cons first rest ih =>
    rw [afterSweep, List.foldl_cons, ← afterSweep, ih, expire, update, List.map_map]
    refine List.map_congr_left fun commitment _ => ?_
    simp only [Function.comp_apply, List.map_cons, List.mem_cons]
    by_cases hfirst : commitment.id = first.id
    · have hmarked : commitment.id = first.id ∨ commitment.id ∈ rest.map Commitment.id :=
        .inl hfirst
      rw [if_pos hfirst, if_pos hmarked]
      split <;> rfl
    · simp only [hfirst, if_false, false_or]

theorem amendments_afterSweep (marked : List Commitment) :
    (book.afterSweep marked).amendments = book.amendments := by
  induction marked generalizing book with
  | nil => rfl
  | cons first rest ih => exact ih

/-- Disputing an amendment once more changes nothing. -/
theorem dispute_of_disputed (h : book.Sound) {amendment : Amendment}
    (hfound : book.amendment? amendment.id = some amendment)
    (hdisputed : amendment.disputed = true) : book.dispute amendment.id = book := by
  have hsame : update Amendment.id Amendment.asDisputed amendment.id book.amendments =
      book.amendments := by
    rw [Repository.update]
    refine (List.map_congr_left fun other hother => ?_).trans (List.map_id _)
    split
    · rename_i hid
      have hothers := h.amendment?_eq_some_iff.mpr ⟨hother, hid⟩
      rw [hfound] at hothers
      cases hothers
      rw [Amendment.asDisputed, ← hdisputed]
      rfl
    · rfl
  rw [dispute, hsame]

end Repository.Book

namespace Host

open Repository

variable {σ ρ : Type} [Store σ] [LawfulStore σ] {host host' : Host σ ρ} {book : Book}

/-! ### Commands -/

/-- The amendment that an actor may dispute is in the book. -/
theorem amendment?_of_disputableAmendment {policyId : String} {id : UInt64} {actor : Did}
    {amendment : Amendment} (hkept : Kept book host.store)
    (h : host.disputableAmendment policyId id actor = .ok amendment) :
    book.amendment? id = some amendment ∧ amendment.id = id ∧ amendment.policyId = policyId ∧
      amendment.previousOwner = some actor := by
  obtain ⟨hstored, hpolicy, hprevious⟩ := disputableAmendment_eq_ok_iff.mp h
  rw [hkept.amendment?_eq, Except.ok.injEq] at hstored
  exact ⟨hstored, (hkept.sound.amendment?_eq_some_iff.mp hstored).2, hpolicy, hprevious⟩

/-- The commitment that an actor opens is in the book. -/
theorem commitment?_of_openedCommitment {policyId : String} {id : UInt64} {actor : Did}
    {proof : RegistrationProof} {now : Timestamp} {commitment : Commitment}
    (hkept : Kept book host.store)
    (h : host.openedCommitment policyId actor id proof now = .ok commitment) :
    book.commitment? id = some commitment ∧ commitment.id = id ∧
      commitment.policyId = policyId := by
  obtain ⟨hstored, -, -, -, hpolicy⟩ := openedCommitment_eq_ok_iff.mp h
  rw [hkept.commitment?_eq, Except.ok.injEq] at hstored
  exact ⟨hstored, (hkept.sound.commitment?_eq_some_iff.mp hstored).2, hpolicy⟩

/-- **The outcome of a command says what it left in the book.** -/
theorem Effect.kept [RelationshipEngine ρ] {params : Params} {actor : Did} {policyId : String}
    {transaction : Transaction} {command : Command} {outcome : CommandOutcome}
    (hkept : Kept book host.store) (hwhole : params.commitmentValidity.IsWhole)
    (h : Effect params actor policyId transaction host command outcome host') :
    Kept (book.afterCommand outcome) host'.store := by
  cases h with
  | setRelationship | deleteRelationship | registerObject | unregisterObject | archiveObject
  | unarchiveObject => exact hkept
  | commitRegistrations hpolicy hroot hstore =>
    exact (hkept.of_run_createCommitment hwhole hstore).2.2
  | registered hopened hregistration hstore hengine =>
    exact (hkept.of_run_createAmendment hstore).2.2
  | takenOver hopened hregistration howner hheight hstore hengine =>
    exact (hkept.of_run_createAmendment hstore).2.2
  | disputed hfound hdisputed hstore =>
    obtain ⟨hstored, rfl, -, -⟩ := amendment?_of_disputableAmendment hkept hfound
    obtain ⟨rfl, hkept'⟩ := hkept.of_run_markDisputed hstored hdisputed hstore
    exact hkept'
  | disputedBefore hfound hdisputed =>
    obtain ⟨hstored, rfl, -, -⟩ := amendment?_of_disputableAmendment hkept hfound
    rw [Book.afterCommand, Book.dispute_of_disputed hkept.sound hstored hdisputed]
    exact hkept

section

variable [RelationshipEngine ρ] {params : Params} {actor : Did} {policyId : String}
  {transaction : Transaction} {command : Command}

/-- A commitment that was made is the next one, and it is as it was asked for. -/
theorem Effect.commitment_eq {commitment : Commitment} (hkept : Kept book host.store)
    (hwhole : params.commitmentValidity.IsWhole)
    (h : Effect params actor policyId transaction host command (.commitRegistrations commitment)
      host') :
    commitment.id.toNat = book.commitments.length + 1 ∧
      ∃ octets root, command = .commitRegistrations octets ∧
        Opening.rootOfOctets octets = .ok root ∧ commitment = ⟨commitment.id, policyId, root, false,
          params.commitmentValidity, transaction.provenance actor⟩ := by
  cases h with
  | commitRegistrations _ hroot hstore =>
    obtain ⟨hid, hcommitment, -⟩ := hkept.of_run_createCommitment hwhole hstore
    exact ⟨hid, _, _, rfl, hroot, hcommitment⟩

/-- An amendment that was made is the next one, and it says what was opened, and who owned the
object just before. -/
theorem Effect.amendment_eq {record : RelationshipRecord} {amendment : Amendment}
    (hkept : Kept book host.store)
    (h : Effect params actor policyId transaction host command
      (.revealRegistration record amendment) host') :
    amendment.id.toNat = book.amendments.length + 1 ∧
      ∃ commitmentId proof found, command = .revealRegistration commitmentId proof ∧
        RelationshipEngine.registration? host.engine policyId proof.object = .ok found ∧
        amendment = ⟨amendment.id, policyId, proof.object, actor,
          found.map RelationshipRecord.owner, commitmentId, false,
          transaction.provenance actor⟩ := by
  cases h with
  | registered hcommitment hregistration hstore _ =>
    obtain ⟨hid, hamendment, -⟩ := hkept.of_run_createAmendment hstore
    obtain ⟨-, hnumber, hpolicy⟩ := commitment?_of_openedCommitment hkept hcommitment
    rw [hpolicy, hnumber] at hamendment
    exact ⟨hid, _, _, none, rfl, hregistration, hamendment⟩
  | takenOver hcommitment hregistration _ _ hstore _ =>
    obtain ⟨hid, hamendment, -⟩ := hkept.of_run_createAmendment hstore
    obtain ⟨-, hnumber, hpolicy⟩ := commitment?_of_openedCommitment hkept hcommitment
    rw [hpolicy, hnumber] at hamendment
    exact ⟨hid, _, _, some _, rfl, hregistration, hamendment⟩

/-- An amendment is disputed by whom it took the object from, in its policy. -/
theorem Effect.disputed_eq {amendment : Amendment} (hkept : Kept book host.store)
    (h : Effect params actor policyId transaction host command (.flagHijackAttempt amendment)
      host') :
    command = .flagHijackAttempt amendment.id ∧
      ∃ found, book.amendment? amendment.id = some found ∧ amendment = found.asDisputed ∧
        found.policyId = policyId ∧ found.previousOwner = some actor := by
  cases h with
  | disputed hfound hdisputed hstore =>
    obtain ⟨hbook, rfl, hpolicy, hprevious⟩ := amendment?_of_disputableAmendment hkept hfound
    obtain ⟨rfl, -⟩ := hkept.of_run_markDisputed hbook hdisputed hstore
    exact ⟨rfl, _, hbook, rfl, hpolicy, hprevious⟩
  | disputedBefore hfound hdisputed =>
    obtain ⟨hbook, rfl, hpolicy, hprevious⟩ := amendment?_of_disputableAmendment hkept hfound
    refine ⟨rfl, _, hbook, ?_, hpolicy, hprevious⟩
    rw [Amendment.asDisputed, ← hdisputed]

end

/-! ### Sweeps -/

/-- What keys lead to are commitments of the book. -/
theorem commitment?_of_commitmentsUnder_eq_ok {store : σ} {start : Bytes}
    {commitments : List Commitment} (hkept : Kept book store)
    (h : commitmentsUnder start store = .ok commitments) :
    ∀ commitment ∈ commitments, book.commitment? commitment.id = some commitment := by
  intro commitment hcommitment
  simp only [commitmentsUnder, bind_eq_ok_iff] at h
  obtain ⟨entries, -, hentries⟩ := h
  obtain ⟨entry, -, hentry⟩ := exists_of_mapM_eq_ok hentries commitment hcommitment
  simp only [indexedCommitment, bind_eq_ok_iff, hkept.commitment?_eq] at hentry
  obtain ⟨id, -, found, hfound, hentry⟩ := hentry
  cases hfound
  cases hstored : book.commitment? id with
  | none =>
    rw [hstored] at hentry
    cases hentry
  | some stored =>
    rw [hstored] at hentry
    cases hentry
    rw [(hkept.sound.commitment?_eq_some_iff.mp hstored).2, hstored]

/-- Marking a list of commitments, each of which is in the book, marked or not. -/
theorem kept_of_run_markExpired {now : Timestamp} {commitments marked : List Commitment}
    (hkept : Kept book host.store)
    (hfound : ∀ commitment ∈ commitments, ∃ found, book.commitment? commitment.id = some found ∧
      found.asExpired = commitment.asExpired)
    (hrun : (markExpired now commitments).run host = (.ok marked, host')) :
    Kept (book.afterSweep marked) host'.store ∧ host'.engine = host.engine ∧
      ∀ commitment' ∈ marked, ∃ commitment ∈ commitments,
        commitment' = commitment.asExpired ∧ commitment.isExpiredAt now = true := by
  induction commitments generalizing book host marked with
  | nil =>
    rw [markExpired, Action.run_pure_eq_ok_iff] at hrun
    obtain ⟨rfl, rfl⟩ := hrun
    exact ⟨hkept, rfl, fun _ h => by cases h⟩
  | cons first rest ih =>
    obtain ⟨hfirst, hrest⟩ := List.forall_mem_cons.mp hfound
    rw [markExpired] at hrun
    split at hrun
    · rename_i hexpired
      simp only [Action.run_bind_eq_ok_iff, Action.run_pure_eq_ok_iff, run_onStore_eq_ok_iff]
        at hrun
      obtain ⟨first', _, ⟨store, hmark, rfl⟩, others, _, hothers, rfl, rfl⟩ := hrun
      obtain ⟨found, hstored, hsame⟩ := hfirst
      obtain ⟨rfl, hkept'⟩ := hkept.of_run_markExpired hstored hsame hmark
      -- The first one is marked now, should it come up again.
      have hrest' : ∀ commitment ∈ rest, ∃ found,
          (book.expire first.id).commitment? commitment.id = some found ∧
            found.asExpired = commitment.asExpired := by
        intro commitment hcommitment
        obtain ⟨found, hstored, hsame⟩ := hrest commitment hcommitment
        rw [Book.commitment?_expire, hstored]
        split
        · exact ⟨found.asExpired, rfl, hsame⟩
        · exact ⟨found, rfl, hsame⟩
      obtain ⟨hfinal, hengine, hmarked⟩ := ih hkept' hrest' hothers
      refine ⟨hfinal, hengine, List.forall_mem_cons.mpr ⟨?_, fun commitment' h => ?_⟩⟩
      · exact ⟨first, List.mem_cons_self .., rfl, hexpired⟩
      · obtain ⟨commitment, hmem, h⟩ := hmarked commitment' h
        exact ⟨commitment, List.mem_cons_of_mem _ hmem, h⟩
    · obtain ⟨hfinal, hengine, hmarked⟩ := ih hkept hrest hrun
      refine ⟨hfinal, hengine, fun commitment' h => ?_⟩
      obtain ⟨commitment, hmem, h⟩ := hmarked commitment' h
      exact ⟨commitment, List.mem_cons_of_mem _ hmem, h⟩

/-- **A sweep marks commitments that have expired**, and returns them as they are then. -/
theorem kept_of_run_sweepExpired {now : Timestamp} {marked : List Commitment}
    (hkept : Kept book host.store)
    (hrun : (sweepExpired now).run host = (.ok marked, host')) :
    Kept (book.afterSweep marked) host'.store ∧ host'.engine = host.engine ∧
      ∀ commitment' ∈ marked, ∃ commitment ∈ book.commitments,
        commitment' = commitment.asExpired ∧ commitment.isExpiredAt now = true := by
  simp only [sweepExpired, Action.run_bind_eq_ok_iff, Action.run_read_eq_ok_iff,
    readStore_eq_ok_iff] at hrun
  obtain ⟨commitments, _, ⟨hread, rfl⟩, hmark⟩ := hrun
  have hstored := commitment?_of_commitmentsUnder_eq_ok hkept hread
  obtain ⟨hfinal, hengine, hmarked⟩ := kept_of_run_markExpired hkept
    (fun commitment h => ⟨commitment, hstored commitment h, rfl⟩) hmark
  refine ⟨hfinal, hengine, fun commitment' h => ?_⟩
  obtain ⟨commitment, hmem, h⟩ := hmarked commitment' h
  exact ⟨commitment, (hkept.sound.commitment?_eq_some_iff.mp (hstored commitment hmem)).1, h⟩

end Host

end AccessControl
