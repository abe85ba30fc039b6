import AccessControl.Proofs.Registration.Book
import AccessControl.Proofs.Store.Sequence

/-!
# The repository keeps a book

`Kept` says that a lawful store keeps a book: its entries are those that the book gives to the keys.
Then reading a record is looking it up in the book, and each operation of the repository that
succeeds makes the change to the book that it is named for. Since overlays are lawful stores, all of
this holds of held-back writes as well.
-/

namespace AccessControl.Repository

open LawfulStore

/-! ### Numbers of sound books -/

theorem Numbered.length_lt {α : Type} {id : α → UInt64} {records : List α}
    (h : Numbered id records) : records.length < UInt64.size := by
  rcases Nat.eq_zero_or_pos records.length with hzero | hpos
  · rw [hzero]
    decide
  · have hlast : records.length ∈ List.range' 1 records.length :=
      List.mem_range'_1.mpr ⟨hpos, by omega⟩
    rw [← h] at hlast
    obtain ⟨record, -, hrecord⟩ := List.mem_map.mp hlast
    rw [← hrecord]
    exact (id record).toNat_lt

/-- The number after a count is that of the next count. -/
theorem toNat_ofNat_add_one {count : Nat} (hroom : count + 1 < UInt64.size) :
    (UInt64.ofNat count).toNat + 1 = (UInt64.ofNat (count + 1)).toNat := by
  rw [UInt64.toNat_ofNat_of_lt' hroom, UInt64.toNat_ofNat_of_lt' (by omega)]

/-- A store keeps a book. -/
structure Kept {σ : Type} [Store σ] [LawfulStore σ] (book : Book) (store : σ) : Prop where
  sound : book.Sound
  shows : Shows (contents store) book.value?

namespace Kept

variable {σ : Type} [Store σ] [LawfulStore σ] {book : Book} {store store' : σ}

/-- A store without entries keeps the empty book. -/
theorem empty (h : contents store = .empty) : Kept .empty store where
  sound := Book.sound_empty
  shows := by
    have hview : Book.empty.value? = fun _ => none := by
      funext key
      cases key <;> rfl
    rw [h, hview]
    exact Shows.empty

/-! ### Reading -/

theorem get?_eq (h : Kept book store) (key : Key) :
    Store.get? store key.octets = .ok (book.value? key) := by
  rw [LawfulStore.get?_eq, h.shows.get?_eq]

/-- **The commitment with a number is the one in the book.** -/
theorem commitment?_eq (h : Kept book store) (id : UInt64) :
    commitment? id store = .ok (book.commitment? id) := by
  have hget := h.get?_eq (.commitment id)
  rw [Book.value?] at hget
  rw [Repository.commitment?, Store.record?,
    show commitmentKey id = Key.octets (.commitment id) from rfl, hget]
  cases hfound : book.commitment? id with
  | none => rfl
  | some commitment =>
    obtain ⟨hmem, -⟩ := h.sound.commitment?_eq_some_iff.mp hfound
    show (Store.decodeRecord _ _ commitment.toJson.render >>= _) = _
    rw [commitment.decodeRecord_render _ (h.sound.isWhole _ hmem), h.sound.civil_commitment _ hmem]
    rfl

/-- **The amendment with a number is the one in the book.** -/
theorem amendment?_eq (h : Kept book store) (id : UInt64) :
    amendment? id store = .ok (book.amendment? id) := by
  have hget := h.get?_eq (.amendment id)
  rw [Book.value?] at hget
  rw [Repository.amendment?, Store.record?, show amendmentKey id = Key.octets (.amendment id) from
    rfl, hget]
  cases hfound : book.amendment? id with
  | none => rfl
  | some amendment =>
    obtain ⟨hmem, -⟩ := h.sound.amendment?_eq_some_iff.mp hfound
    show (Store.decodeRecord _ _ amendment.toJson.render >>= _) = _
    rw [amendment.decodeRecord_render, h.sound.civil_amendment _ hmem]
    rfl

/-- A counter of the repository holds how many records there are. -/
theorem current_eq {sequence : Sequence} {count : Nat}
    (h : Store.get? store sequence.key = .ok (Book.count? count)) :
    sequence.current store = .ok (UInt64.ofNat count) := by
  rw [LawfulStore.get?_eq] at h
  have h := Except.ok.inj h
  rw [Book.count?] at h
  split at h
  · rename_i hzero
    rw [hzero]
    exact Sequence.current_eq_of_get?_eq_none h
  · exact Sequence.current_eq_of_get?_eq_some h

theorem current_commitmentSequence (h : Kept book store) :
    commitmentSequence.current store = .ok (UInt64.ofNat book.commitments.length) :=
  current_eq (h.get?_eq .commitmentCount)

theorem current_amendmentSequence (h : Kept book store) :
    amendmentSequence.current store = .ok (UInt64.ofNat book.amendments.length) :=
  current_eq (h.get?_eq .amendmentCount)

/-! ### Operations -/

variable {policyId : String} {root : Digest} {validity : Validity} {provenance : Provenance}
  {commitment found marked : Commitment} {object : Object} {newOwner : Did}
  {previousOwner : Option Did} {commitmentId : UInt64} {amendment : Amendment}

theorem contents_of_run_writeRecord {key : Bytes} {record : Json} {result : Unit}
    (h : (Store.writeRecord key record).run store = (.ok result, store')) :
    contents store' = (contents store).insert key record.render :=
  contents_of_run_write h

/-- **A commitment that is created is the next one in the book.** -/
theorem of_run_createCommitment (h : Kept book store) (hwhole : validity.IsWhole)
    (hrun : (createCommitment policyId root validity provenance).run store =
      (.ok commitment, store')) :
    commitment.id.toNat = book.commitments.length + 1 ∧
      commitment = ⟨commitment.id, policyId, root, false, validity, provenance⟩ ∧
      Kept (book.addCommitment commitment) store' := by
  simp only [createCommitment, Action.run_bind_eq_ok_iff, Action.run_pure_eq_ok_iff] at hrun
  obtain ⟨id, store₁, hnext, _, store₂, hrecord, _, store₃, hexpiry, _, store₄, hroot, rfl, rfl⟩ :=
    hrun
  obtain ⟨hid, hcount⟩ := Sequence.of_run_next h.current_commitmentSequence hnext
  rw [UInt64.toNat_ofNat_of_lt' h.sound.commitments_numbered.length_lt] at hid
  refine ⟨hid.symm, rfl, h.sound.addCommitment hid.symm hwhole, ?_⟩
  rw [contents_of_run_write hroot, contents_of_run_write hexpiry,
    contents_of_run_writeRecord hrecord, hcount, Book.value?_addCommitment h.sound hid.symm]
  exact (((h.shows.insert .commitmentCount _).insert (.commitment id) _).insert
    (.expiry false id) _).insert (.root root id) _

/-- **Marking a commitment as expired marks it in the book.** It may have been marked since it was
read. -/
theorem of_run_markExpired (h : Kept book store)
    (hfound : book.commitment? commitment.id = some found)
    (hsame : found.asExpired = commitment.asExpired)
    (hrun : (markExpired commitment).run store = (.ok marked, store')) :
    marked = commitment.asExpired ∧ Kept (book.expire commitment.id) store' := by
  simp only [markExpired, Action.run_bind_eq_ok_iff, Action.run_pure_eq_ok_iff] at hrun
  obtain ⟨_, store₁, hrecord, _, store₂, hremove, _, store₃, hexpiry, rfl, rfl⟩ := hrun
  refine ⟨rfl, h.sound.expire _, ?_⟩
  rw [contents_of_run_write hexpiry, contents_of_run_remove hremove,
    contents_of_run_writeRecord hrecord, Book.value?_expire hfound, hsame]
  exact ((h.shows.insert (.commitment commitment.id) _).erase
    (.expiry false commitment.id)).insert (.expiry true commitment.id) _

/-- To create an amendment is to write its number to the counter and then the record. -/
theorem contents_of_run_createAmendment {last : UInt64}
    (hcurrent : amendmentSequence.current store = .ok last)
    (hrun : (createAmendment policyId object newOwner previousOwner commitmentId provenance).run
      store = (.ok amendment, store')) :
    last.toNat + 1 = amendment.id.toNat ∧
      amendment = ⟨amendment.id, policyId, object, newOwner, previousOwner, commitmentId, false,
        provenance⟩ ∧
      contents store' = ((contents store).insert amendmentSequence.key
        (Sequence.octets amendment.id)).insert (amendmentKey amendment.id)
          amendment.toJson.render := by
  simp only [createAmendment, Action.run_bind_eq_ok_iff, Action.run_pure_eq_ok_iff] at hrun
  obtain ⟨id, store₁, hnext, _, store₂, hrecord, rfl, rfl⟩ := hrun
  obtain ⟨hid, hcount⟩ := Sequence.of_run_next hcurrent hnext
  exact ⟨hid, rfl, by rw [contents_of_run_writeRecord hrecord, hcount]⟩

/-- **An amendment that is created is the next one in the book.** -/
theorem of_run_createAmendment (h : Kept book store)
    (hrun : (createAmendment policyId object newOwner previousOwner commitmentId provenance).run
      store = (.ok amendment, store')) :
    amendment.id.toNat = book.amendments.length + 1 ∧
      amendment = ⟨amendment.id, policyId, object, newOwner, previousOwner, commitmentId, false,
        provenance⟩ ∧
      Kept (book.addAmendment amendment) store' := by
  obtain ⟨hid, hamendment, hcontents⟩ :=
    contents_of_run_createAmendment h.current_amendmentSequence hrun
  rw [UInt64.toNat_ofNat_of_lt' h.sound.amendments_numbered.length_lt] at hid
  have hdisputed : amendment.disputed = false := congrArg Amendment.disputed hamendment
  refine ⟨hid.symm, hamendment, h.sound.addAmendment hid.symm, ?_⟩
  rw [hcontents, Book.value?_addAmendment h.sound hid.symm hdisputed]
  exact (h.shows.insert .amendmentCount _).insert (.amendment amendment.id) _

/-- Amendments are created as long as there are numbers for them. -/
theorem exists_run_createAmendment (h : Kept book store)
    (hroom : book.amendments.length + 1 < UInt64.size) :
    ∃ amendment store', (createAmendment policyId object newOwner previousOwner commitmentId
      provenance).run store = (.ok amendment, store') := by
  obtain ⟨store₁, hnext⟩ :=
    Sequence.exists_run_next h.current_amendmentSequence (toNat_ofNat_add_one hroom)
  obtain ⟨store₂, hrecord, -⟩ := exists_run_write store₁
    (amendmentKey (UInt64.ofNat (book.amendments.length + 1))) (Amendment.toJson
      ⟨UInt64.ofNat (book.amendments.length + 1), policyId, object, newOwner, previousOwner,
        commitmentId, false, provenance⟩).render
  simp only [createAmendment, Action.run_bind_eq_ok_iff, Action.run_pure_eq_ok_iff]
  exact ⟨_, store₂, _, store₁, hnext, (), store₂, hrecord, rfl, rfl⟩

/-- Commitments are created as long as there are numbers for them. -/
theorem exists_run_createCommitment (h : Kept book store)
    (hroom : book.commitments.length + 1 < UInt64.size) :
    ∃ commitment store', (createCommitment policyId root validity provenance).run store =
      (.ok commitment, store') := by
  have hnumber := toNat_ofNat_add_one hroom
  generalize UInt64.ofNat (book.commitments.length + 1) = id at hnumber
  obtain ⟨store₁, hnext⟩ := Sequence.exists_run_next h.current_commitmentSequence hnumber
  obtain ⟨store₂, hrecord, -⟩ := exists_run_write store₁ (commitmentKey id)
    (Commitment.toJson ⟨id, policyId, root, false, validity, provenance⟩).render
  obtain ⟨store₃, hexpiry, -⟩ := exists_run_write store₂ (expiredIndex false ++ idOctets id) []
  obtain ⟨store₄, hroot, -⟩ := exists_run_write store₃ (rootIndex root ++ idOctets id) []
  simp only [createCommitment, Action.run_bind_eq_ok_iff, Action.run_pure_eq_ok_iff]
  exact ⟨_, store₄, id, store₁, hnext, (), store₂, hrecord, (), store₃, hexpiry, (), store₄, hroot,
    rfl, rfl⟩

/-- Without a number for it, no commitment is created, and nothing is written. -/
theorem run_createCommitment_eq_error (h : Kept book store)
    (hfull : UInt64.size ≤ book.commitments.length + 1) :
    (createCommitment policyId root validity provenance).run store =
      (.error .sequenceExhausted, store) := by
  have hlength := UInt64.toNat_ofNat_of_lt' h.sound.commitments_numbered.length_lt
  rw [createCommitment, Action.run_bind,
    Sequence.run_next_eq_error h.current_commitmentSequence (by rw [hlength]; exact hfull)]

/-- Without a number for it, no amendment is created, and nothing is written. -/
theorem run_createAmendment_eq_error (h : Kept book store)
    (hfull : UInt64.size ≤ book.amendments.length + 1) :
    (createAmendment policyId object newOwner previousOwner commitmentId provenance).run store =
      (.error .sequenceExhausted, store) := by
  have hlength := UInt64.toNat_ofNat_of_lt' h.sound.amendments_numbered.length_lt
  rw [createAmendment, Action.run_bind,
    Sequence.run_next_eq_error h.current_amendmentSequence (by rw [hlength]; exact hfull)]

/-- **Disputing an amendment marks it in the book.** -/
theorem of_run_markDisputed {marked : Amendment} (h : Kept book store)
    (hfound : book.amendment? amendment.id = some amendment)
    (hdisputed : amendment.disputed = false)
    (hrun : (markDisputed amendment).run store = (.ok marked, store')) :
    marked = amendment.asDisputed ∧ Kept (book.dispute amendment.id) store' := by
  simp only [markDisputed, Action.run_bind_eq_ok_iff, Action.run_pure_eq_ok_iff] at hrun
  obtain ⟨_, store₁, hrecord, _, store₂, hentry, rfl, rfl⟩ := hrun
  refine ⟨rfl, h.sound.dispute _, ?_⟩
  rw [contents_of_run_write hentry, contents_of_run_writeRecord hrecord,
    Book.value?_dispute hfound hdisputed]
  exact (h.shows.insert (.amendment amendment.id) _).insert
    (.dispute amendment.policyId amendment.id) _

/-- An amendment can always be disputed. -/
theorem exists_run_markDisputed (store : σ) (amendment : Amendment) :
    ∃ store', (markDisputed amendment).run store = (.ok amendment.asDisputed, store') := by
  obtain ⟨store₁, hrecord, -⟩ := exists_run_write store (amendmentKey amendment.id)
    amendment.asDisputed.toJson.render
  obtain ⟨store₂, hentry, -⟩ := exists_run_write store₁
    (disputeIndex amendment.policyId ++ idOctets amendment.id) []
  refine ⟨store₂, ?_⟩
  simp only [markDisputed, Action.run_bind_eq_ok_iff, Action.run_pure_eq_ok_iff]
  exact ⟨(), store₁, hrecord, (), store₂, hentry, rfl, rfl⟩

end Kept

end AccessControl.Repository
