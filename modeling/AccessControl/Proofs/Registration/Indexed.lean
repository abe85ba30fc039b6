import AccessControl.Proofs.Registration.Repository
import AccessControl.Proofs.Store.Order

/-!
# The indexes agree with the records

`Indexed` says of a store, in terms of its own calls, that it has certain commitments and amendments
and nothing else: the counters count them, the records are found under their numbers, and every
index lists exactly the records that belong there, in the order of their numbers. A store that keeps
a book is indexed (`Kept.indexed`), as long as the names of the policies are short enough for their
lengths to be written before them.

All of this comes down to `entriesUnder_of_shows`. The entries with a common beginning are those of
the records that the index is for, since no other key begins in this way, and they are in order,
since the numbers at the ends of their keys are.
-/

namespace AccessControl.Repository

open LawfulStore

/-- A store has the commitments and the amendments, and indexes that agree with them. -/
structure Indexed {σ : Type} [Store σ] (store : σ) (commitments : List Commitment)
    (amendments : List Amendment) : Prop where
  /-- The numbers of the commitments are 1, 2, 3 and so on up to the stored counter. -/
  commitments_numbered : Numbered Commitment.id commitments
  commitmentCount_eq :
    (commitmentSequence.current store).map UInt64.toNat = .ok commitments.length
  /-- The numbers of the amendments are 1, 2, 3 and so on up to the stored counter. -/
  amendments_numbered : Numbered Amendment.id amendments
  amendmentCount_eq : (amendmentSequence.current store).map UInt64.toNat = .ok amendments.length
  /-- Each record is stored under its own number, and no other record is stored. -/
  scan_commitments : Store.scan store KeySpace.commitment.start =
    .ok (commitments.map fun commitment => (commitmentKey commitment.id, commitment.toJson.render))
  scan_amendments : Store.scan store KeySpace.amendment.start =
    .ok (amendments.map fun amendment => (amendmentKey amendment.id, amendment.toJson.render))
  commitment?_eq : ∀ id,
    commitment? id store = .ok (commitments.find? fun commitment => commitment.id = id)
  amendment?_eq : ∀ id,
    amendment? id store = .ok (amendments.find? fun amendment => amendment.id = id)
  /-- A commitment is on the side of the index that its mark says. -/
  scan_expired : ∀ expired, Store.scan store (expiredIndex expired) =
    .ok ((commitments.filter fun commitment => commitment.expired = expired).map
      fun commitment => (expiredIndex expired ++ idOctets commitment.id, []))
  /-- A commitment is listed under its root. -/
  scan_root : ∀ root, Store.scan store (rootIndex root) =
    .ok ((commitments.filter fun commitment => commitment.root = root).map
      fun commitment => (rootIndex root ++ idOctets commitment.id, []))
  /-- An amendment is listed under its policy if it is disputed. -/
  scan_dispute : ∀ policyId, Store.scan store (disputeIndex policyId) =
    .ok ((amendments.filter
        fun amendment => amendment.disputed && amendment.policyId = policyId).map
      fun amendment => (disputeIndex policyId ++ idOctets amendment.id, []))
  /-- There are no other entries. -/
  exists_key : ∀ octets value, Store.get? store octets = .ok (some value) →
    ∃ key : Key, key.octets = octets
  activeCommitments_eq :
    activeCommitments store = .ok (commitments.filter fun commitment => commitment.expired = false)
  commitmentsByRoot_eq : ∀ root,
    commitmentsByRoot root store = .ok (commitments.filter fun commitment => commitment.root = root)
  disputedAmendments_eq : ∀ policyId, disputedAmendments policyId store =
    .ok (amendments.filter fun amendment => amendment.disputed && amendment.policyId = policyId)

/-! ### Numbers at the ends of keys -/

/-- The keys of an index are in the order of their numbers. -/
theorem compare_append_idOctets {start : Bytes} {id id' : UInt64} (h : id.toNat < id'.toNat) :
    compare (start ++ idOctets id) (start ++ idOctets id') = .lt := by
  have hlt := id'.toNat_lt
  rw [Bytes.compare_append_left]
  refine Bytes.compare_bigEndian h ?_
  rwa [show Bytes.capacity 8 = 2 ^ 64 from rfl]

theorem Numbered.pairwise_lt {α : Type} {id : α → UInt64} {records : List α}
    (h : Numbered id records) :
    records.Pairwise fun first second => (id first).toNat < (id second).toNat := by
  have hnumbers : (records.map fun record => (id record).toNat).Pairwise (· < ·) := by
    rw [show records.map (fun record => (id record).toNat) = _ from h]
    exact List.pairwise_lt_range'
  exact List.pairwise_map.mp hnumbers

theorem trailingId_append (start : Bytes) (id : UInt64) :
    trailingId (start ++ idOctets id) = .ok id := by
  have hlength := length_idOctets id
  have hdrop : (start ++ idOctets id).drop ((start ++ idOctets id).length - 8) = idOctets id := by
    rw [List.length_append, hlength, Nat.add_sub_cancel, List.drop_left]
  rw [trailingId, if_pos (by rw [List.length_append, hlength]; omega), hdrop]
  exact congrArg Except.ok (Sequence.ofOctets_octets id)

/-! ### What a scan finds -/

section

variable {α : Type} {id : α → UInt64} {records : List α} {entries : SortedMap Bytes Bytes}
  {view : Key → Option Bytes} {start : Bytes}

/-- **A scan lists the records that an index is for**, if it says of each number whether it is the
number of such a record, and other keys do not begin in the same way. -/
theorem entriesUnder_of_shows (hnumbered : Numbered id records) (hshows : Shows entries view)
    (key : UInt64 → Key) (hkey : ∀ number, (key number).octets = start ++ idOctets number)
    (holds : α → Bool) (value : α → Bytes)
    (hview : ∀ number, view (key number) = ((find? id records number).filter holds).map value)
    (honly : ∀ other : Key, start <+: other.octets → (view other).isSome →
      ∃ number, other = key number) :
    entries.entriesUnder start =
      (records.filter holds).map fun record => (start ++ idOctets (id record), value record) := by
  have hsorted : ((records.filter holds).map fun record =>
      (start ++ idOctets (id record), value record)).Pairwise
        fun first second => compare first.1 second.1 = .lt := by
    rw [List.pairwise_map]
    exact (hnumbered.pairwise_lt.filter _).imp compare_append_idOctets
  -- Both lists are ascending, so it is enough that they have the same entries.
  refine SortedMap.eq_of_lookup_eq (Overlay.sorted_entriesUnder _ _) hsorted fun octets => ?_
  refine Option.ext fun found => ?_
  rw [Overlay.lookup_entriesUnder, SortedMap.lookup_eq_some_iff hsorted, List.mem_map]
  constructor
  · intro h
    obtain ⟨hbegins, hget⟩ : start.isPrefixOf octets = true ∧ entries.get? octets = some found := by
      simpa using h
    obtain ⟨other, rfl⟩ := hshows.exists_key _ _ hget
    rw [hshows.get?_eq] at hget
    obtain ⟨number, rfl⟩ := honly other (List.isPrefixOf_iff_prefix.mp hbegins)
      (Option.isSome_iff_exists.mpr ⟨found, hget⟩)
    rw [hview, Option.map_eq_some_iff] at hget
    obtain ⟨record, hrecord, rfl⟩ := hget
    obtain ⟨hfound, hholds⟩ := Option.filter_eq_some_iff.mp hrecord
    obtain ⟨hmem, rfl⟩ := hnumbered.find?_eq_some_iff.mp hfound
    exact ⟨record, List.mem_filter.mpr ⟨hmem, hholds⟩, by rw [hkey]⟩
  · rintro ⟨record, hrecord, heq⟩
    obtain ⟨hmem, hholds⟩ := List.mem_filter.mp hrecord
    obtain ⟨rfl, rfl⟩ := Prod.mk.inj heq
    have hfound := hnumbered.find?_eq_some_iff.mpr ⟨hmem, rfl⟩
    rw [if_pos (List.isPrefixOf_iff_prefix.mpr (List.prefix_append _ _)), ← hkey, hshows.get?_eq,
      hview, hfound, Option.filter_some_pos hholds, Option.map_some]

/-- A scan lists all records, if these are what the keys with the beginning lead to. -/
theorem entriesUnder_of_shows_records (hnumbered : Numbered id records)
    (hshows : Shows entries view) (key : UInt64 → Key)
    (hkey : ∀ number, (key number).octets = start ++ idOctets number) (value : α → Bytes)
    (hview : ∀ number, view (key number) = (find? id records number).map value)
    (honly : ∀ other : Key, start <+: other.octets → ∃ number, other = key number) :
    entries.entriesUnder start =
      records.map fun record => (start ++ idOctets (id record), value record) := by
  have hall : ∀ number, view (key number) =
      ((find? id records number).filter fun _ => true).map value := by
    intro number
    rw [hview]
    cases find? id records number <;> rfl
  rw [entriesUnder_of_shows hnumbered hshows key hkey _ value hall fun other h _ => honly other h,
    List.filter_true]

/-- An entry without a value says whether there is a record. -/
theorem entry_eq_map_filter (found : Option α) (holds : α → Bool) :
    (if found.any holds then some [] else none : Option Bytes) =
      (found.filter holds).map fun _ => [] := by
  cases found with
  | none => rfl
  | some record => cases h : holds record <;> simp [Option.filter, h]

end

/-! ### Stores that keep a book -/

namespace Kept

variable {σ : Type} [Store σ] [LawfulStore σ] {book : Book} {store : σ}

theorem toNat_ofNat_length (h : Kept book store) :
    (UInt64.ofNat book.commitments.length).toNat = book.commitments.length ∧
      (UInt64.ofNat book.amendments.length).toNat = book.amendments.length :=
  ⟨UInt64.toNat_ofNat_of_lt' h.sound.commitments_numbered.length_lt,
    UInt64.toNat_ofNat_of_lt' h.sound.amendments_numbered.length_lt⟩

theorem scan_commitments (h : Kept book store) :
    Store.scan store KeySpace.commitment.start = .ok (book.commitments.map
      fun commitment => (commitmentKey commitment.id, commitment.toJson.render)) := by
  rw [scan_eq]
  exact congrArg Except.ok (entriesUnder_of_shows_records h.sound.commitments_numbered h.shows
    .commitment (fun _ => rfl) _ (fun _ => rfl)
    fun _ => Key.exists_eq_commitment_of_prefix)

theorem scan_amendments (h : Kept book store) :
    Store.scan store KeySpace.amendment.start = .ok (book.amendments.map
      fun amendment => (amendmentKey amendment.id, amendment.toJson.render)) := by
  rw [scan_eq]
  exact congrArg Except.ok (entriesUnder_of_shows_records h.sound.amendments_numbered h.shows
    .amendment (fun _ => rfl) _ (fun _ => rfl)
    fun _ => Key.exists_eq_amendment_of_prefix)

theorem scan_expired (h : Kept book store) (expired : Bool) :
    Store.scan store (expiredIndex expired) =
      .ok ((book.commitments.filter fun commitment => commitment.expired = expired).map
        fun commitment => (expiredIndex expired ++ idOctets commitment.id, [])) := by
  rw [scan_eq, entriesUnder_of_shows h.sound.commitments_numbered h.shows (.expiry expired)
    (fun _ => rfl) _ (fun _ => []) (fun _ => entry_eq_map_filter _ _)
    fun other hbegins _ => Key.exists_eq_expiry_of_prefix hbegins]

theorem scan_root (h : Kept book store) (root : Digest) :
    Store.scan store (rootIndex root) =
      .ok ((book.commitments.filter fun commitment => commitment.root = root).map
        fun commitment => (rootIndex root ++ idOctets commitment.id, [])) := by
  rw [scan_eq, entriesUnder_of_shows h.sound.commitments_numbered h.shows (.root root)
    (fun _ => rfl) _ (fun _ => []) (fun _ => entry_eq_map_filter _ _)
    fun other hbegins _ => Key.exists_eq_root_of_prefix hbegins]

/-- An entry under another policy, whose name begins like this one, would be mistaken for one of
this policy if the length of its name could not be written. -/
theorem scan_dispute (h : Kept book store)
    (hshort : ∀ amendment ∈ book.amendments, amendment.policyId.utf8ByteSize < Bytes.capacity 4)
    (policyId : String) :
    Store.scan store (disputeIndex policyId) =
      .ok ((book.amendments.filter
          fun amendment => amendment.disputed && amendment.policyId = policyId).map
        fun amendment => (disputeIndex policyId ++ idOctets amendment.id, [])) := by
  rw [scan_eq, entriesUnder_of_shows h.sound.amendments_numbered h.shows (.dispute policyId)
    (fun _ => rfl) _ (fun _ => []) (fun _ => entry_eq_map_filter _ _) fun other hbegins hsome => ?_]
  obtain ⟨policyId', number, rfl, hsame⟩ := Key.exists_eq_dispute_of_prefix hbegins
  obtain ⟨amendment, hfound, hlisted⟩ : ∃ amendment, book.amendment? number = some amendment ∧
      amendment.policyId = policyId' := by
    rw [Book.value?, entry_eq_map_filter, Option.isSome_map, Option.isSome_iff_exists] at hsome
    obtain ⟨amendment, hamendment⟩ := hsome
    obtain ⟨hfound, hlisted⟩ := Option.filter_eq_some_iff.mp hamendment
    exact ⟨amendment, hfound, by simpa using (Bool.and_eq_true_iff.mp hlisted).2⟩
  have hmem := (h.sound.amendment?_eq_some_iff.mp hfound).1
  rw [hsame (hlisted ▸ hshort amendment hmem)]
  exact ⟨number, rfl⟩

/-- The keys of some commitments of the book lead to these commitments. -/
theorem commitmentsUnder_eq (h : Kept book store) {start : Bytes} {commitments : List Commitment}
    (hmem : ∀ commitment ∈ commitments, commitment ∈ book.commitments)
    (hscan : Store.scan store start =
      .ok (commitments.map fun commitment => (start ++ idOctets commitment.id, []))) :
    commitmentsUnder start store = .ok commitments := by
  have hread : ∀ commitment ∈ commitments,
      indexedCommitment store (start ++ idOctets commitment.id) = .ok commitment := by
    intro commitment hcommitment
    have hfound := h.sound.commitment?_eq_some_iff.mpr ⟨hmem commitment hcommitment, rfl⟩
    simp only [indexedCommitment, bind_eq_ok_iff, trailingId_append, h.commitment?_eq]
    exact ⟨_, rfl, _, rfl, by rw [hfound]; rfl⟩
  rw [commitmentsUnder, hscan]
  show (commitments.map _).mapM _ = _
  rw [List.mapM_map]
  exact (mapM_eq_ok_map hread).trans (congrArg Except.ok (List.map_id' _))

/-- The keys of some amendments of the book lead to these amendments. -/
theorem disputedAmendments_eq (h : Kept book store) {policyId : String}
    {amendments : List Amendment} (hmem : ∀ amendment ∈ amendments, amendment ∈ book.amendments)
    (hscan : Store.scan store (disputeIndex policyId) =
      .ok (amendments.map fun amendment => (disputeIndex policyId ++ idOctets amendment.id, []))) :
    disputedAmendments policyId store = .ok amendments := by
  have hread : ∀ amendment ∈ amendments,
      (trailingId (disputeIndex policyId ++ idOctets amendment.id) >>= fun id =>
        amendment? id store) = .ok (some amendment) := by
    intro amendment hamendment
    have hfound := h.sound.amendment?_eq_some_iff.mpr ⟨hmem amendment hamendment, rfl⟩
    rw [trailingId_append, ← hfound]
    exact h.amendment?_eq amendment.id
  rw [disputedAmendments, bind_eq_ok_iff]
  refine ⟨_, hscan, ?_⟩
  rw [List.mapM_map, bind_eq_ok_iff]
  refine ⟨amendments.map some, mapM_eq_ok_map hread, ?_⟩
  rw [List.filterMap_map]
  exact congrArg Except.ok List.filterMap_some

/-- The commitments that are not marked are read in the order of their numbers. -/
theorem activeCommitments_eq (h : Kept book store) :
    activeCommitments store =
      .ok (book.commitments.filter fun commitment => commitment.expired = false) :=
  h.commitmentsUnder_eq (fun _ => List.mem_of_mem_filter) (h.scan_expired false)

/-- **In a store that keeps a book, the indexes agree with the records.** -/
theorem indexed (h : Kept book store)
    (hshort : ∀ amendment ∈ book.amendments, amendment.policyId.utf8ByteSize < Bytes.capacity 4) :
    Indexed store book.commitments book.amendments where
  commitments_numbered := h.sound.commitments_numbered
  commitmentCount_eq := by
    rw [h.current_commitmentSequence]
    exact congrArg Except.ok h.toNat_ofNat_length.1
  amendments_numbered := h.sound.amendments_numbered
  amendmentCount_eq := by
    rw [h.current_amendmentSequence]
    exact congrArg Except.ok h.toNat_ofNat_length.2
  scan_commitments := h.scan_commitments
  scan_amendments := h.scan_amendments
  commitment?_eq := h.commitment?_eq
  amendment?_eq := h.amendment?_eq
  scan_expired := h.scan_expired
  scan_root := h.scan_root
  scan_dispute := h.scan_dispute hshort
  exists_key octets value hget := by
    rw [LawfulStore.get?_eq] at hget
    exact h.shows.exists_key octets value (Except.ok.inj hget)
  activeCommitments_eq := h.activeCommitments_eq
  commitmentsByRoot_eq root :=
    h.commitmentsUnder_eq (fun _ => List.mem_of_mem_filter) (h.scan_root root)
  disputedAmendments_eq policyId :=
    h.disputedAmendments_eq (fun _ => List.mem_of_mem_filter) (h.scan_dispute hshort policyId)

end Kept

end AccessControl.Repository
