import AccessControl.Proofs.Registration.Keys
import AccessControl.Proofs.Registration.Stored
import AccessControl.Proofs.Store.SortedMap
import Mathlib.Data.List.Nodup
import Mathlib.Logic.Function.Basic

/-!
# The book of the repository

What a repository keeps is a `Book`: its commitments and its amendments, each in the order of their
numbers. `Book.value?` says which value each key has then, records, counters and index entries
alike, and `Kept` that the entries of a store are exactly these.

The four ways in which a book changes are a commitment or an amendment more at its end, and a mark
at one that it has. Each is a few writes to the store; `Kept` survives all of them. A new record
enters the book with the time of creation that a clock shows, since this is what its text says.
-/

namespace AccessControl

/-- The commitment, marked as expired. -/
def Commitment.asExpired (commitment : Commitment) : Commitment :=
  { commitment with expired := true }

/-- The amendment, marked as disputed. -/
def Amendment.asDisputed (amendment : Amendment) : Amendment :=
  { amendment with disputed := true }

namespace Repository

/-! ### Views of a store -/

/-- The entries of a store are those that a view gives to keys of the repository. -/
structure Shows (entries : SortedMap Bytes Bytes) (view : Key → Option Bytes) : Prop where
  get?_eq : ∀ key : Key, entries.get? key.octets = view key
  /-- There are no others. -/
  exists_key : ∀ octets value, entries.get? octets = some value → ∃ key : Key, key.octets = octets

namespace Shows

variable {entries : SortedMap Bytes Bytes} {view : Key → Option Bytes}

theorem empty : Shows .empty fun _ => none where
  get?_eq _ := rfl
  exists_key _ _ h := by cases h

theorem insert (h : Shows entries view) (key : Key) (value : Bytes) :
    Shows (entries.insert key.octets value) (Function.update view key (some value)) where
  get?_eq other := by
    by_cases hother : other = key
    · rw [hother, SortedMap.get?_insert_self, Function.update_self]
    · rw [SortedMap.get?_insert_of_ne (mt Key.octets_inj hother), h.get?_eq,
        Function.update_of_ne hother]
  exists_key octets value' hoctets := by
    rcases SortedMap.get?_insert_eq_some_iff.mp hoctets with ⟨rfl, -⟩ | ⟨-, hold⟩
    · exact ⟨key, rfl⟩
    · exact h.exists_key _ _ hold

theorem erase (h : Shows entries view) (key : Key) :
    Shows (entries.erase key.octets) (Function.update view key none) where
  get?_eq other := by
    refine Option.ext fun value => ?_
    rw [SortedMap.get?_erase_eq_some_iff, h.get?_eq]
    by_cases hother : other = key
    · simp [hother]
    · simp [hother, mt Key.octets_inj hother]
  exists_key octets value hoctets :=
    h.exists_key _ _ (SortedMap.get?_erase_eq_some_iff.mp hoctets).2

variable {entries' : SortedMap Bytes Bytes} {view' : Key → Option Bytes}

/-- What is no key has no entry. -/
theorem get?_eq_none (h : Shows entries view) {octets : Bytes}
    (hkey : ¬ ∃ key : Key, key.octets = octets) : entries.get? octets = none :=
  Option.eq_none_iff_forall_ne_some.mpr fun value hvalue =>
    hkey (h.exists_key octets value hvalue)

/-- Where two views agree on a key, if it is one, the entries agree. -/
theorem get?_congr (h : Shows entries view) (h' : Shows entries' view') {octets : Bytes}
    (hview : ∀ key : Key, key.octets = octets → view key = view' key) :
    entries.get? octets = entries'.get? octets := by
  by_cases hkey : ∃ key : Key, key.octets = octets
  · obtain ⟨key, rfl⟩ := hkey
    rw [h.get?_eq, h'.get?_eq, hview key rfl]
  · rw [h.get?_eq_none hkey, h'.get?_eq_none hkey]

/-- A view leaves nothing open about the entries. -/
theorem eq (h : Shows entries view) (h' : Shows entries' view) : entries = entries' :=
  SortedMap.ext_get? fun _ => h.get?_congr h' fun _ _ => rfl

end Shows

/-! ### Numbered records -/

section Numbered

variable {α : Type} (id : α → UInt64) {records : List α} {record : α} {number : UInt64}

/-- Records whose numbers count from 1 on. -/
def Numbered (records : List α) : Prop :=
  records.map (fun record => (id record).toNat) = List.range' 1 records.length

/-- The record with a number. -/
def find? (records : List α) (number : UInt64) : Option α :=
  records.find? fun record => id record = number

/-- The records with a change made to the one with a number. -/
def update (change : α → α) (number : UInt64) (records : List α) : List α :=
  records.map fun record => if id record = number then change record else record

variable {id}

theorem Numbered.toNat_le (h : Numbered id records) (hmem : record ∈ records) :
    (id record).toNat ≤ records.length := by
  have hnumber : (id record).toNat ∈ List.range' 1 records.length := by
    rw [← h]
    exact List.mem_map_of_mem hmem
  have := (List.mem_range'_1.mp hnumber).2
  omega

/-- There is one record for each number. -/
theorem Numbered.find?_eq_some_iff (h : Numbered id records) :
    find? id records number = some record ↔ record ∈ records ∧ id record = number := by
  constructor
  · intro hfound
    exact ⟨List.mem_of_find?_eq_some hfound, by simpa using List.find?_some hfound⟩
  · rintro ⟨hmem, rfl⟩
    obtain ⟨found, hfound⟩ : ∃ found, find? id records (id record) = some found :=
      Option.isSome_iff_exists.mp (List.find?_isSome.mpr ⟨record, hmem, by simp⟩)
    have hnumber : id found = id record := by simpa using List.find?_some hfound
    have hnodup : (records.map fun record => (id record).toNat).Nodup := by
      rw [show records.map (fun record => (id record).toNat) = _ from h]
      exact List.nodup_range'
    rw [hfound, List.inj_on_of_nodup_map hnodup (List.mem_of_find?_eq_some hfound) hmem
      (congrArg UInt64.toNat hnumber)]

theorem Numbered.find?_of_lt (h : Numbered id records) (hlt : records.length < number.toNat) :
    find? id records number = none := by
  refine Option.eq_none_iff_forall_ne_some.mpr fun record hfound => ?_
  obtain ⟨hmem, rfl⟩ := h.find?_eq_some_iff.mp hfound
  have := h.toNat_le hmem
  omega

theorem Numbered.append (h : Numbered id records)
    (hnext : (id record).toNat = records.length + 1) : Numbered id (records ++ [record]) := by
  unfold Numbered at *
  rw [List.map_append, h, List.map_singleton, hnext, List.length_append, List.length_singleton,
    List.range'_concat, Nat.one_mul, Nat.add_comm 1]

/-- The next record is found under its number, the others where they were. -/
theorem Numbered.find?_append (h : Numbered id records)
    (hnext : (id record).toNat = records.length + 1) :
    find? id (records ++ [record]) number =
      if number = id record then some record else find? id records number := by
  have hnew : find? id records (id record) = none := h.find?_of_lt (by omega)
  unfold find? at *
  rw [List.find?_append]
  by_cases hnumber : number = id record
  · rw [if_pos hnumber, hnumber, hnew]
    simp
  · rw [if_neg hnumber]
    simp [Ne.symm hnumber]

theorem length_update (change : α → α) (number : UInt64) (records : List α) :
    (update id change number records).length = records.length :=
  List.length_map _

variable (change : α → α) (hkeeps : ∀ record, id (change record) = id record)
include hkeeps

theorem Numbered.update (h : Numbered id records) :
    Numbered id (update id change number records) := by
  unfold Numbered at *
  rw [length_update, Repository.update, List.map_map, ← h]
  refine List.map_congr_left fun record _ => ?_
  rw [Function.comp_apply]
  split
  · rw [hkeeps]
  · rfl

/-- The change shows under the number and nowhere else. -/
theorem find?_update {other : UInt64} :
    find? id (update id change number records) other =
      if other = number then (find? id records other).map change else find? id records other := by
  have hid : ∀ record, id (if id record = number then change record else record) = id record := by
    intro record
    split
    · rw [hkeeps]
    · rfl
  have hsame : ((fun record => decide (id record = other)) ∘ fun record =>
      if id record = number then change record else record) = fun record =>
      decide (id record = other) := by
    funext record
    rw [Function.comp_apply, hid]
  rw [find?, Repository.update, List.find?_map, hsame, ← find?]
  rcases hfound : find? id records other with _ | record
  · simp
  · have hnumber : id record = other := by simpa using List.find?_some hfound
    rw [Option.map_some, Option.map_some, hnumber]
    split <;> rfl

end Numbered

/-! ### Books -/

/-- What a repository keeps. -/
structure Book where
  /-- The commitments in the order of their numbers. -/
  commitments : List Commitment
  /-- The amendments in the order of their numbers. -/
  amendments : List Amendment

namespace Book

/-- The book of a store without entries. -/
def empty : Book := ⟨[], []⟩

variable (book : Book)

/-- The commitment with a number. -/
def commitment? (id : UInt64) : Option Commitment :=
  find? Commitment.id book.commitments id

/-- The amendment with a number. -/
def amendment? (id : UInt64) : Option Amendment :=
  find? Amendment.id book.amendments id

/-- The value of a counter. A counter that has not counted has none. -/
def count? (count : Nat) : Option Bytes :=
  if count = 0 then none else some (Sequence.octets (UInt64.ofNat count))

/-- The value of a key. -/
def value? : Key → Option Bytes
  | .commitmentCount => count? book.commitments.length
  | .commitment id => (book.commitment? id).map fun commitment => commitment.toJson.render
  | .expiry expired id =>
    if (book.commitment? id).any (·.expired = expired) then some [] else none
  | .root root id => if (book.commitment? id).any (·.root = root) then some [] else none
  | .amendmentCount => count? book.amendments.length
  | .amendment id => (book.amendment? id).map fun amendment => amendment.toJson.render
  | .dispute policyId id =>
    if (book.amendment? id).any fun amendment =>
      amendment.disputed && amendment.policyId = policyId then some [] else none

/-- The numbers in a book count from 1 on, and JSON can write its records. -/
structure Sound : Prop where
  commitments_numbered : Numbered Commitment.id book.commitments
  amendments_numbered : Numbered Amendment.id book.amendments
  isWhole : ∀ commitment ∈ book.commitments, commitment.validity.IsWhole
  civil_commitment : ∀ commitment ∈ book.commitments, commitment.civil = commitment
  civil_amendment : ∀ amendment ∈ book.amendments, amendment.civil = amendment

/-! ### Changes -/

/-- The book with one more commitment. -/
def addCommitment (commitment : Commitment) : Book :=
  { book with commitments := book.commitments ++ [commitment.civil] }

/-- The book with one more amendment. -/
def addAmendment (amendment : Amendment) : Book :=
  { book with amendments := book.amendments ++ [amendment.civil] }

/-- The book with a commitment marked as expired. -/
def expire (id : UInt64) : Book :=
  { book with
    commitments := update Commitment.id Commitment.asExpired id book.commitments }

/-- The book with an amendment marked as disputed. -/
def dispute (id : UInt64) : Book :=
  { book with
    amendments := update Amendment.id Amendment.asDisputed id book.amendments }

variable {book} {commitment : Commitment} {amendment : Amendment} {id other : UInt64}

/-! ### Lookups after a change -/

theorem Sound.commitment?_eq_some_iff (h : book.Sound) :
    book.commitment? id = some commitment ↔
      commitment ∈ book.commitments ∧ commitment.id = id :=
  h.commitments_numbered.find?_eq_some_iff

theorem Sound.amendment?_eq_some_iff (h : book.Sound) :
    book.amendment? id = some amendment ↔ amendment ∈ book.amendments ∧ amendment.id = id :=
  h.amendments_numbered.find?_eq_some_iff

theorem commitment?_addCommitment (h : book.Sound)
    (hnext : commitment.id.toNat = book.commitments.length + 1) :
    (book.addCommitment commitment).commitment? id =
      if id = commitment.id then some commitment.civil else book.commitment? id :=
  h.commitments_numbered.find?_append hnext

theorem amendment?_addAmendment (h : book.Sound)
    (hnext : amendment.id.toNat = book.amendments.length + 1) :
    (book.addAmendment amendment).amendment? id =
      if id = amendment.id then some amendment.civil else book.amendment? id :=
  h.amendments_numbered.find?_append hnext

theorem commitment?_expire :
    (book.expire id).commitment? other =
      if other = id then (book.commitment? other).map Commitment.asExpired
      else book.commitment? other :=
  find?_update Commitment.asExpired fun _ => rfl

theorem amendment?_dispute :
    (book.dispute id).amendment? other =
      if other = id then (book.amendment? other).map Amendment.asDisputed
      else book.amendment? other :=
  find?_update Amendment.asDisputed fun _ => rfl

/-! ### Changes keep books sound -/

theorem sound_empty : empty.Sound where
  commitments_numbered := rfl
  amendments_numbered := rfl
  isWhole _ h := by cases h
  civil_commitment _ h := by cases h
  civil_amendment _ h := by cases h

theorem Sound.addCommitment (h : book.Sound)
    (hnext : commitment.id.toNat = book.commitments.length + 1)
    (hwhole : commitment.validity.IsWhole) : (book.addCommitment commitment).Sound where
  commitments_numbered := h.commitments_numbered.append hnext
  amendments_numbered := h.amendments_numbered
  isWhole found hfound := by
    rcases List.mem_append.mp hfound with hold | hnew
    · exact h.isWhole _ hold
    · rw [List.mem_singleton.mp hnew]
      exact hwhole
  civil_commitment found hfound := by
    rcases List.mem_append.mp hfound with hold | hnew
    · exact h.civil_commitment _ hold
    · rw [List.mem_singleton.mp hnew, Commitment.civil_civil]
  civil_amendment := h.civil_amendment

theorem Sound.addAmendment (h : book.Sound)
    (hnext : amendment.id.toNat = book.amendments.length + 1) :
    (book.addAmendment amendment).Sound where
  commitments_numbered := h.commitments_numbered
  amendments_numbered := h.amendments_numbered.append hnext
  isWhole := h.isWhole
  civil_commitment := h.civil_commitment
  civil_amendment found hfound := by
    rcases List.mem_append.mp hfound with hold | hnew
    · exact h.civil_amendment _ hold
    · rw [List.mem_singleton.mp hnew, Amendment.civil_civil]

theorem Sound.expire (h : book.Sound) (id : UInt64) : (book.expire id).Sound where
  commitments_numbered := h.commitments_numbered.update Commitment.asExpired fun _ => rfl
  amendments_numbered := h.amendments_numbered
  isWhole found hfound := by
    obtain ⟨commitment, hcommitment, rfl⟩ := List.mem_map.mp hfound
    have hwhole := h.isWhole commitment hcommitment
    split <;> exact hwhole
  civil_commitment found hfound := by
    obtain ⟨commitment, hcommitment, rfl⟩ := List.mem_map.mp hfound
    have hcivil := h.civil_commitment commitment hcommitment
    split
    · exact congrArg Commitment.asExpired hcivil
    · exact hcivil
  civil_amendment := h.civil_amendment

theorem Sound.dispute (h : book.Sound) (id : UInt64) : (book.dispute id).Sound where
  commitments_numbered := h.commitments_numbered
  amendments_numbered := h.amendments_numbered.update Amendment.asDisputed fun _ => rfl
  isWhole := h.isWhole
  civil_commitment := h.civil_commitment
  civil_amendment found hfound := by
    obtain ⟨amendment, hamendment, rfl⟩ := List.mem_map.mp hfound
    have hcivil := h.civil_amendment amendment hamendment
    split
    · exact congrArg Amendment.asDisputed hcivil
    · exact hcivil

/-! ### Changes as writes -/

theorem count?_succ {count : Nat} (h : id.toNat = count + 1) :
    count? (count + 1) = some (Sequence.octets id) := by
  rw [count?, if_neg (Nat.succ_ne_zero _), ← h, UInt64.ofNat_toNat]

/-- A new commitment is four new entries. -/
theorem value?_addCommitment (h : book.Sound)
    (hnext : commitment.id.toNat = book.commitments.length + 1) :
    (book.addCommitment commitment).value? =
      Function.update (Function.update (Function.update (Function.update book.value?
        .commitmentCount (some (Sequence.octets commitment.id)))
        (.commitment commitment.id) (some commitment.toJson.render))
        (.expiry commitment.expired commitment.id) (some []))
        (.root commitment.root commitment.id) (some []) := by
  have hnew : book.commitment? commitment.id = none :=
    h.commitments_numbered.find?_of_lt (by omega)
  have hlength : (book.addCommitment commitment).commitments.length =
      book.commitments.length + 1 := List.length_append
  funext key
  cases key with
  | commitmentCount => simp [value?, hlength, count?_succ hnext]
  | commitment id =>
    by_cases hid : id = commitment.id
    · simp [value?, commitment?_addCommitment h hnext, hid]
    · simp [value?, commitment?_addCommitment h hnext, hid]
  | expiry expired id =>
    by_cases hid : id = commitment.id
    · by_cases hexpired : commitment.expired = expired
      · simp [value?, commitment?_addCommitment h hnext, hid, hexpired]
      · simp [value?, commitment?_addCommitment h hnext, hid, hexpired, Ne.symm hexpired, hnew]
    · simp [value?, commitment?_addCommitment h hnext, hid]
  | root root id =>
    by_cases hid : id = commitment.id
    · by_cases hroot : commitment.root = root
      · simp [value?, commitment?_addCommitment h hnext, hid, hroot]
      · simp [value?, commitment?_addCommitment h hnext, hid, hroot, Ne.symm hroot, hnew]
    · simp [value?, commitment?_addCommitment h hnext, hid]
  | amendmentCount | amendment id | dispute policyId id =>
    simp only [ne_eq, reduceCtorEq, not_false_eq_true, Function.update_of_ne]
    rfl

/-- A new amendment is two new entries. -/
theorem value?_addAmendment (h : book.Sound)
    (hnext : amendment.id.toNat = book.amendments.length + 1)
    (hdisputed : amendment.disputed = false) :
    (book.addAmendment amendment).value? =
      Function.update (Function.update book.value?
        .amendmentCount (some (Sequence.octets amendment.id)))
        (.amendment amendment.id) (some amendment.toJson.render) := by
  have hnew : book.amendment? amendment.id = none :=
    h.amendments_numbered.find?_of_lt (by omega)
  have hlength : (book.addAmendment amendment).amendments.length =
      book.amendments.length + 1 := List.length_append
  funext key
  cases key with
  | amendmentCount => simp [value?, hlength, count?_succ hnext]
  | amendment id =>
    by_cases hid : id = amendment.id
    · simp [value?, amendment?_addAmendment h hnext, hid]
    · simp [value?, amendment?_addAmendment h hnext, hid]
  | dispute policyId id =>
    by_cases hid : id = amendment.id
    · simp [value?, amendment?_addAmendment h hnext, hid, hnew, hdisputed]
    · simp [value?, amendment?_addAmendment h hnext, hid]
  | commitmentCount | commitment id | expiry expired id | root root id =>
    simp only [ne_eq, reduceCtorEq, not_false_eq_true, Function.update_of_ne]
    rfl

/-- The entry of a commitment that is marked moves from one side of its index to the other. -/
theorem value?_expire (hfound : book.commitment? id = some commitment) :
    (book.expire id).value? =
      Function.update (Function.update (Function.update book.value?
        (.commitment id) (some commitment.asExpired.toJson.render))
        (.expiry false id) none) (.expiry true id) (some []) := by
  funext key
  cases key with
  | commitmentCount =>
    simp only [ne_eq, reduceCtorEq, not_false_eq_true, Function.update_of_ne]
    rw [value?, value?, expire, length_update]
  | commitment other =>
    by_cases hid : other = id
    · simp [value?, commitment?_expire, hid, hfound]
    · simp [value?, commitment?_expire, hid]
  | expiry expired other =>
    by_cases hid : other = id
    · cases expired with
      | true => simp [value?, commitment?_expire, hid, hfound, Commitment.asExpired]
      | false => simp [value?, commitment?_expire, hid, hfound, Commitment.asExpired]
    · simp [value?, commitment?_expire, hid]
  | root root other =>
    by_cases hid : other = id
    · simp [value?, commitment?_expire, hid, hfound, Commitment.asExpired]
    · simp [value?, commitment?_expire, hid]
  | amendmentCount | amendment id | dispute policyId id =>
    simp only [ne_eq, reduceCtorEq, not_false_eq_true, Function.update_of_ne]
    rfl

/-- An amendment that is disputed is entered under its policy. -/
theorem value?_dispute (hfound : book.amendment? id = some amendment)
    (hdisputed : amendment.disputed = false) :
    (book.dispute id).value? =
      Function.update (Function.update book.value?
        (.amendment id) (some amendment.asDisputed.toJson.render))
        (.dispute amendment.policyId id) (some []) := by
  funext key
  cases key with
  | amendmentCount =>
    simp only [ne_eq, reduceCtorEq, not_false_eq_true, Function.update_of_ne]
    rw [value?, value?, dispute, length_update]
  | amendment other =>
    by_cases hid : other = id
    · simp [value?, amendment?_dispute, hid, hfound]
    · simp [value?, amendment?_dispute, hid]
  | dispute policyId other =>
    by_cases hid : other = id
    · by_cases hpolicy : policyId = amendment.policyId
      · simp [value?, amendment?_dispute, hid, hfound, Amendment.asDisputed, hpolicy]
      · simp [value?, amendment?_dispute, hid, hfound, Amendment.asDisputed, hdisputed, hpolicy,
          Ne.symm hpolicy]
    · simp [value?, amendment?_dispute, hid]
  | commitmentCount | commitment id | expiry expired id | root root id =>
    simp only [ne_eq, reduceCtorEq, not_false_eq_true, Function.update_of_ne]
    rfl

end Book

end Repository

end AccessControl
