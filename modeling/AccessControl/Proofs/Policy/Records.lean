import AccessControl.Policy.MemoryEngine
import AccessControl.Proofs.Action
import AccessControl.Proofs.Store.SortedMap

/-!
# The records of a policy

`PolicyRecords.Coherent` is what holds of the records of a policy at all times: each is kept under
its own relationship, an object has at most one owner, and only what is owned and in use has other
relationships. `PolicyRecords.Change` lists what an actor can do to the records of a policy by
operations on one object, and `PolicyRecords.transfer` is the one thing that can be done to an
object of somebody else. What follows of the operations follows by cases on these:

* coherence is kept (`Change.coherent`, `Coherent.transfer`);
* records on other objects stay (`Change.get?_of_ne`, `get?_transfer_of_ne`);
* an object of somebody else does not change at all (`Change.eq_of_owner_ne`);
* an owner that keeps an object keeps its provenance (`Change.of_isOwnership`).
-/

namespace AccessControl.PolicyRecords

variable {records records' : PolicyRecords} {policyId : String} {object : Object} {actor : Did}
  {relationship ownership : Relationship} {record registration : RelationshipRecord}
  {provenance : Provenance}

/-! ### Looking up ownerships -/

/-- What is found as the ownership of an object is one. -/
theorem of_registration?_eq_some
    (h : records.registration? object = some (ownership, registration)) :
    records.get? ownership = some registration ∧ ownership.object = object ∧
      ownership.isOwnership := by
  have hmem := List.mem_of_find?_eq_some h
  have htest := List.find?_some h
  rw [Bool.and_eq_true, decide_eq_true_eq] at htest
  exact ⟨SortedMap.mem_entries_iff.mp hmem, htest⟩

/-- If none is found, there is none. -/
theorem isOwnership_eq_false_of_registration?_eq_none (h : records.registration? object = none)
    (hget : records.get? relationship = some record) (hobject : relationship.object = object) :
    relationship.isOwnership = false := by
  have := List.find?_eq_none.mp h _ (SortedMap.mem_entries_iff.mpr hget)
  simpa [hobject] using this

theorem get?_withoutRelationships_eq_some_iff :
    (records.withoutRelationships object).get? relationship = some record ↔
      records.get? relationship = some record ∧
        (relationship.object ≠ object ∨ relationship.isOwnership) := by
  rw [withoutRelationships, SortedMap.get?_filter_eq_some_iff, Bool.or_eq_true, decide_eq_true_eq]

theorem get?_withoutRelationships_of_ne (h : relationship.object ≠ object) :
    (records.withoutRelationships object).get? relationship = records.get? relationship := by
  refine Option.ext fun record => ?_
  simp [get?_withoutRelationships_eq_some_iff, h]

/-! ### Coherence -/

/-- A record that can stand under a relationship in a policy. -/
structure Fits (policyId : String) (relationship : Relationship) (record : RelationshipRecord) :
    Prop where
  relationship_eq : record.relationship = relationship
  policyId_eq : record.policyId = policyId
  isWellFormed : relationship.object.isWellFormed
  relation_ne : relationship.relation.isEmpty = false
  /-- The record of an ownership belongs to the owner. -/
  owner_eq : relationship.isOwnership →
    relationship = .owner relationship.object record.owner
  /-- Only an ownership can be out of use. -/
  archived_eq : relationship.isOwnership = false → record.archived = false

/-- Records that belong together in a policy. -/
structure Coherent (policyId : String) (records : PolicyRecords) : Prop where
  fits : ∀ relationship record, records.get? relationship = some record →
    Fits policyId relationship record
  /-- No object has two owners. -/
  unique : ∀ first second record record', records.get? first = some record →
    records.get? second = some record' → first.isOwnership → second.isOwnership →
    first.object = second.object → first = second
  /-- Only an object that is owned and in use has other relationships. -/
  registered : ∀ relationship record, records.get? relationship = some record →
    relationship.isOwnership = false → ∃ registration,
      records.get? (.owner relationship.object registration.owner) = some registration ∧
        registration.archived = false

theorem coherent_empty : Coherent policyId .empty := by
  constructor <;> intros <;> simp_all

/-- In coherent records, the ownership of an object is the fact that the owner of its record owns
it. -/
theorem Coherent.registration?_eq_some_iff (h : Coherent policyId records) :
    records.registration? object = some (ownership, registration) ↔
      ownership = .owner object registration.owner ∧
        records.get? ownership = some registration := by
  constructor
  · intro hfound
    obtain ⟨hget, rfl, hown⟩ := of_registration?_eq_some hfound
    exact ⟨(h.fits _ _ hget).owner_eq hown, hget⟩
  · rintro ⟨rfl, hget⟩
    cases hfound : records.registration? object with
    | none =>
      have := isOwnership_eq_false_of_registration?_eq_none hfound hget rfl
      cases this
    | some found =>
      obtain ⟨hget', hobject, hown⟩ := of_registration?_eq_some hfound
      have hfirst := h.unique _ _ _ _ hget' hget hown rfl hobject
      rw [hfirst, hget] at hget'
      exact congrArg some (Prod.ext hfirst (Option.some.inj hget').symm)

/-- An object that nobody owns has no relationships. -/
theorem Coherent.get?_eq_none (h : Coherent policyId records)
    (hnone : records.registration? object = none) (hobject : relationship.object = object) :
    records.get? relationship = none := by
  cases hget : records.get? relationship with
  | none => rfl
  | some record =>
    have hown := isOwnership_eq_false_of_registration?_eq_none hnone hget hobject
    obtain ⟨registration, hregistered, -⟩ := h.registered _ _ hget hown
    have := isOwnership_eq_false_of_registration?_eq_none hnone hregistered hobject
    cases this

/-! ### Changes by an owner -/

/-- What an actor can make of the records of a policy by operations on an object: nothing, or, if
the object is the actor's own, something. Only the first owner is made so. -/
inductive Change (policyId : String) (actor : Did) (object : Object) (records : PolicyRecords) :
    PolicyRecords → Prop where
  | kept : Change policyId actor object records records
  | registered {provenance : Provenance} : object.isWellFormed →
    records.registration? object = none → provenance.owner = actor →
    Change policyId actor object records
      (records.insert (.owner object actor) ⟨policyId, .owner object actor, false, provenance⟩)
  | related {ownership relationship : Relationship} {registration : RelationshipRecord}
      {provenance : Provenance} :
    records.registration? object = some (ownership, registration) → registration.owner = actor →
    registration.archived = false → MemoryEngine.checkRelationship relationship = .ok () →
    relationship.object = object → provenance.owner = actor →
    Change policyId actor object records
      (records.insert relationship ⟨policyId, relationship, false, provenance⟩)
  | unrelated {ownership relationship : Relationship} {registration : RelationshipRecord} :
    records.registration? object = some (ownership, registration) → registration.owner = actor →
    MemoryEngine.checkRelationship relationship = .ok () → relationship.object = object →
    Change policyId actor object records (records.erase relationship)
  | unregistered {ownership : Relationship} {registration : RelationshipRecord} :
    records.registration? object = some (ownership, registration) → registration.owner = actor →
    Change policyId actor object records ((records.withoutRelationships object).erase ownership)
  | archived {ownership : Relationship} {registration : RelationshipRecord} :
    records.registration? object = some (ownership, registration) → registration.owner = actor →
    Change policyId actor object records
      ((records.withoutRelationships object).insert ownership
        { registration with archived := true })
  | unarchived {ownership : Relationship} {registration : RelationshipRecord} :
    records.registration? object = some (ownership, registration) → registration.owner = actor →
    Change policyId actor object records
      (records.insert ownership { registration with archived := false })

/-- A relationship that may be set is no ownership. -/
theorem of_checkRelationship_eq_ok (h : MemoryEngine.checkRelationship relationship = .ok ()) :
    relationship.object.isWellFormed ∧ relationship.relation.isEmpty = false ∧
      relationship.isOwnership = false := by
  unfold MemoryEngine.checkRelationship at h
  split at h
  · cases h
  · rename_i hformed
    split at h
    · cases h
    · rename_i hown
      simpa [hown] using hformed

/-- Other objects are left alone. -/
theorem Change.get?_of_ne (h : Change policyId actor object records records')
    (hne : relationship.object ≠ object) :
    records'.get? relationship = records.get? relationship := by
  have hother : ∀ {other : Relationship}, other.object = object → relationship ≠ other := by
    rintro other rfl rfl
    exact hne rfl
  cases h with
  | kept => rfl
  | registered => exact SortedMap.get?_insert_of_ne (hother rfl)
  | related _ _ _ _ hobject _ => exact SortedMap.get?_insert_of_ne (hother hobject)
  | unrelated _ _ _ hobject =>
    refine Option.ext fun record => ?_
    rw [SortedMap.get?_erase_eq_some_iff, and_iff_right (hother hobject)]
  | unregistered hfound _ =>
    obtain ⟨-, hobject, -⟩ := of_registration?_eq_some hfound
    refine Option.ext fun record => ?_
    rw [SortedMap.get?_erase_eq_some_iff, and_iff_right (hother hobject),
      get?_withoutRelationships_of_ne hne]
  | archived hfound _ =>
    obtain ⟨-, hobject, -⟩ := of_registration?_eq_some hfound
    rw [SortedMap.get?_insert_of_ne (hother hobject), get?_withoutRelationships_of_ne hne]
  | unarchived hfound _ =>
    obtain ⟨-, hobject, -⟩ := of_registration?_eq_some hfound
    exact SortedMap.get?_insert_of_ne (hother hobject)

/-- The records stay as they are if the object is somebody else's. -/
theorem Change.eq_of_owner_ne (h : Change policyId actor object records records')
    (hfound : records.registration? object = some (ownership, registration))
    (hne : registration.owner ≠ actor) : records' = records := by
  have hother : ∀ {ownership' registration'},
      records.registration? object = some (ownership', registration') →
      registration'.owner ≠ actor := by
    intro ownership' registration' hfound'
    rw [hfound] at hfound'
    cases hfound'
    exact hne
  cases h with
  | kept => rfl
  | registered _ hnone _ => exact absurd (hfound.symm.trans hnone) (Option.some_ne_none _)
  | related hfound' howner => exact absurd howner (hother hfound')
  | unrelated hfound' howner => exact absurd howner (hother hfound')
  | unregistered hfound' howner => exact absurd howner (hother hfound')
  | archived hfound' howner => exact absurd howner (hother hfound')
  | unarchived hfound' howner => exact absurd howner (hother hfound')

/-- An ownership that is there after a change is as old as before, unless nobody owned the
object. -/
theorem Change.of_isOwnership (h : Change policyId actor object records records')
    (hget : records'.get? relationship = some record) (hown : relationship.isOwnership) :
    (∃ previous, records.get? relationship = some previous ∧
      record.provenance = previous.provenance) ∨
    records.registration? object = none ∧ relationship.object = object := by
  cases h with
  | kept => exact .inl ⟨record, hget, rfl⟩
  | registered _ hnone _ =>
    rcases SortedMap.get?_insert_eq_some_iff.mp hget with ⟨rfl, -⟩ | ⟨-, hold⟩
    · exact .inr ⟨hnone, rfl⟩
    · exact .inl ⟨record, hold, rfl⟩
  | related _ _ _ hcheck =>
    rcases SortedMap.get?_insert_eq_some_iff.mp hget with ⟨rfl, -⟩ | ⟨-, hold⟩
    · have hother := (of_checkRelationship_eq_ok hcheck).2.2
      simp [hown] at hother
    · exact .inl ⟨record, hold, rfl⟩
  | unrelated =>
    exact .inl ⟨record, (SortedMap.get?_erase_eq_some_iff.mp hget).2, rfl⟩
  | unregistered =>
    have hkept := (SortedMap.get?_erase_eq_some_iff.mp hget).2
    exact .inl ⟨record, (get?_withoutRelationships_eq_some_iff.mp hkept).1, rfl⟩
  | archived hfound =>
    rcases SortedMap.get?_insert_eq_some_iff.mp hget with ⟨rfl, rfl⟩ | ⟨-, hkept⟩
    · exact .inl ⟨_, (of_registration?_eq_some hfound).1, rfl⟩
    · exact .inl ⟨record, (get?_withoutRelationships_eq_some_iff.mp hkept).1, rfl⟩
  | unarchived hfound =>
    rcases SortedMap.get?_insert_eq_some_iff.mp hget with ⟨rfl, rfl⟩ | ⟨-, hold⟩
    · exact .inl ⟨_, (of_registration?_eq_some hfound).1, rfl⟩
    · exact .inl ⟨record, hold, rfl⟩

/-! ### Coherence is kept -/

/-- Coherent records with a relationship removed that is no ownership. -/
theorem Coherent.erase (h : Coherent policyId records)
    (hown : relationship.isOwnership = false) : Coherent policyId (records.erase relationship) where
  fits other record hget := h.fits _ _ (SortedMap.get?_erase_eq_some_iff.mp hget).2
  unique first second _ _ hget hget' :=
    h.unique _ _ _ _ (SortedMap.get?_erase_eq_some_iff.mp hget).2
      (SortedMap.get?_erase_eq_some_iff.mp hget').2
  registered other record hget hother := by
    obtain ⟨registration, hregistered, huse⟩ :=
      h.registered _ _ (SortedMap.get?_erase_eq_some_iff.mp hget).2 hother
    refine ⟨registration, SortedMap.get?_erase_eq_some_iff.mpr ⟨?_, hregistered⟩, huse⟩
    rintro rfl
    cases hown

/-- Coherent records with a relationship set on an object that is owned and in use. -/
theorem Coherent.insert_relationship (h : Coherent policyId records)
    (hfits : Fits policyId relationship record) (hown : relationship.isOwnership = false)
    (hget : records.get? (.owner relationship.object registration.owner) = some registration)
    (huse : registration.archived = false) :
    Coherent policyId (records.insert relationship record) := by
  have hkept : ∀ {other : Relationship}, other.isOwnership →
      (records.insert relationship record).get? other = records.get? other := by
    intro other hother
    refine SortedMap.get?_insert_of_ne ?_
    rintro rfl
    simp [hown] at hother
  constructor
  · intro other found hfound
    rcases SortedMap.get?_insert_eq_some_iff.mp hfound with ⟨rfl, rfl⟩ | ⟨-, hfound⟩
    · exact hfits
    · exact h.fits _ _ hfound
  · intro first second _ _ hfirst hsecond hownFirst hownSecond
    rw [hkept hownFirst] at hfirst
    rw [hkept hownSecond] at hsecond
    exact h.unique _ _ _ _ hfirst hsecond hownFirst hownSecond
  · intro other found hfound hother
    rcases SortedMap.get?_insert_eq_some_iff.mp hfound with ⟨rfl, rfl⟩ | ⟨-, hfound⟩
    · exact ⟨registration, by rw [hkept rfl, hget], huse⟩
    · obtain ⟨registration', hregistered, huse'⟩ := h.registered _ _ hfound hother
      exact ⟨registration', by rw [hkept rfl, hregistered], huse'⟩

/-- Coherent records with the ownership of an object replaced: what else is found was there before,
and is no other ownership of the object; other ownerships stay; and the object has relationships
only if it is in use. -/
theorem Coherent.replace_ownership (h : Coherent policyId records)
    (hfits : Fits policyId ownership registration)
    (howner : ownership = .owner object registration.owner)
    (hget : records'.get? ownership = some registration)
    (hbefore : ∀ other found, records'.get? other = some found → other = ownership ∨
      records.get? other = some found ∧ (other.isOwnership → other.object ≠ object))
    (hkept : ∀ other, other.isOwnership → other.object ≠ object →
      records'.get? other = records.get? other)
    (huse : ∀ other found, records'.get? other = some found → other.isOwnership = false →
      other.object = object → registration.archived = false) :
    Coherent policyId records' := by
  subst howner
  constructor
  · intro other found hfound
    rcases hbefore _ _ hfound with rfl | ⟨hfound, -⟩
    · rw [hget] at hfound
      cases hfound
      exact hfits
    · exact h.fits _ _ hfound
  · intro first second _ _ hfirst hsecond hownFirst hownSecond hobject
    rcases hbefore _ _ hfirst with rfl | ⟨hfirst, hne⟩ <;>
      rcases hbefore _ _ hsecond with rfl | ⟨hsecond, hne'⟩
    · rfl
    · exact absurd hobject.symm (hne' hownSecond)
    · exact absurd hobject (hne hownFirst)
    · exact h.unique _ _ _ _ hfirst hsecond hownFirst hownSecond hobject
  · intro other found hfound hother
    by_cases hobject : other.object = object
    · exact ⟨registration, by rw [hobject, hget], huse _ _ hfound hother hobject⟩
    · rcases hbefore _ _ hfound with rfl | ⟨hbefore, -⟩
      · cases hother
      · obtain ⟨registration', hregistered, huse'⟩ := h.registered _ _ hbefore hother
        refine ⟨registration', ?_, huse'⟩
        rw [hkept (.owner other.object registration'.owner) rfl hobject, hregistered]

/-- Coherent records without the relationships on an object. -/
theorem Coherent.withoutRelationships (h : Coherent policyId records) (object : Object) :
    Coherent policyId (records.withoutRelationships object) where
  fits other found hget := h.fits _ _ (get?_withoutRelationships_eq_some_iff.mp hget).1
  unique first second _ _ hget hget' :=
    h.unique _ _ _ _ (get?_withoutRelationships_eq_some_iff.mp hget).1
      (get?_withoutRelationships_eq_some_iff.mp hget').1
  registered other found hget hother := by
    obtain ⟨registration, hregistered, huse⟩ :=
      h.registered _ _ (get?_withoutRelationships_eq_some_iff.mp hget).1 hother
    exact ⟨registration, get?_withoutRelationships_eq_some_iff.mpr ⟨hregistered, .inr rfl⟩, huse⟩

/-- Coherent records with an object given up. -/
theorem Coherent.unregister (h : Coherent policyId records) (hobject : ownership.object = object) :
    Coherent policyId ((records.withoutRelationships object).erase ownership) where
  fits other found hget :=
    (h.withoutRelationships object).fits _ _ (SortedMap.get?_erase_eq_some_iff.mp hget).2
  unique first second _ _ hget hget' :=
    (h.withoutRelationships object).unique _ _ _ _ (SortedMap.get?_erase_eq_some_iff.mp hget).2
      (SortedMap.get?_erase_eq_some_iff.mp hget').2
  registered other found hget hother := by
    obtain ⟨-, hget⟩ := SortedMap.get?_erase_eq_some_iff.mp hget
    obtain ⟨registration, hregistered, huse⟩ :=
      (h.withoutRelationships object).registered _ _ hget hother
    refine ⟨registration, SortedMap.get?_erase_eq_some_iff.mpr ⟨?_, hregistered⟩, huse⟩
    intro heq
    -- A relationship on the object would have been removed.
    have hsame : other.object = object := by
      rw [← hobject, ← heq]
      rfl
    rcases (get?_withoutRelationships_eq_some_iff.mp hget).2 with hne | hown
    · exact hne hsame
    · simp [hother] at hown

/-- Coherent records with an object registered that nobody owned. -/
theorem Coherent.register (h : Coherent policyId records) (hformed : object.isWellFormed)
    (hnone : records.registration? object = none) (provenance : Provenance) :
    Coherent policyId (records.insert (.owner object provenance.owner)
      ⟨policyId, .owner object provenance.owner, false, provenance⟩) := by
  have hfits : Fits policyId (.owner object provenance.owner)
      ⟨policyId, .owner object provenance.owner, false, provenance⟩ :=
    ⟨rfl, rfl, hformed, rfl, fun _ => rfl, fun _ => rfl⟩
  refine h.replace_ownership hfits rfl SortedMap.get?_insert_self ?_ ?_ fun _ _ _ _ _ => rfl
  · intro other found hfound
    rcases SortedMap.get?_insert_eq_some_iff.mp hfound with ⟨rfl, -⟩ | ⟨-, hfound⟩
    · exact .inl rfl
    · refine .inr ⟨hfound, fun _ hobject => ?_⟩
      rw [h.get?_eq_none hnone hobject] at hfound
      cases hfound
  · intro other _ hobject
    refine SortedMap.get?_insert_of_ne ?_
    rintro rfl
    exact hobject rfl

/-- After a registration, its record is found. -/
theorem Coherent.registration?_register (h : Coherent policyId records)
    (hformed : object.isWellFormed) (hnone : records.registration? object = none)
    (provenance : Provenance) :
    PolicyRecords.registration? (records.insert (.owner object provenance.owner)
      ⟨policyId, .owner object provenance.owner, false, provenance⟩) object =
      some (.owner object provenance.owner,
        ⟨policyId, .owner object provenance.owner, false, provenance⟩) :=
  (h.register hformed hnone provenance).registration?_eq_some_iff.mpr
    ⟨rfl, SortedMap.get?_insert_self⟩

/-- Coherent records with an object taken out of or into use. -/
theorem Coherent.setArchived (h : Coherent policyId records)
    (hget : records.get? (.owner object registration.owner) = some registration) {archived : Bool}
    (huse : ∀ other found, records.get? other = some found → other.isOwnership = false →
      other.object = object → archived = false) :
    Coherent policyId
      (records.insert (.owner object registration.owner) { registration with archived }) := by
  have hold := h.fits _ _ hget
  have hfits : Fits policyId (.owner object registration.owner) { registration with archived } :=
    ⟨hold.relationship_eq, hold.policyId_eq, hold.isWellFormed, rfl, fun _ => rfl, fun h => by
      cases h⟩
  refine h.replace_ownership hfits rfl SortedMap.get?_insert_self ?_ ?_ ?_
  · intro other found hfound
    rcases SortedMap.get?_insert_eq_some_iff.mp hfound with ⟨rfl, -⟩ | ⟨hne, hfound⟩
    · exact .inl rfl
    · exact .inr ⟨hfound, fun hown hobject => hne (h.unique _ _ _ _ hfound hget hown rfl hobject)⟩
  · intro other _ hobject
    refine SortedMap.get?_insert_of_ne ?_
    rintro rfl
    exact hobject rfl
  · intro other found hfound hown hobject
    rcases SortedMap.get?_insert_eq_some_iff.mp hfound with ⟨rfl, -⟩ | ⟨-, hfound⟩
    · cases hown
    · exact huse _ _ hfound hown hobject

/-- **What an actor does to an object keeps the records coherent.** -/
theorem Change.coherent (h : Change policyId actor object records records')
    (hcoherent : Coherent policyId records) : Coherent policyId records' := by
  cases h with
  | kept => exact hcoherent
  | registered hformed hnone howner =>
    subst howner
    exact hcoherent.register hformed hnone _
  | related hfound howner huse hcheck hobject howner' =>
    subst hobject
    obtain ⟨hformed, hrelation, hown⟩ := of_checkRelationship_eq_ok hcheck
    obtain ⟨rfl, hget⟩ := hcoherent.registration?_eq_some_iff.mp hfound
    exact hcoherent.insert_relationship
      ⟨rfl, rfl, hformed, hrelation, fun h => by simp [hown] at h, fun _ => rfl⟩ hown hget huse
  | unrelated hfound howner hcheck hobject =>
    exact hcoherent.erase (of_checkRelationship_eq_ok hcheck).2.2
  | unregistered hfound howner =>
    exact hcoherent.unregister (of_registration?_eq_some hfound).2.1
  | archived hfound howner =>
    obtain ⟨rfl, hget⟩ := hcoherent.registration?_eq_some_iff.mp hfound
    refine (hcoherent.withoutRelationships object).setArchived
      (get?_withoutRelationships_eq_some_iff.mpr ⟨hget, .inr rfl⟩) ?_
    intro other found hfound hown hobject
    rcases (get?_withoutRelationships_eq_some_iff.mp hfound).2 with hne | hown'
    · exact absurd hobject hne
    · simp [hown] at hown'
  | unarchived hfound howner =>
    obtain ⟨rfl, hget⟩ := hcoherent.registration?_eq_some_iff.mp hfound
    exact hcoherent.setArchived hget fun _ _ _ _ _ => rfl

/-! ### Taking an object over -/

/-- The records after a registered object went to the owner that a provenance names. -/
def transfer (records : PolicyRecords) (policyId : String) (object : Object)
    (previous : Relationship × RelationshipRecord) (provenance : Provenance) : PolicyRecords :=
  (records.erase previous.1).insert (.owner object provenance.owner)
    ⟨policyId, .owner object provenance.owner, previous.2.archived, provenance⟩

section

variable {previous : Relationship × RelationshipRecord}

theorem get?_transfer_self :
    (records.transfer policyId object previous provenance).get? (.owner object provenance.owner) =
      some ⟨policyId, .owner object provenance.owner, previous.2.archived, provenance⟩ :=
  SortedMap.get?_insert_self

/-- Other objects are left alone, and so are the other relationships on the object. -/
theorem get?_transfer_of_ne (hprevious : records.registration? object = some previous)
    (hne : relationship.object ≠ object ∨ relationship.isOwnership = false) :
    (records.transfer policyId object previous provenance).get? relationship =
      records.get? relationship := by
  obtain ⟨-, hobject, hown⟩ := of_registration?_eq_some hprevious
  have hnew : relationship ≠ .owner object provenance.owner := by
    rintro rfl
    simp [Relationship.owner, Relationship.isOwnership] at hne
  have hold : relationship ≠ previous.1 := by
    rintro rfl
    simp [hobject, hown] at hne
  rw [transfer, SortedMap.get?_insert_of_ne hnew]
  refine Option.ext fun record => ?_
  rw [SortedMap.get?_erase_eq_some_iff, and_iff_right hold]

/-- No owner remains but the new one. -/
theorem Coherent.get?_transfer_of_isOwnership (h : Coherent policyId records)
    (hprevious : records.registration? object = some previous) (hown : relationship.isOwnership)
    (hobject : relationship.object = object)
    (hne : relationship ≠ .owner object provenance.owner) :
    (records.transfer policyId object previous provenance).get? relationship = none := by
  rw [transfer, SortedMap.get?_insert_of_ne hne]
  refine Option.eq_none_iff_forall_ne_some.mpr fun record hget => ?_
  obtain ⟨hne, hget⟩ := SortedMap.get?_erase_eq_some_iff.mp hget
  obtain ⟨hget', hobject', hown'⟩ := of_registration?_eq_some hprevious
  exact hne (h.unique _ _ _ _ hget hget' hown hown' (hobject.trans hobject'.symm))

/-- **A takeover keeps the records coherent.** -/
theorem Coherent.transfer (h : Coherent policyId records)
    (hprevious : records.registration? object = some previous) (provenance : Provenance) :
    Coherent policyId (records.transfer policyId object previous provenance) := by
  obtain ⟨ownership, registration⟩ := previous
  obtain ⟨rfl, hget⟩ := h.registration?_eq_some_iff.mp hprevious
  have hfits : Fits policyId (.owner object provenance.owner)
      ⟨policyId, .owner object provenance.owner, registration.archived, provenance⟩ :=
    ⟨rfl, rfl, (h.fits _ _ hget).isWellFormed, rfl, fun _ => rfl, fun h => by cases h⟩
  refine h.replace_ownership hfits rfl get?_transfer_self ?_ ?_ ?_
  · intro other found hfound
    by_cases hnew : other = .owner object provenance.owner
    · exact .inl hnew
    · by_cases hobject : other.isOwnership ∧ other.object = object
      · rw [h.get?_transfer_of_isOwnership hprevious hobject.1 hobject.2 hnew] at hfound
        cases hfound
      · refine .inr ⟨?_, fun hown hobject' => hobject ⟨hown, hobject'⟩⟩
        rwa [get?_transfer_of_ne hprevious] at hfound
        grind
  · intro other _ hobject
    exact get?_transfer_of_ne hprevious (.inl hobject)
  · intro other found hfound hown hobject
    rw [get?_transfer_of_ne hprevious (.inr hown)] at hfound
    obtain ⟨registration', hregistered, huse⟩ := h.registered _ _ hfound hown
    have hsame := h.unique _ _ _ _ hregistered hget rfl rfl hobject
    rw [hsame, hget] at hregistered
    cases hregistered
    exact huse

/-- After a takeover, the record of the new owner is found. -/
theorem Coherent.registration?_transfer (h : Coherent policyId records)
    (hprevious : records.registration? object = some previous) (provenance : Provenance) :
    (records.transfer policyId object previous provenance).registration? object =
      some (.owner object provenance.owner,
        ⟨policyId, .owner object provenance.owner, previous.2.archived, provenance⟩) :=
  (h.transfer hprevious provenance).registration?_eq_some_iff.mpr ⟨rfl, get?_transfer_self⟩

end

end AccessControl.PolicyRecords
