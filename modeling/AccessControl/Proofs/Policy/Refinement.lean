import AccessControl.Proofs.Policy.Tables

/-!
# One map does the work of two tables

`MemoryEngine` keeps the ownership of an object and the other relationships on it in one map, in
which it searches for the owner and counts what it removed by the sizes before and after. Whatever
it is asked for, it answers like `TableEngine`, which keeps them apart
(`MemoryEngine.answers_eq_tables`).

`PolicyTables.Agrees` relates the records of a policy to two tables, lookup by lookup. Each
operation is made of a few changes, and each change keeps the relation: of one table at a time, and
of the part of the map that belongs to it. That the search finds what the table says is where the
records must be coherent (`PolicyTables.Agrees.registration?_eq`); reachable engines are.
-/

namespace AccessControl

/-! ### One policy -/

namespace Registration

variable {policyId : String} {object : Object} {registration first second : Registration}

@[simp] theorem owner_record :
    (registration.record policyId object).owner = registration.owner :=
  rfl

theorem record_inj (h : first.record policyId object = second.record policyId object) :
    first = second := by
  obtain ⟨provenance, archived⟩ := first
  obtain ⟨provenance', archived'⟩ := second
  rw [record, record, RelationshipRecord.mk.injEq] at h
  obtain ⟨-, -, rfl, rfl⟩ := h
  rfl

end Registration

namespace PolicyRecords

variable {records : PolicyRecords} {object : Object} {relationship : Relationship}

/-- The relationships on an object that are no ownership. -/
def relationshipsOn (records : PolicyRecords) (object : Object) : List Relationship :=
  (records.entries.filter fun entry =>
    decide (entry.1.object = object) && !entry.1.isOwnership).map (·.1)

theorem mem_relationshipsOn_iff :
    relationship ∈ records.relationshipsOn object ↔
      (∃ record, records.get? relationship = some record) ∧ relationship.object = object ∧
        relationship.isOwnership = false := by
  rw [relationshipsOn, List.mem_map]
  constructor
  · rintro ⟨⟨relationship, record⟩, hentry, rfl⟩
    obtain ⟨hmem, hon⟩ := List.mem_filter.mp hentry
    exact ⟨⟨record, SortedMap.mem_entries_iff.mp hmem⟩, by simpa using hon⟩
  · rintro ⟨⟨record, hrecord⟩, hobject, hown⟩
    exact ⟨(relationship, record), List.mem_filter.mpr
      ⟨SortedMap.mem_entries_iff.mpr hrecord, by simp [hobject, hown]⟩, rfl⟩

/-- Entries are in strict order, so none of them is counted twice. -/
theorem nodup_relationshipsOn : (records.relationshipsOn object).Nodup := by
  refine List.Pairwise.map _ (fun _ _ => ?_) (records.sorted.filter _)
  intro hlt heq
  rw [heq, Std.ReflOrd.compare_self] at hlt
  cases hlt

/-- The sizes before and after differ by what the filter drops. -/
theorem relationshipCount_eq_length :
    records.relationshipCount object = UInt64.ofNat (records.relationshipsOn object).length := by
  have hsplit := List.length_eq_length_filter_add (l := records.entries) fun entry =>
    entry.1.object ≠ object || entry.1.isOwnership
  have hdropped : (fun entry : Relationship × RelationshipRecord =>
      !(decide (entry.1.object ≠ object) || entry.1.isOwnership)) =
      fun entry => decide (entry.1.object = object) && !entry.1.isOwnership := by
    funext entry
    simp
  have hsizes : records.size - (records.withoutRelationships object).size =
      (records.relationshipsOn object).length := by
    rw [hdropped] at hsplit
    rw [relationshipsOn, List.length_map]
    show records.entries.length - (records.entries.filter fun entry =>
      entry.1.object ≠ object || entry.1.isOwnership).length = _
    omega
  rw [relationshipCount, hsizes]

end PolicyRecords

namespace PolicyTables

variable {policyId : String} {records : PolicyRecords} {tables : PolicyTables} {object : Object}
  {actor : Did} {registration : Registration} {relationship : Relationship}
  {record : RelationshipRecord}

theorem lookup_clear :
    (tables.clear object).relationships.lookup relationship =
      if relationship.object = object then none else tables.relationships.lookup relationship := by
  refine Option.ext fun record => ?_
  rw [Finmap.lookup_eq_some_iff, clear, Multiset.mem_filter,
    ← Finmap.lookup_eq_some_iff]
  by_cases hobject : relationship.object = object <;> simp [hobject]

/-- The records of a policy say what the two tables say. -/
structure Agrees (policyId : String) (records : PolicyRecords) (tables : PolicyTables) : Prop where
  registered_iff : ∀ object registration,
    tables.registrations.lookup object = some registration ↔
      records.get? (.owner object registration.owner) = some (registration.record policyId object)
  related_eq : ∀ relationship, tables.relationships.lookup relationship =
    if relationship.isOwnership then none else records.get? relationship

namespace Agrees

theorem empty : Agrees policyId .empty .empty where
  registered_iff object registration := by simp [PolicyTables.empty]
  related_eq relationship := by simp [PolicyTables.empty]

/-! ### Changes of the relationships -/

theorem relate (h : Agrees policyId records tables) (record : RelationshipRecord)
    (hown : record.relationship.isOwnership = false) :
    Agrees policyId (records.insert record.relationship record) (tables.relate record) where
  registered_iff object registration := by
    have hne : Relationship.owner object registration.owner ≠ record.relationship := by
      intro heq
      rw [← heq] at hown
      cases hown
    rw [SortedMap.get?_insert_of_ne hne]
    exact h.registered_iff object registration
  related_eq relationship := by
    rw [PolicyTables.relate]
    by_cases hsame : relationship = record.relationship
    · rw [hsame, Finmap.lookup_insert, hown, if_neg Bool.false_ne_true, SortedMap.get?_insert_self]
    · rw [Finmap.lookup_insert_of_ne _ hsame, SortedMap.get?_insert_of_ne hsame]
      exact h.related_eq relationship

theorem unrelate (h : Agrees policyId records tables)
    (hown : relationship.isOwnership = false) :
    Agrees policyId (records.erase relationship) (tables.unrelate relationship) where
  registered_iff object registration := by
    have hne : Relationship.owner object registration.owner ≠ relationship := by
      intro heq
      rw [← heq] at hown
      cases hown
    rw [SortedMap.get?_erase_eq_some_iff, and_iff_right hne]
    exact h.registered_iff object registration
  related_eq other := by
    rw [PolicyTables.unrelate, SortedMap.get?_erase]
    by_cases hsame : other = relationship
    · rw [hsame, Finmap.lookup_erase, if_pos Std.ReflOrd.compare_self, ite_self]
    · rw [Finmap.lookup_erase_ne hsame, if_neg (mt Std.LawfulEqOrd.eq_of_compare hsame)]
      exact h.related_eq other

theorem clear (h : Agrees policyId records tables) (object : Object) :
    Agrees policyId (records.withoutRelationships object) (tables.clear object) where
  registered_iff other registration := by
    rw [PolicyRecords.get?_withoutRelationships_eq_some_iff, and_iff_left (.inr rfl)]
    exact h.registered_iff other registration
  related_eq relationship := by
    rw [lookup_clear, h.related_eq]
    by_cases hown : relationship.isOwnership
    · rw [if_pos hown, if_pos hown, ite_self]
    · rw [if_neg hown, if_neg hown]
      refine Option.ext fun record => ?_
      rw [PolicyRecords.get?_withoutRelationships_eq_some_iff]
      by_cases hobject : relationship.object = object <;> simp [hobject, hown]

/-! ### Changes of the registrations -/

/-- The ownership of an object is set, where nobody else owns it. -/
theorem register (h : Agrees policyId records tables) (object : Object)
    (registration : Registration)
    (howner : ∀ other, tables.registrations.lookup object = some other →
      other.owner = registration.owner) :
    Agrees policyId
      (records.insert (.owner object registration.owner) (registration.record policyId object))
      (tables.register object registration) where
  registered_iff other found := by
    rw [PolicyTables.register]
    by_cases hobject : other = object
    · subst hobject
      rw [Finmap.lookup_insert]
      -- The map has one place for each owner, and the table one for all of them.
      by_cases hfound : found.owner = registration.owner
      · rw [hfound, SortedMap.get?_insert_self]
        constructor
        · rintro ⟨⟩
          rfl
        · intro heq
          rw [Registration.record_inj (Option.some.inj heq)]
      · have hne : Relationship.owner other found.owner ≠ .owner other registration.owner := by
          intro heq
          exact hfound (Subject.actor.inj (congrArg Relationship.subject heq))
        rw [SortedMap.get?_insert_of_ne hne, ← h.registered_iff]
        constructor
        · rintro ⟨⟩
          exact absurd rfl hfound
        · intro hother
          exact absurd (howner found hother) hfound
    · have hne : Relationship.owner other found.owner ≠ .owner object registration.owner := by
        intro heq
        exact hobject (congrArg Relationship.object heq)
      rw [Finmap.lookup_insert_of_ne _ hobject, SortedMap.get?_insert_of_ne hne]
      exact h.registered_iff other found
  related_eq relationship := by
    rw [PolicyTables.register, h.related_eq]
    by_cases hown : relationship.isOwnership
    · rw [if_pos hown, if_pos hown]
    · have hne : relationship ≠ .owner object registration.owner := by
        rintro rfl
        exact hown rfl
      rw [if_neg hown, if_neg hown, SortedMap.get?_insert_of_ne hne]

/-- The object of an owner is taken out of or into use. -/
theorem setArchived (h : Agrees policyId records tables)
    (hfound : tables.registrations.lookup object = some registration) (archived : Bool) :
    Agrees policyId
      (records.insert (.owner object registration.owner)
        { registration.record policyId object with archived })
      (tables.register object { registration with archived }) := by
  refine h.register object { registration with archived } fun other hother => ?_
  rw [hfound] at hother
  cases hother
  rfl

/-- The ownership of an object is removed. -/
theorem unregister (h : Agrees policyId records tables)
    (hfound : tables.registrations.lookup object = some registration) :
    Agrees policyId (records.erase (.owner object registration.owner))
      (tables.unregister object) where
  registered_iff other found := by
    rw [PolicyTables.unregister, SortedMap.get?_erase_eq_some_iff, ← h.registered_iff]
    by_cases hobject : other = object
    · subst hobject
      rw [Finmap.lookup_erase, hfound]
      constructor
      · rintro ⟨⟩
      · rintro ⟨hne, ⟨⟩⟩
        exact absurd rfl hne
    · have hne : Relationship.owner other found.owner ≠ .owner object registration.owner := by
        intro heq
        exact hobject (congrArg Relationship.object heq)
      rw [Finmap.lookup_erase_ne hobject, and_iff_right hne]
  related_eq relationship := by
    rw [PolicyTables.unregister, h.related_eq]
    by_cases hown : relationship.isOwnership
    · rw [if_pos hown, if_pos hown]
    · have hne : relationship ≠ .owner object registration.owner := by
        rintro rfl
        exact hown rfl
      rw [if_neg hown, if_neg hown, SortedMap.get?_erase,
        if_neg (mt Std.LawfulEqOrd.eq_of_compare hne)]

/-! ### What is read -/

/-- **The search finds what the table says**, in coherent records. -/
theorem registration?_eq (h : Agrees policyId records tables)
    (hcoherent : records.Coherent policyId) (object : Object) :
    records.registration? object = (tables.registrations.lookup object).map fun registration =>
      (.owner object registration.owner, registration.record policyId object) := by
  refine Option.ext fun ⟨ownership, record⟩ => ?_
  rw [hcoherent.registration?_eq_some_iff, Option.map_eq_some_iff]
  constructor
  · rintro ⟨rfl, hget⟩
    have hfits := hcoherent.fits _ _ hget
    -- All that a record of an ownership says beside these two is in its place in the map.
    have hrecord : Registration.record ⟨record.provenance, record.archived⟩ policyId object =
        record := by
      rw [Registration.record, ← hfits.policyId_eq]
      show (⟨_, .owner object record.owner, _, _⟩ : RelationshipRecord) = _
      rw [← hfits.relationship_eq]
    refine ⟨⟨record.provenance, record.archived⟩, ?_, Prod.ext rfl hrecord⟩
    rw [h.registered_iff, hrecord]
    exact hget
  · rintro ⟨registration, hfound, heq⟩
    obtain ⟨rfl, rfl⟩ := Prod.mk.inj heq
    exact ⟨rfl, (h.registered_iff _ _).mp hfound⟩

/-- **What is counted by the sizes is what is on the object.** -/
theorem relationshipCount_eq (h : Agrees policyId records tables) (object : Object) :
    records.relationshipCount object = UInt64.ofNat (tables.relationshipsOn object).card := by
  have hkeys : (records.relationshipsOn object).toFinset = tables.relationshipsOn object := by
    ext relationship
    rw [List.mem_toFinset, PolicyRecords.mem_relationshipsOn_iff, PolicyTables.relationshipsOn,
      Finset.mem_filter, Finmap.mem_keys, Finmap.mem_iff, h.related_eq]
    by_cases hown : relationship.isOwnership
    · simp [hown]
    · simp [hown, and_comm]
  rw [PolicyRecords.relationshipCount_eq_length, ← hkeys,
    List.toFinset_card_of_nodup PolicyRecords.nodup_relationshipsOn]

end Agrees

theorem lookup_of_owned? (h : tables.owned? object actor = .ok (some registration)) :
    tables.registrations.lookup object = some registration := by
  rw [owned?] at h
  split at h
  · cases h
  · rename_i found hfound
    split at h
    · cases h
      exact hfound
    · cases h

/-! ### How many relationships there are -/

/-- No object has more than one relationship more. -/
def GrowsByOne (tables tables' : PolicyTables) : Prop :=
  ∀ object, (tables'.relationshipsOn object).card ≤ (tables.relationshipsOn object).card + 1

theorem growsByOne_of_subset {tables' : PolicyTables}
    (h : tables'.relationships.keys ⊆ tables.relationships.keys) : GrowsByOne tables tables' :=
  fun _ => Nat.le_succ_of_le (Finset.card_le_card (Finset.filter_subset_filter _ h))

theorem growsByOne_relate : GrowsByOne tables (tables.relate record) := by
  intro object
  have hsubset : (tables.relate record).relationshipsOn object ⊆
      insert record.relationship (tables.relationshipsOn object) := by
    intro relationship hmem
    obtain ⟨hkey, hobject⟩ := Finset.mem_filter.mp hmem
    rw [Finmap.mem_keys, relate, Finmap.mem_insert] at hkey
    rw [Finset.mem_insert]
    exact hkey.imp_right fun hkey => Finset.mem_filter.mpr ⟨Finmap.mem_keys.mpr hkey, hobject⟩
  exact (Finset.card_le_card hsubset).trans (Finset.card_insert_le _ _)

theorem growsByOne_unrelate : GrowsByOne tables (tables.unrelate relationship) := by
  refine growsByOne_of_subset ?_
  rw [unrelate, Finmap.keys_erase]
  exact Finset.erase_subset _ _

theorem keys_clear_subset :
    (tables.clear object).relationships.keys ⊆ tables.relationships.keys := by
  intro relationship hmem
  obtain ⟨record, hrecord⟩ := Finmap.mem_iff.mp (Finmap.mem_keys.mp hmem)
  rw [lookup_clear] at hrecord
  split at hrecord
  · cases hrecord
  · exact Finmap.mem_keys.mpr (Finmap.mem_of_lookup_eq_some hrecord)

end PolicyTables

/-! ### Relationships that may be set -/

/-- The checks of a relationship come to the same. -/
theorem TableEngine.refusal?_eq (relationship : Relationship) :
    MemoryEngine.checkRelationship relationship =
      match refusal? relationship with
      | some error => .error error
      | none => .ok () := by
  rw [MemoryEngine.checkRelationship, refusal?]
  have hformed : (!relationship.object.isWellFormed || relationship.relation.isEmpty) = true ↔
      ¬ relationship.object.isWellFormed ∨ relationship.relation = "" := by
    simp
  have hown : relationship.isOwnership = true ↔
      relationship.relation = Relationship.ownerRelation := by
    simp [Relationship.isOwnership]
  by_cases hleft : ¬ relationship.object.isWellFormed ∨ relationship.relation = ""
  · rw [if_pos (hformed.mpr hleft), if_pos hleft]
  · rw [if_neg (mt hformed.mp hleft), if_neg hleft]
    by_cases howner : relationship.relation = Relationship.ownerRelation
    · rw [if_pos (hown.mpr howner), if_pos howner]
    · rw [if_neg (mt hown.mp howner), if_neg howner]
      cases relationship.subject with
      | actor did | allActors => rfl
      | object target | actorSet target relation =>
        cases htarget : target.isWellFormed <;>
          simp only [Subject.target?, Option.all_some, htarget, if_true, Bool.false_eq_true,
            if_false]

/-- A relationship that is not refused is no ownership. -/
theorem TableEngine.isOwnership_eq_false_of_refusal? {relationship : Relationship}
    (h : refusal? relationship = none) : relationship.isOwnership = false := by
  have hcheck := refusal?_eq relationship
  rw [h] at hcheck
  exact (PolicyRecords.of_checkRelationship_eq_ok hcheck).2.2

/-! ### All policies -/

theorem TableEngine.relationshipCount_withPolicy {tables : TableEngine} {policy : PolicyTables}
    {policyId : String} {object : Object} (other : String) :
    (tables.withPolicy policyId policy).relationshipCount other object =
      if other = policyId then (policy.relationshipsOn object).card
      else tables.relationshipCount other object := by
  rw [relationshipCount, withPolicy]
  by_cases hother : other = policyId
  · rw [if_pos hother, hother, Finmap.lookup_insert]
  · rw [if_neg hother, Finmap.lookup_insert_of_ne _ hother, relationshipCount]

namespace MemoryEngine

open PolicyTables (Agrees GrowsByOne)

variable {engine : MemoryEngine} {tables : TableEngine} {policyId : String} {object : Object}
  {actor : Did} {records records' : PolicyRecords} {policy policy' : PolicyTables} {α : Type}

/-- The engine and the tables have the same policies, and say the same of each. -/
def Simulates (engine : MemoryEngine) (tables : TableEngine) : Prop :=
  ∀ policyId, Option.Rel (Agrees policyId) (engine.policies.get? policyId)
    (tables.policies.lookup policyId)

theorem simulates_empty : Simulates .empty .empty :=
  fun _ => .none

/-- A policy exists on neither side, or on both. -/
theorem Simulates.none_or_some (h : engine.Simulates tables) (policyId : String) :
    (engine.policies.get? policyId = none ∧ tables.policies.lookup policyId = none) ∨
      ∃ records policy, engine.policies.get? policyId = some records ∧
        tables.policies.lookup policyId = some policy ∧ Agrees policyId records policy := by
  have hpolicy := h policyId
  generalize engine.policies.get? policyId = found, tables.policies.lookup policyId = found'
    at hpolicy
  cases hpolicy with
  | none => exact .inl ⟨rfl, rfl⟩
  | @some records policy hagrees => exact .inr ⟨records, policy, rfl, rfl, hagrees⟩

theorem Simulates.withPolicy (h : engine.Simulates tables)
    (hagrees : Agrees policyId records policy) :
    (engine.withPolicy policyId records).Simulates (tables.withPolicy policyId policy) := by
  intro other
  by_cases hother : other = policyId
  · subst hother
    rw [get?_withPolicy_self, TableEngine.withPolicy, Finmap.lookup_insert]
    exact .some hagrees
  · rw [get?_withPolicy_of_ne hother, TableEngine.withPolicy, Finmap.lookup_insert_of_ne _ hother]
    exact h other

/-- A policy that exists on both sides, with the same in it. -/
structure SamePolicy (engine : MemoryEngine) (tables : TableEngine) (policyId : String)
    (records : PolicyRecords) (policy : PolicyTables) : Prop where
  get?_eq : engine.policies.get? policyId = some records
  lookup_eq : tables.policies.lookup policyId = some policy
  agrees : Agrees policyId records policy
  coherent : records.Coherent policyId

theorem Simulates.none_or_samePolicy (h : engine.Simulates tables) (hcoherent : engine.Coherent)
    (policyId : String) :
    (engine.policies.get? policyId = none ∧ tables.policies.lookup policyId = none) ∨
      ∃ records policy, SamePolicy engine tables policyId records policy := by
  rcases h.none_or_some policyId with hnone | ⟨records, policy, hrecords, hpolicy, hagrees⟩
  · exact .inl hnone
  · exact .inr ⟨records, policy, hrecords, hpolicy, hagrees, hcoherent _ _ hrecords⟩

/-- An owner is found, or missed, or somebody else, in the records as in the tables. -/
theorem SamePolicy.ownedRegistration?_eq (h : SamePolicy engine tables policyId records policy)
    (object : Object) (actor : Did) :
    ownedRegistration? policyId object actor engine =
      (policy.owned? object actor).map fun found => found.map fun registration =>
        (.owner object registration.owner, registration.record policyId object) := by
  rw [MemoryEngine.ownedRegistration?, policy_eq_ok_iff.mpr h.get?_eq, PolicyTables.owned?]
  dsimp only [bind, Except.bind]
  rw [h.agrees.registration?_eq h.coherent]
  cases policy.registrations.lookup object with
  | none => rfl
  | some registration =>
    by_cases howner : registration.owner = actor
    · subst howner
      simp only [Option.map_some, Registration.owner_record, if_true]
      rfl
    · simp only [Option.map_some, Registration.owner_record, howner, if_false]
      rfl

/-- The run of an operation on the engine beside the answer of the tables: they are the same error,
and the engine is as it was, or the same outcome with engines of which one simulates the other, and
then no object has more than one relationship more than before. -/
inductive SameResult (engine : MemoryEngine) (tables : TableEngine) :
    Except EngineError α × MemoryEngine → Except EngineError (α × TableEngine) → Prop
  | error (error : EngineError) : SameResult engine tables (.error error, engine) (.error error)
  | ok {engine' : MemoryEngine} {tables' : TableEngine} (outcome : α)
      (simulates : engine'.Simulates tables')
      (grows : ∀ policyId object, tables'.relationshipCount policyId object ≤
        tables.relationshipCount policyId object + 1) :
    SameResult engine tables (.ok outcome, engine') (.ok (outcome, tables'))

namespace SameResult

theorem unchanged (h : engine.Simulates tables) (outcome : α) :
    SameResult engine tables (.ok outcome, engine) (.ok (outcome, tables)) :=
  .ok outcome h fun _ _ => Nat.le_succ _

/-- Records and tables of one policy are replaced. -/
theorem withPolicy (h : engine.Simulates tables)
    (hpolicy : SamePolicy engine tables policyId records policy)
    (hagrees : Agrees policyId records' policy') (hgrows : GrowsByOne policy policy')
    (outcome : α) :
    SameResult engine tables (.ok outcome, engine.withPolicy policyId records')
      (.ok (outcome, tables.withPolicy policyId policy')) := by
  refine .ok outcome (h.withPolicy hagrees) fun other object => ?_
  rw [TableEngine.relationshipCount_withPolicy]
  split
  · rename_i hother
    rw [hother, TableEngine.relationshipCount, hpolicy.lookup_eq]
    exact hgrows object
  · exact Nat.le_succ _

/-- The records of a policy are put back as they were. -/
theorem kept (h : engine.Simulates tables)
    (hpolicy : SamePolicy engine tables policyId records policy) (outcome : α) :
    SameResult engine tables (.ok outcome, engine.withPolicy policyId records)
      (.ok (outcome, tables)) := by
  rw [withPolicy_self hpolicy.get?_eq]
  exact .unchanged h outcome

/-- To go on with the registration of an object: there is no such policy on both sides, or the
object is somebody else's on both, or nobody's, or the actor's. -/
theorem bind_owned {next : Option (Relationship × RelationshipRecord) →
      Action MemoryEngine EngineError α}
    {next' : PolicyTables → Option Registration → Except EngineError (α × TableEngine)}
    (h : engine.Simulates tables) (hcoherent : engine.Coherent)
    (hnone : ∀ policy, SameResult engine tables ((next none).run engine) (next' policy none))
    (hsome : ∀ records policy registration, SamePolicy engine tables policyId records policy →
      policy.registrations.lookup object = some registration →
      SameResult engine tables
        ((next (some (.owner object registration.owner,
          registration.record policyId object))).run engine)
        (next' policy (some registration))) :
    SameResult engine tables
      ((Action.read (ownedRegistration? policyId object actor) >>= next).run engine)
      (tables.policy policyId >>= fun policy => policy.owned? object actor >>= next' policy) := by
  rw [Action.run_bind, Action.run_read]
  rcases h.none_or_samePolicy hcoherent policyId with
    ⟨hrecords, hpolicy⟩ | ⟨records, policy, hpolicy⟩
  · rw [ownedRegistration?, MemoryEngine.policy, TableEngine.policy, hrecords, hpolicy]
    exact .error _
  · rw [hpolicy.ownedRegistration?_eq, TableEngine.policy, hpolicy.lookup_eq]
    show SameResult engine tables _ (policy.owned? object actor >>= next' policy)
    cases howned : policy.owned? object actor with
    | error error => exact .error error
    | ok found =>
      cases found with
      | none => exact hnone policy
      | some registration =>
        exact hsome records policy registration hpolicy (PolicyTables.lookup_of_owned? howned)

/-- To work on a policy: it exists on neither side, or on both. -/
theorem onPolicy {action : Action PolicyRecords EngineError α}
    {next' : PolicyTables → Except EngineError (α × TableEngine)} (h : engine.Simulates tables)
    (hcoherent : engine.Coherent)
    (hnext : ∀ records policy, SamePolicy engine tables policyId records policy →
      SameResult engine tables
        ((action.run records).1, engine.withPolicy policyId (action.run records).2)
        (next' policy)) :
    SameResult engine tables ((onPolicy policyId action).run engine)
      (tables.policy policyId >>= next') := by
  rcases h.none_or_samePolicy hcoherent policyId with
    ⟨hrecords, hpolicy⟩ | ⟨records, policy, hpolicy⟩
  · rw [MemoryEngine.onPolicy, Action.run_ofStep, TableEngine.policy, hrecords, hpolicy]
    exact .error _
  · rw [run_onPolicy hpolicy.get?_eq, TableEngine.policy, hpolicy.lookup_eq]
    exact hnext records policy hpolicy

end SameResult

/-! ### Operation by operation -/

section

variable (h : engine.Simulates tables) (hcoherent : engine.Coherent) (policyId : String)
  (relationship : Relationship) (object : Object) (actor : Did) (provenance : Provenance)
include h hcoherent

theorem sameResult_setRelationship :
    SameResult engine tables ((setRelationship policyId relationship provenance).run engine)
      (tables.setRelationship policyId relationship provenance) := by
  rw [setRelationship, TableEngine.setRelationship, Action.run_bind, Action.run_read,
    TableEngine.refusal?_eq]
  cases hrefusal : TableEngine.refusal? relationship with
  | some error => exact .error error
  | none =>
    have hown := TableEngine.isOwnership_eq_false_of_refusal? hrefusal
    refine .bind_owned h hcoherent (fun _ => .error _) ?_
    intro records policy registration hpolicy hregistration
    have hrelated : policy.relationships.lookup relationship = records.get? relationship := by
      rw [hpolicy.agrees.related_eq, hown, if_neg Bool.false_ne_true]
    obtain ⟨owned, archived⟩ := registration
    cases archived with
    | true => exact .error _
    | false =>
      simp only [Registration.record, Bool.false_eq_true, if_false, hrelated]
      rw [run_onPolicy hpolicy.get?_eq, Action.run_bind, Action.run_read]
      cases records.get? relationship with
      | some record => exact .kept h hpolicy _
      | none =>
        exact .withPolicy h hpolicy
          (hpolicy.agrees.relate ⟨policyId, relationship, false, provenance⟩ hown)
          PolicyTables.growsByOne_relate _

theorem sameResult_deleteRelationship :
    SameResult engine tables ((deleteRelationship policyId relationship actor).run engine)
      (tables.deleteRelationship policyId relationship actor) := by
  rw [deleteRelationship, TableEngine.deleteRelationship, Action.run_bind, Action.run_read,
    TableEngine.refusal?_eq]
  cases hrefusal : TableEngine.refusal? relationship with
  | some error => exact .error error
  | none =>
    have hown := TableEngine.isOwnership_eq_false_of_refusal? hrefusal
    refine .bind_owned h hcoherent (fun _ => .error _) ?_
    intro records policy registration hpolicy hregistration
    have hfound : (records.get? relationship).isSome =
        decide (relationship ∈ policy.relationships) := by
      rw [Bool.eq_iff_iff, decide_eq_true_iff, ← Finmap.lookup_isSome, hpolicy.agrees.related_eq,
        hown, if_neg Bool.false_ne_true]
    simp only [run_onPolicy hpolicy.get?_eq, ← hfound]
    exact .withPolicy h hpolicy (hpolicy.agrees.unrelate hown) PolicyTables.growsByOne_unrelate _

theorem sameResult_register :
    SameResult engine tables ((register policyId object provenance).run engine)
      (tables.register policyId object provenance) := by
  rw [register, TableEngine.register, Action.run_bind, Action.run_read, checkObject]
  by_cases hformed : object.isWellFormed = true
  · rw [if_pos hformed, if_neg (not_not.mpr hformed)]
    refine .onPolicy h hcoherent fun records policy hpolicy => ?_
    rw [Action.run_bind, Action.run_read, hpolicy.agrees.registration?_eq hpolicy.coherent]
    cases hfound : policy.registrations.lookup object with
    | none =>
      have hagrees' := hpolicy.agrees.register object ⟨provenance, false⟩ fun other hother => by
        rw [hfound] at hother
        cases hother
      exact .withPolicy h hpolicy hagrees' (PolicyTables.growsByOne_of_subset subset_rfl) _
    | some registration =>
      simp only [Option.map_some]
      by_cases howner : registration.owner = provenance.owner
      · have howner' : (registration.record policyId object).owner = provenance.owner := howner
        rw [if_neg (not_not.mpr howner'), if_neg (not_not.mpr howner)]
        have hchanged := hpolicy.agrees.setArchived hfound false
        obtain ⟨owned, archived⟩ := registration
        cases archived with
        | true =>
          exact .withPolicy h hpolicy hchanged (PolicyTables.growsByOne_of_subset subset_rfl) _
        | false => exact .kept h hpolicy _
      · have howner' : (registration.record policyId object).owner ≠ provenance.owner := howner
        rw [if_pos howner', if_pos howner, Action.run_throw, withPolicy_self hpolicy.get?_eq]
        exact .error _
  · rw [if_neg hformed, if_pos hformed]
    exact .error _

theorem sameResult_unregister :
    SameResult engine tables ((unregister policyId object actor).run engine)
      (tables.unregister policyId object actor) := by
  refine .bind_owned h hcoherent (fun _ => .unchanged h _) ?_
  intro records policy registration hpolicy hregistration
  rw [run_onPolicy hpolicy.get?_eq, ← hpolicy.agrees.relationshipCount_eq]
  exact .withPolicy h hpolicy ((hpolicy.agrees.clear object).unregister hregistration)
    (PolicyTables.growsByOne_of_subset PolicyTables.keys_clear_subset) _

theorem sameResult_archive :
    SameResult engine tables ((archive policyId object actor).run engine)
      (tables.archive policyId object actor) := by
  refine .bind_owned h hcoherent (fun _ => .unchanged h _) ?_
  intro records policy registration hpolicy hregistration
  have hfound : (policy.clear object).registrations.lookup object = some registration :=
    hregistration
  have hchanged := (hpolicy.agrees.clear object).setArchived hfound true
  obtain ⟨owned, archived⟩ := registration
  cases archived with
  | true => exact .unchanged h _
  | false =>
    simp only [Registration.record, Bool.false_eq_true, if_false]
    rw [run_onPolicy hpolicy.get?_eq, ← hpolicy.agrees.relationshipCount_eq]
    exact .withPolicy h hpolicy hchanged
      (PolicyTables.growsByOne_of_subset PolicyTables.keys_clear_subset) _

theorem sameResult_unarchive :
    SameResult engine tables ((unarchive policyId object actor).run engine)
      (tables.unarchive policyId object actor) := by
  refine .bind_owned h hcoherent (fun _ => .error _) ?_
  intro records policy registration hpolicy hregistration
  have hchanged := hpolicy.agrees.setArchived hregistration false
  obtain ⟨owned, archived⟩ := registration
  cases archived with
  | true =>
    simp only [Registration.record, if_true]
    rw [Action.run_bind, run_onPolicy hpolicy.get?_eq]
    exact .withPolicy h hpolicy hchanged (PolicyTables.growsByOne_of_subset subset_rfl) _
  | false => exact .unchanged h _

theorem sameResult_amend :
    SameResult engine tables ((amend policyId object provenance).run engine)
      (tables.amend policyId object provenance) := by
  refine .onPolicy h hcoherent fun records policy hpolicy => ?_
  rw [Action.run_bind, Action.run_read, hpolicy.agrees.registration?_eq hpolicy.coherent]
  cases hfound : policy.registrations.lookup object with
  | none =>
    simp only [Option.map_none, Action.run_throw, withPolicy_self hpolicy.get?_eq]
    exact .error _
  | some previous =>
    -- Between the two changes nobody owns the object.
    have hagrees' := (hpolicy.agrees.unregister hfound).register object
      ⟨provenance, previous.archived⟩ fun other hother => by
        rw [PolicyTables.unregister, Finmap.lookup_erase] at hother
        cases hother
    have hsame : (policy.unregister object).register object ⟨provenance, previous.archived⟩ =
        policy.register object ⟨provenance, previous.archived⟩ := by
      rw [PolicyTables.register, PolicyTables.register, PolicyTables.unregister,
        PolicyTables.mk.injEq]
      refine ⟨Finmap.ext_lookup fun other => ?_, rfl⟩
      by_cases hother : other = object
      · rw [hother, Finmap.lookup_insert, Finmap.lookup_insert]
      · rw [Finmap.lookup_insert_of_ne _ hother, Finmap.lookup_erase_ne hother,
          Finmap.lookup_insert_of_ne _ hother]
    rw [hsame] at hagrees'
    exact .withPolicy h hpolicy hagrees' (PolicyTables.growsByOne_of_subset subset_rfl) _

end

/-- A policy is added on both sides, or there already on both. -/
theorem sameResult_createPolicy (h : engine.Simulates tables) (policyId : String) :
    SameResult engine tables
      (.ok (engine.createPolicy policyId).1, (engine.createPolicy policyId).2)
      (.ok (tables.createPolicy policyId)) := by
  rw [createPolicy, TableEngine.createPolicy]
  rcases h.none_or_some policyId with
    ⟨hrecords, hpolicy⟩ | ⟨records, policy, hrecords, hpolicy, hagrees⟩
  · rw [hrecords, if_neg (Finmap.lookup_eq_none.mp hpolicy)]
    refine .ok true (h.withPolicy .empty) fun other object => ?_
    rw [TableEngine.relationshipCount_withPolicy]
    split
    · exact Nat.zero_le _
    · exact Nat.le_succ _
  · rw [hrecords, if_pos (Finmap.mem_of_lookup_eq_some hpolicy)]
    exact .unchanged h false

/-! ### Sequences of operations -/

/-- Two runs of an operation, which may have failed, with the same answer and engines of which one
simulates the other. No object has more than one relationship more than before. -/
structure SameRun (tables : TableEngine) (run : α × MemoryEngine) (run' : α × TableEngine) :
    Prop where
  answer_eq : run.1 = run'.1
  simulates : run.2.Simulates run'.2
  grows : ∀ policyId object, run'.2.relationshipCount policyId object ≤
    tables.relationshipCount policyId object + 1

theorem SameResult.sameRun {run : Except EngineError α × MemoryEngine}
    {step' : TableEngine → Except EngineError (α × TableEngine)}
    (hresult : SameResult engine tables run (step' tables)) (h : engine.Simulates tables) :
    SameRun tables run ((Action.attempt step').run tables) := by
  rw [Action.run_attempt]
  generalize step' tables = result' at hresult
  cases hresult with
  | error error => exact ⟨rfl, h, fun _ _ => Nat.le_succ _⟩
  | ok outcome simulates grows => exact ⟨rfl, simulates, grows⟩

theorem SameRun.map {run : α × MemoryEngine} {run' : α × TableEngine} (h : SameRun tables run run')
    (answer : α → EngineAnswer) :
    SameRun tables (run.map answer id) (run'.map answer id) :=
  ⟨congrArg answer h.answer_eq, h.simulates, h.grows⟩

/-- **Whatever the operation is, the two engines answer the same**, and go on to be in step. -/
theorem sameRun_carryOut (h : engine.Simulates tables) (hcoherent : engine.Coherent)
    (operation : Operation) :
    SameRun tables (PolicyEngine.carryOut engine operation)
      (PolicyEngine.carryOut tables operation) := by
  cases operation with
  | createPolicy policyId =>
    have hresult := sameResult_createPolicy h policyId
    refine SameRun.map ?_ _
    show SameRun tables (engine.createPolicy policyId) (tables.createPolicy policyId)
    generalize engine.createPolicy policyId = run, tables.createPolicy policyId = run' at hresult
    cases hresult with
    | ok outcome simulates grows => exact ⟨rfl, simulates, grows⟩
  | setRelationship policyId relationship provenance =>
    have hresult := sameResult_setRelationship h hcoherent policyId relationship provenance
    exact (hresult.sameRun h).map _
  | deleteRelationship policyId relationship actor =>
    have hresult := sameResult_deleteRelationship h hcoherent policyId relationship actor
    exact (hresult.sameRun h).map _
  | register policyId object provenance =>
    exact ((sameResult_register h hcoherent policyId object provenance).sameRun h).map _
  | unregister policyId object actor =>
    exact ((sameResult_unregister h hcoherent policyId object actor).sameRun h).map _
  | archive policyId object actor =>
    exact ((sameResult_archive h hcoherent policyId object actor).sameRun h).map _
  | unarchive policyId object actor =>
    exact ((sameResult_unarchive h hcoherent policyId object actor).sameRun h).map _
  | amend policyId object provenance =>
    exact ((sameResult_amend h hcoherent policyId object provenance).sameRun h).map _

theorem snd_carryOut (engine : MemoryEngine) (operation : Operation) :
    (PolicyEngine.carryOut engine operation).2 = engine.after operation := by
  cases operation <;> rfl

/-- What comes of a sequence of operations on an engine and on tables that it simulates. -/
structure SameRuns (operations : List Operation) (engine : MemoryEngine) (tables : TableEngine) :
    Prop where
  answers_eq : (PolicyEngine.carryOutAll operations engine).1 =
    (PolicyEngine.carryOutAll operations tables).1
  reachable : Reachable (PolicyEngine.carryOutAll operations engine).2
  simulates : (PolicyEngine.carryOutAll operations engine).2.Simulates
    (PolicyEngine.carryOutAll operations tables).2
  grows : ∀ policyId object,
    (PolicyEngine.carryOutAll operations tables).2.relationshipCount policyId object ≤
      tables.relationshipCount policyId object + operations.length

theorem Reachable.sameRuns (hreachable : Reachable engine) (h : engine.Simulates tables)
    (operations : List Operation) : SameRuns operations engine tables := by
  induction operations generalizing engine tables with
  | nil => exact ⟨rfl, hreachable, h, fun _ _ => le_rfl⟩
  | cons operation operations ih =>
    have hstep := sameRun_carryOut h hreachable.coherent operation
    have hreachable' : Reachable (PolicyEngine.carryOut engine operation).2 := by
      rw [snd_carryOut]
      exact hreachable.after operation
    have hruns := ih hreachable' hstep.simulates
    constructor
    · rw [PolicyEngine.carryOutAll_cons, PolicyEngine.carryOutAll_cons, hstep.answer_eq,
        hruns.answers_eq]
    · exact hruns.reachable
    · exact hruns.simulates
    · intro policyId object
      have hfirst := hstep.grows policyId object
      have hrest := hruns.grows policyId object
      rw [PolicyEngine.carryOutAll_cons, List.length_cons]
      exact hrest.trans (by omega)

/-! ### Reads -/

theorem Simulates.policyExists_eq (h : engine.Simulates tables) (policyId : String) :
    RelationshipEngine.policyExists engine policyId =
      RelationshipEngine.policyExists tables policyId := by
  show Except.ok (engine.policies.get? policyId).isSome =
    Except.ok (decide (policyId ∈ tables.policies))
  rcases h.none_or_some policyId with
    ⟨hrecords, hpolicy⟩ | ⟨records, policy, hrecords, hpolicy, hagrees⟩
  · rw [hrecords, decide_eq_false (Finmap.lookup_eq_none.mp hpolicy)]
    rfl
  · rw [hrecords, decide_eq_true (Finmap.mem_of_lookup_eq_some hpolicy)]
    rfl

theorem Simulates.registration?_eq (h : engine.Simulates tables) (hcoherent : engine.Coherent)
    (policyId : String) (object : Object) :
    RelationshipEngine.registration? engine policyId object =
      RelationshipEngine.registration? tables policyId object := by
  show (engine.policy policyId >>= fun records => pure ((records.registration? object).map (·.2))) =
    (tables.policy policyId >>= fun policy =>
      pure ((policy.registrations.lookup object).map (·.record policyId object)))
  rw [MemoryEngine.policy, TableEngine.policy]
  rcases h.none_or_some policyId with
    ⟨hrecords, hpolicy⟩ | ⟨records, policy, hrecords, hpolicy, hagrees⟩
  · rw [hrecords, hpolicy]
    rfl
  · rw [hrecords, hpolicy]
    show Except.ok ((records.registration? object).map (·.2)) = _
    rw [hagrees.registration?_eq (hcoherent _ _ hrecords), Option.map_map]
    rfl

/-- **One map does the work of two tables.** Whatever the operations are, of whomever and in
whatever order, the engine in memory answers each of them as two tables do: with the same error, or
with the same outcome. Afterwards the two say the same of which policies exist and of who owns an
object, or for what reason they cannot say it. The relationships on an object are never more than
there were operations, so the number that went with an object is exact as long as the operations can
be counted in a word. -/
theorem answers_eq_tables (operations : List Operation) :
    let run := PolicyEngine.carryOutAll operations MemoryEngine.empty
    let run' := PolicyEngine.carryOutAll operations TableEngine.empty
    run.1 = run'.1 ∧
      (∀ policyId, RelationshipEngine.policyExists run.2 policyId =
        RelationshipEngine.policyExists run'.2 policyId) ∧
      (∀ policyId object, RelationshipEngine.registration? run.2 policyId object =
        RelationshipEngine.registration? run'.2 policyId object) ∧
      ∀ policyId object, run'.2.relationshipCount policyId object ≤ operations.length := by
  have hruns := Reachable.empty.sameRuns simulates_empty operations
  refine ⟨hruns.answers_eq, hruns.simulates.policyExists_eq,
    hruns.simulates.registration?_eq hruns.reachable.coherent, fun policyId object => ?_⟩
  have hempty : TableEngine.empty.relationshipCount policyId object = 0 := rfl
  have hgrows := hruns.grows policyId object
  rwa [hempty, Nat.zero_add] at hgrows

end MemoryEngine

end AccessControl
