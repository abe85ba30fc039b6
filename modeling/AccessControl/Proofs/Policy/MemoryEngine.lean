import AccessControl.Proofs.Policy.Records

/-!
# The relationship engine in memory, operation by operation

An operation that succeeds replaces the records of one policy. For those of an owner,
`MemoryEngine.Edit` says by what: a `PolicyRecords.Change` of one object. The other operation takes
an object over (`MemoryEngine.run_amend_eq_ok_iff`), and `MemoryEngine.TakenOver` says what comes of
it.

`MemoryEngine.Reachable` are the engines that operations lead to. All their policies are coherent.
-/

namespace AccessControl.MemoryEngine

variable {engine engine' : MemoryEngine} {policyId : String} {object : Object} {actor : Did}
  {relationship ownership : Relationship} {registration registration' : RelationshipRecord}
  {provenance : Provenance} {records : PolicyRecords}

/-! ### Parts of the operations -/

theorem policy_eq_ok_iff :
    engine.policy policyId = .ok records ↔ engine.policies.get? policyId = some records := by
  rw [policy]
  cases engine.policies.get? policyId <;> simp

/-- The check of an owner looks the object up in the records of its policy. -/
theorem ownedRegistration?_eq_ok_iff {found : Option (Relationship × RelationshipRecord)} :
    ownedRegistration? policyId object actor engine = .ok found ↔
      ∃ records, engine.policies.get? policyId = some records ∧
        records.registration? object = found ∧
        ∀ registration ∈ found, registration.2.owner = actor := by
  rw [ownedRegistration?, bind_eq_ok_iff]
  refine exists_congr fun records => ?_
  rw [policy_eq_ok_iff]
  refine and_congr_right fun _ => ?_
  split
  · rename_i ownership registration hfound
    rw [hfound]
    by_cases howner : registration.owner = actor
    · rw [if_pos howner]
      constructor
      · rintro ⟨⟩
        simpa using howner
      · rintro ⟨rfl, -⟩
        rfl
    · rw [if_neg howner]
      constructor
      · rintro ⟨⟩
      · rintro ⟨rfl, h⟩
        exact absurd (h _ rfl) howner
  · rename_i hnone
    rw [hnone]
    constructor
    · rintro ⟨⟩
      simp
    · rintro ⟨rfl, -⟩
      rfl

theorem checkObject_eq_ok_iff : checkObject object = .ok () ↔ object.isWellFormed := by
  rw [checkObject]
  by_cases hformed : object.isWellFormed <;> simp [hformed]

/-- Replacing the records of a policy by themselves changes nothing. -/
theorem withPolicy_self (h : engine.policies.get? policyId = some records) :
    engine.withPolicy policyId records = engine := by
  rw [withPolicy, SortedMap.insert_of_get?_eq_some h]

theorem get?_withPolicy_of_ne {other : String} (h : other ≠ policyId) :
    (engine.withPolicy policyId records).policies.get? other = engine.policies.get? other :=
  SortedMap.get?_insert_of_ne h

theorem get?_withPolicy_self :
    (engine.withPolicy policyId records).policies.get? policyId = some records :=
  SortedMap.get?_insert_self

/-- What is done in a policy that exists is done to its records. -/
theorem run_onPolicy {α : Type} (h : engine.policies.get? policyId = some records)
    (action : Action PolicyRecords EngineError α) :
    (onPolicy policyId action).run engine =
      ((action.run records).1, engine.withPolicy policyId (action.run records).2) := by
  rw [onPolicy, Action.run_ofStep, h]

theorem run_onPolicy_eq_ok_iff {α : Type} {action : Action PolicyRecords EngineError α}
    {outcome : α} :
    (onPolicy policyId action).run engine = (.ok outcome, engine') ↔
      ∃ records records', engine.policies.get? policyId = some records ∧
        action.run records = (.ok outcome, records') ∧
        engine' = engine.withPolicy policyId records' := by
  rcases h : engine.policies.get? policyId with _ | records
  · rw [onPolicy, Action.run_ofStep, h]
    constructor
    · rintro ⟨⟩
    · rintro ⟨_, _, ⟨⟩, -⟩
  · rw [run_onPolicy h, Prod.mk.injEq]
    constructor
    · rintro ⟨houtcome, rfl⟩
      exact ⟨records, _, rfl, Prod.ext houtcome rfl, rfl⟩
    · rintro ⟨_, records', ⟨⟩, hrun, rfl⟩
      rw [hrun]
      exact ⟨rfl, rfl⟩

/-- The record of an ownership is found in the records of its policy. -/
theorem registration?_eq_ok_iff {found : Option RelationshipRecord} :
    RelationshipEngine.registration? engine policyId object = .ok found ↔
      ∃ records, engine.policies.get? policyId = some records ∧
        (records.registration? object).map (·.2) = found := by
  show (engine.policy policyId >>= fun records =>
    pure ((records.registration? object).map (·.2))) = _ ↔ _
  simp only [bind_eq_ok_iff, policy_eq_ok_iff, pure_eq_ok_iff]

/-! ### Single records -/

/-- The record that is kept for a relationship in a policy. -/
def record? (engine : MemoryEngine) (policyId : String) (relationship : Relationship) :
    Option RelationshipRecord :=
  (engine.policies.get? policyId).bind (·.get? relationship)

theorem record?_of_get? (h : engine.policies.get? policyId = some records) :
    engine.record? policyId relationship = records.get? relationship := by
  rw [record?, h, Option.bind_some]

theorem record?_eq_some_iff :
    engine.record? policyId relationship = some registration ↔
      ∃ records, engine.policies.get? policyId = some records ∧
        records.get? relationship = some registration :=
  Option.bind_eq_some_iff

theorem record?_withPolicy :
    (engine.withPolicy policyId records).record? policyId relationship =
      records.get? relationship :=
  record?_of_get? get?_withPolicy_self

/-! ### Operations of an owner -/

/-- An operation of an actor on an object of a policy was carried out. -/
def Edit (policyId : String) (actor : Did) (object : Object) (engine engine' : MemoryEngine) :
    Prop :=
  ∃ records records', engine.policies.get? policyId = some records ∧
    PolicyRecords.Change policyId actor object records records' ∧
    engine' = engine.withPolicy policyId records'

/-- An operation that finds nothing to do. -/
theorem edit_self (h : engine.policies.get? policyId = some records) :
    Edit policyId actor object engine engine :=
  ⟨records, records, h, .kept, (withPolicy_self h).symm⟩

/-- An operation that works on the records of its policy. -/
theorem edit_of_run_onPolicy {α : Type} {action : Action PolicyRecords EngineError α} {outcome : α}
    (h : (onPolicy policyId action).run engine = (.ok outcome, engine'))
    (hchange : ∀ records records', engine.policies.get? policyId = some records →
      action.run records = (.ok outcome, records') →
      PolicyRecords.Change policyId actor object records records') :
    Edit policyId actor object engine engine' := by
  obtain ⟨records, records', hrecords, hrun, rfl⟩ := run_onPolicy_eq_ok_iff.mp h
  exact ⟨records, records', hrecords, hchange records records' hrecords hrun, rfl⟩

/-- An operation of an owner goes by the registration that is found. -/
theorem edit_of_run_owned {α : Type}
    {next : Option (Relationship × RelationshipRecord) → Action MemoryEngine EngineError α}
    {outcome : α}
    (h : (Action.read (ownedRegistration? policyId object actor) >>= next).run engine =
      (.ok outcome, engine'))
    (hnone : ∀ records, engine.policies.get? policyId = some records →
      (next none).run engine = (.ok outcome, engine') →
      Edit policyId actor object engine engine')
    (hsome : ∀ records ownership registration, engine.policies.get? policyId = some records →
      records.registration? object = some (ownership, registration) → registration.owner = actor →
      (next (some (ownership, registration))).run engine = (.ok outcome, engine') →
      Edit policyId actor object engine engine') :
    Edit policyId actor object engine engine' := by
  simp only [Action.run_bind_eq_ok_iff, Action.run_read_eq_ok_iff, ownedRegistration?_eq_ok_iff]
    at h
  obtain ⟨found, _, ⟨⟨records, hrecords, hfound, howner⟩, rfl⟩, h⟩ := h
  cases found with
  | none => exact hnone records hrecords h
  | some registration => exact hsome records _ _ hrecords hfound (howner _ rfl) h

theorem edit_of_setRelationship {outcome : SetOutcome}
    (h : (setRelationship policyId relationship provenance).run engine = (.ok outcome, engine')) :
    Edit policyId provenance.owner relationship.object engine engine' := by
  rw [setRelationship, Action.run_bind_eq_ok_iff] at h
  obtain ⟨_, _, hread, h⟩ := h
  obtain ⟨hcheck, rfl⟩ := Action.run_read_eq_ok_iff.mp hread
  refine edit_of_run_owned h (fun _ _ hthrow => absurd hthrow Action.run_throw_ne_ok) ?_
  intro records ownership registration hrecords hfound howner h
  dsimp only at h
  split at h
  · exact absurd h Action.run_throw_ne_ok
  · rename_i huse
    refine edit_of_run_onPolicy h fun found records' hsame hrun => ?_
    obtain rfl : records = found := Option.some.inj (hrecords.symm.trans hsame)
    rw [Action.run_bind, Action.run_read] at hrun
    dsimp only at hrun
    split at hrun
    · cases hrun
      exact .kept
    · cases hrun
      exact .related hfound howner (Bool.eq_false_iff.mpr huse) hcheck rfl rfl

theorem edit_of_deleteRelationship {outcome : DeleteOutcome}
    (h : (deleteRelationship policyId relationship actor).run engine = (.ok outcome, engine')) :
    Edit policyId actor relationship.object engine engine' := by
  rw [deleteRelationship, Action.run_bind_eq_ok_iff] at h
  obtain ⟨_, _, hread, h⟩ := h
  obtain ⟨hcheck, rfl⟩ := Action.run_read_eq_ok_iff.mp hread
  refine edit_of_run_owned h (fun _ _ hthrow => absurd hthrow Action.run_throw_ne_ok) ?_
  intro records ownership registration hrecords hfound howner h
  refine edit_of_run_onPolicy h fun found records' hsame hrun => ?_
  obtain rfl : records = found := Option.some.inj (hrecords.symm.trans hsame)
  cases hrun
  exact .unrelated hfound howner hcheck rfl

theorem edit_of_register {outcome : RegisterOutcome}
    (h : (register policyId object provenance).run engine = (.ok outcome, engine')) :
    Edit policyId provenance.owner object engine engine' := by
  rw [register, Action.run_bind_eq_ok_iff] at h
  obtain ⟨_, _, hread, h⟩ := h
  obtain ⟨hcheck, rfl⟩ := Action.run_read_eq_ok_iff.mp hread
  have hformed := checkObject_eq_ok_iff.mp hcheck
  refine edit_of_run_onPolicy h fun records records' hrecords hrun => ?_
  rw [Action.run_bind, Action.run_read] at hrun
  dsimp only at hrun
  split at hrun
  · rename_i ownership registration hfound
    split at hrun
    · exact absurd hrun Action.run_throw_ne_ok
    · rename_i howner
      split at hrun
      · cases hrun
        exact .unarchived hfound (Decidable.not_not.mp howner)
      · cases hrun
        exact .kept
  · rename_i hnone
    cases hrun
    exact .registered hformed hnone rfl

theorem edit_of_unregister {outcome : UnregisterOutcome}
    (h : (unregister policyId object actor).run engine = (.ok outcome, engine')) :
    Edit policyId actor object engine engine' := by
  refine edit_of_run_owned h ?_ ?_
  · intro records hrecords h
    cases h
    exact edit_self hrecords
  · intro records ownership registration hrecords hfound howner h
    refine edit_of_run_onPolicy h fun found records' hsame hrun => ?_
    obtain rfl : records = found := Option.some.inj (hrecords.symm.trans hsame)
    cases hrun
    exact .unregistered hfound howner

theorem edit_of_archive {outcome : ArchiveOutcome}
    (h : (archive policyId object actor).run engine = (.ok outcome, engine')) :
    Edit policyId actor object engine engine' := by
  refine edit_of_run_owned h ?_ ?_
  · intro records hrecords h
    cases h
    exact edit_self hrecords
  · intro records ownership registration hrecords hfound howner h
    dsimp only at h
    split at h
    · cases h
      exact edit_self hrecords
    · refine edit_of_run_onPolicy h fun found records' hsame hrun => ?_
      obtain rfl : records = found := Option.some.inj (hrecords.symm.trans hsame)
      cases hrun
      exact .archived hfound howner

theorem edit_of_unarchive {outcome : UnarchiveOutcome}
    (h : (unarchive policyId object actor).run engine = (.ok outcome, engine')) :
    Edit policyId actor object engine engine' := by
  refine edit_of_run_owned h (fun _ _ hthrow => absurd hthrow Action.run_throw_ne_ok) ?_
  intro records ownership registration hrecords hfound howner h
  dsimp only at h
  split at h
  · obtain ⟨_, _, hput, hreturn⟩ := Action.run_bind_eq_ok_iff.mp h
    cases hreturn
    refine edit_of_run_onPolicy hput fun found records' hsame hrun => ?_
    obtain rfl : records = found := Option.some.inj (hrecords.symm.trans hsame)
    cases hrun
    exact .unarchived hfound howner
  · cases h
    exact edit_self hrecords

/-- Other policies are left alone. -/
theorem Edit.get?_of_ne (h : Edit policyId actor object engine engine') {other : String}
    (hne : other ≠ policyId) : engine'.policies.get? other = engine.policies.get? other := by
  obtain ⟨records, records', -, -, rfl⟩ := h
  exact get?_withPolicy_of_ne hne

/-- Other objects are left alone. -/
theorem Edit.record?_of_ne (h : Edit policyId actor object engine engine')
    (hne : relationship.object ≠ object) :
    engine'.record? policyId relationship = engine.record? policyId relationship := by
  obtain ⟨records, records', hrecords, hchange, rfl⟩ := h
  rw [record?_withPolicy, record?_of_get? hrecords, hchange.get?_of_ne hne]

/-- **An object of somebody else is left alone.** -/
theorem Edit.eq_of_owner_ne (h : Edit policyId actor object engine engine')
    (hregistration :
      RelationshipEngine.registration? engine policyId object = .ok (some registration))
    (hne : registration.owner ≠ actor) : engine' = engine := by
  obtain ⟨records, records', hrecords, hchange, rfl⟩ := h
  obtain ⟨found, hfound, hsome⟩ := registration?_eq_ok_iff.mp hregistration
  rw [hrecords] at hfound
  cases hfound
  obtain ⟨⟨ownership, registration'⟩, hownership, rfl⟩ := Option.map_eq_some_iff.mp hsome
  rw [hchange.eq_of_owner_ne hownership hne, withPolicy_self hrecords]

/-! ### Taking an object over -/

/-- Whoever asks becomes the owner of a registered object. -/
theorem run_amend_eq_ok_iff {record : RelationshipRecord} :
    (amend policyId object provenance).run engine = (.ok record, engine') ↔
      ∃ records previous, engine.policies.get? policyId = some records ∧
        records.registration? object = some previous ∧
        record = ⟨policyId, .owner object provenance.owner, previous.2.archived, provenance⟩ ∧
        engine' = engine.withPolicy policyId
          (records.transfer policyId object previous provenance) := by
  rw [amend, run_onPolicy_eq_ok_iff]
  refine exists_congr fun records => ?_
  rw [Action.run_bind, Action.run_read]
  dsimp only
  rcases hfound : records.registration? object with _ | ⟨previous, previousRecord⟩
  · constructor
    · rintro ⟨_, -, ⟨⟩, -⟩
    · rintro ⟨_, -, ⟨⟩, -⟩
  · constructor
    · rintro ⟨_, hrecords, ⟨⟩, rfl⟩
      exact ⟨_, hrecords, rfl, rfl, rfl⟩
    · rintro ⟨_, hrecords, ⟨⟩, rfl, rfl⟩
      exact ⟨_, hrecords, rfl, rfl⟩

/-- Whoever owns a registered object, it can be taken over. -/
theorem exists_amend
    (h : RelationshipEngine.registration? engine policyId object = .ok (some registration))
    (provenance : Provenance) :
    ∃ record engine', (amend policyId object provenance).run engine = (.ok record, engine') := by
  obtain ⟨records, hrecords, hfound⟩ := registration?_eq_ok_iff.mp h
  obtain ⟨previous, hprevious, -⟩ := Option.map_eq_some_iff.mp hfound
  exact ⟨_, _, run_amend_eq_ok_iff.mpr ⟨records, previous, hrecords, hprevious, rfl, rfl⟩⟩

theorem get?_of_amend {record : RelationshipRecord} {other : String} (hne : other ≠ policyId)
    (h : (amend policyId object provenance).run engine = (.ok record, engine')) :
    engine'.policies.get? other = engine.policies.get? other := by
  obtain ⟨records, previous, -, -, -, rfl⟩ := run_amend_eq_ok_iff.mp h
  exact get?_withPolicy_of_ne hne

theorem record?_of_amend {relationship : Relationship} {record : RelationshipRecord}
    (hne : relationship.object ≠ object)
    (h : (amend policyId object provenance).run engine = (.ok record, engine')) :
    engine'.record? policyId relationship = engine.record? policyId relationship := by
  obtain ⟨records, previous, hrecords, hprevious, -, rfl⟩ := run_amend_eq_ok_iff.mp h
  rw [record?_withPolicy, record?_of_get? hrecords,
    PolicyRecords.get?_transfer_of_ne hprevious (.inl hne)]

/-- The object that belongs to a registration went to the owner of a provenance. -/
structure TakenOver (policyId : String) (object : Object) (registration : RelationshipRecord)
    (provenance : Provenance) (engine engine' : MemoryEngine) : Prop where
  /-- The record of the new owner is as the provenance says, and the object stays in or out of
  use. -/
  registration_eq : RelationshipEngine.registration? engine' policyId object =
    .ok (some ⟨policyId, .owner object provenance.owner, registration.archived, provenance⟩)
  /-- It is the only record of an owner. -/
  record?_of_isOwnership : ∀ relationship, relationship.object = object →
    relationship.isOwnership → relationship ≠ .owner object provenance.owner →
    engine'.record? policyId relationship = none
  /-- The other relationships on the object are all still there. -/
  record?_eq : ∀ relationship, relationship.object = object → relationship.isOwnership = false →
    engine'.record? policyId relationship = engine.record? policyId relationship

/-! ### Policies stay -/

theorem isSome_get?_withPolicy {other : String} (h : (engine.policies.get? other).isSome) :
    ((engine.withPolicy policyId records).policies.get? other).isSome := by
  by_cases hother : other = policyId
  · rw [hother, get?_withPolicy_self]
    rfl
  · rwa [get?_withPolicy_of_ne hother]

theorem Edit.isSome_get? (h : Edit policyId actor object engine engine') {other : String}
    (hother : (engine.policies.get? other).isSome) : (engine'.policies.get? other).isSome := by
  obtain ⟨records, records', -, -, rfl⟩ := h
  exact isSome_get?_withPolicy hother

theorem isSome_get?_of_amend {record : RelationshipRecord} {other : String}
    (h : (amend policyId object provenance).run engine = (.ok record, engine'))
    (hother : (engine.policies.get? other).isSome) : (engine'.policies.get? other).isSome := by
  obtain ⟨records, previous, -, -, -, rfl⟩ := run_amend_eq_ok_iff.mp h
  exact isSome_get?_withPolicy hother

/-- In a policy that exists, every object is owned or is not. -/
theorem exists_registration?_eq (h : (engine.policies.get? policyId).isSome) (object : Object) :
    ∃ found, RelationshipEngine.registration? engine policyId object = .ok found := by
  obtain ⟨records, hrecords⟩ := Option.isSome_iff_exists.mp h
  exact ⟨_, registration?_eq_ok_iff.mpr ⟨records, hrecords, rfl⟩⟩

/-! ### Reachable engines -/

/-- The engines that operations on the empty one lead to, of whomever and in whatever order. -/
inductive Reachable : MemoryEngine → Prop where
  | empty : Reachable .empty
  | createPolicy {engine : MemoryEngine} (policyId : String) :
    Reachable engine → Reachable (engine.createPolicy policyId).2
  | setRelationship {engine engine' : MemoryEngine} {policyId : String}
      {relationship : Relationship} {provenance : Provenance} {outcome : SetOutcome} :
    Reachable engine →
    (MemoryEngine.setRelationship policyId relationship provenance).run engine =
      (.ok outcome, engine') →
    Reachable engine'
  | deleteRelationship {engine engine' : MemoryEngine} {policyId : String}
      {relationship : Relationship} {actor : Did} {outcome : DeleteOutcome} :
    Reachable engine →
    (MemoryEngine.deleteRelationship policyId relationship actor).run engine =
      (.ok outcome, engine') →
    Reachable engine'
  | register {engine engine' : MemoryEngine} {policyId : String} {object : Object}
      {provenance : Provenance} {outcome : RegisterOutcome} :
    Reachable engine →
    (MemoryEngine.register policyId object provenance).run engine = (.ok outcome, engine') →
    Reachable engine'
  | unregister {engine engine' : MemoryEngine} {policyId : String} {object : Object} {actor : Did}
      {outcome : UnregisterOutcome} :
    Reachable engine →
    (MemoryEngine.unregister policyId object actor).run engine = (.ok outcome, engine') →
    Reachable engine'
  | archive {engine engine' : MemoryEngine} {policyId : String} {object : Object} {actor : Did}
      {outcome : ArchiveOutcome} :
    Reachable engine →
    (MemoryEngine.archive policyId object actor).run engine = (.ok outcome, engine') →
    Reachable engine'
  | unarchive {engine engine' : MemoryEngine} {policyId : String} {object : Object} {actor : Did}
      {outcome : UnarchiveOutcome} :
    Reachable engine →
    (MemoryEngine.unarchive policyId object actor).run engine = (.ok outcome, engine') →
    Reachable engine'
  | amend {engine engine' : MemoryEngine} {policyId : String} {object : Object}
      {provenance : Provenance} {record : RelationshipRecord} :
    Reachable engine →
    (MemoryEngine.amend policyId object provenance).run engine = (.ok record, engine') →
    Reachable engine'

/-- An engine all of whose policies are coherent. -/
def Coherent (engine : MemoryEngine) : Prop :=
  ∀ policyId records, engine.policies.get? policyId = some records → records.Coherent policyId

theorem Coherent.withPolicy (h : engine.Coherent) (hrecords : records.Coherent policyId) :
    (engine.withPolicy policyId records).Coherent := by
  intro other found hfound
  rcases SortedMap.get?_insert_eq_some_iff.mp hfound with ⟨rfl, rfl⟩ | ⟨-, hfound⟩
  · exact hrecords
  · exact h _ _ hfound

/-- The record of an ownership belongs to the owner. -/
theorem Coherent.owner_eq (h : engine.Coherent)
    (hrecord : engine.record? policyId relationship = some registration)
    (hown : relationship.isOwnership) :
    relationship = .owner relationship.object registration.owner := by
  obtain ⟨records, hrecords, hget⟩ := record?_eq_some_iff.mp hrecord
  exact ((h _ _ hrecords).fits _ _ hget).owner_eq hown

/-- No object has two owners. -/
theorem Coherent.unique (h : engine.Coherent)
    (hrecord : engine.record? policyId (.owner object registration.owner) = some registration)
    (hrecord' : engine.record? policyId (.owner object registration'.owner) = some registration') :
    registration = registration' := by
  obtain ⟨records, hrecords, hget⟩ := record?_eq_some_iff.mp hrecord
  rw [record?_of_get? hrecords] at hrecord'
  have hsame := (h _ _ hrecords).unique _ _ _ _ hget hrecord' rfl rfl rfl
  rw [hsame, hrecord'] at hget
  exact (Option.some.inj hget).symm

/-- Only an object that is owned and in use has other relationships. -/
theorem Coherent.registered (h : engine.Coherent)
    (hrecord : engine.record? policyId relationship = some registration)
    (hown : relationship.isOwnership = false) :
    ∃ registration', engine.record? policyId (.owner relationship.object registration'.owner) =
        some registration' ∧ registration'.archived = false := by
  obtain ⟨records, hrecords, hget⟩ := record?_eq_some_iff.mp hrecord
  obtain ⟨registration', hregistered, huse⟩ := (h _ _ hrecords).registered _ _ hget hown
  exact ⟨registration', record?_eq_some_iff.mpr ⟨records, hrecords, hregistered⟩, huse⟩

/-- In a coherent engine, the registration of an object is the record that its owner owns it. -/
theorem Coherent.registration?_eq_ok_some_iff (h : engine.Coherent) :
    RelationshipEngine.registration? engine policyId object = .ok (some registration) ↔
      engine.record? policyId (.owner object registration.owner) = some registration := by
  rw [registration?_eq_ok_iff, record?_eq_some_iff]
  refine exists_congr fun records => and_congr_right fun hrecords => ?_
  rw [Option.map_eq_some_iff]
  constructor
  · rintro ⟨⟨ownership, found⟩, hfound, rfl⟩
    obtain ⟨rfl, hget⟩ := (h _ _ hrecords).registration?_eq_some_iff.mp hfound
    exact hget
  · intro hget
    exact ⟨_, (h _ _ hrecords).registration?_eq_some_iff.mpr ⟨rfl, hget⟩, rfl⟩

theorem Edit.coherent (h : Edit policyId actor object engine engine')
    (hcoherent : engine.Coherent) : engine'.Coherent := by
  obtain ⟨records, records', hrecords, hchange, rfl⟩ := h
  exact hcoherent.withPolicy (hchange.coherent (hcoherent _ _ hrecords))

theorem Coherent.amend {record : RelationshipRecord} (hcoherent : engine.Coherent)
    (h : (amend policyId object provenance).run engine = (.ok record, engine')) :
    engine'.Coherent := by
  obtain ⟨records, previous, hrecords, hprevious, -, rfl⟩ := run_amend_eq_ok_iff.mp h
  exact hcoherent.withPolicy ((hcoherent _ _ hrecords).transfer hprevious _)

/-- **The policies of a reachable engine are coherent.** -/
theorem Reachable.coherent (h : Reachable engine) : engine.Coherent := by
  induction h with
  | empty =>
    intro policyId records h
    cases h
  | @createPolicy engine policyId _ ih =>
    rw [MemoryEngine.createPolicy]
    split
    · exact ih
    · exact ih.withPolicy PolicyRecords.coherent_empty
  | setRelationship _ h ih => exact (edit_of_setRelationship h).coherent ih
  | deleteRelationship _ h ih => exact (edit_of_deleteRelationship h).coherent ih
  | register _ h ih => exact (edit_of_register h).coherent ih
  | unregister _ h ih => exact (edit_of_unregister h).coherent ih
  | archive _ h ih => exact (edit_of_archive h).coherent ih
  | unarchive _ h ih => exact (edit_of_unarchive h).coherent ih
  | amend _ h ih => exact ih.amend h

/-- **An owner that keeps an object keeps the provenance of its registration.** -/
theorem Edit.provenance_eq {other : Object} {otherPolicy : String}
    (h : Edit policyId actor object engine engine') (hcoherent : engine.Coherent)
    (hbefore : RelationshipEngine.registration? engine otherPolicy other = .ok (some registration))
    (hafter : RelationshipEngine.registration? engine' otherPolicy other =
      .ok (some registration')) : registration'.provenance = registration.provenance := by
  rw [hcoherent.registration?_eq_ok_some_iff] at hbefore
  rw [(h.coherent hcoherent).registration?_eq_ok_some_iff] at hafter
  by_cases hpolicy : otherPolicy = policyId
  · subst hpolicy
    obtain ⟨records, records', hrecords, hchange, rfl⟩ := h
    rw [record?_of_get? hrecords] at hbefore
    rw [record?_withPolicy] at hafter
    have hrecordsCoherent := hcoherent _ _ hrecords
    rcases hchange.of_isOwnership hafter rfl with ⟨previous, hprevious, hsame⟩ | ⟨hnone, hobject⟩
    · have howner := hrecordsCoherent.unique _ _ _ _ hprevious hbefore rfl rfl rfl
      rw [howner, hbefore] at hprevious
      rw [hsame, Option.some.inj hprevious]
    · have habsent : records.get? (.owner other registration.owner) = none :=
        hrecordsCoherent.get?_eq_none hnone hobject
      rw [habsent] at hbefore
      cases hbefore
  · have hsame : engine'.record? otherPolicy = engine.record? otherPolicy := by
      unfold record?
      rw [h.get?_of_ne hpolicy]
    rw [hsame] at hafter
    rw [hcoherent.unique hafter hbefore]

/-- A takeover leaves the registrations of other objects alone. -/
theorem registration_eq_of_amend {other : Object} {otherPolicy : String}
    {record : RelationshipRecord} (hcoherent : engine.Coherent)
    (hne : ¬ (policyId = otherPolicy ∧ object = other))
    (h : (amend policyId object provenance).run engine = (.ok record, engine'))
    (hbefore : RelationshipEngine.registration? engine otherPolicy other = .ok (some registration))
    (hafter : RelationshipEngine.registration? engine' otherPolicy other =
      .ok (some registration')) : registration' = registration := by
  rw [hcoherent.registration?_eq_ok_some_iff] at hbefore
  rw [(hcoherent.amend h).registration?_eq_ok_some_iff] at hafter
  have hsame : engine'.record? otherPolicy (.owner other registration'.owner) =
      engine.record? otherPolicy (.owner other registration'.owner) := by
    by_cases hpolicy : otherPolicy = policyId
    · subst hpolicy
      refine record?_of_amend (fun hobject => hne ⟨rfl, ?_⟩) h
      exact hobject.symm
    · unfold record?
      rw [get?_of_amend hpolicy h]
  rw [hsame] at hafter
  exact hcoherent.unique hafter hbefore

/-- In a coherent engine, an amended object was taken over. -/
theorem takenOver_of_amend {record : RelationshipRecord} (hcoherent : engine.Coherent)
    (hregistration :
      RelationshipEngine.registration? engine policyId object = .ok (some registration))
    (h : (amend policyId object provenance).run engine = (.ok record, engine')) :
    TakenOver policyId object registration provenance engine engine' := by
  obtain ⟨records, previous, hrecords, hprevious, -, rfl⟩ := run_amend_eq_ok_iff.mp h
  obtain ⟨found, hfound, hregistration⟩ := registration?_eq_ok_iff.mp hregistration
  rw [hrecords] at hfound
  cases hfound
  rw [hprevious] at hregistration
  cases hregistration
  have hrecordsCoherent := hcoherent _ _ hrecords
  constructor
  · rw [registration?_eq_ok_iff]
    exact ⟨_, get?_withPolicy_self, by
      rw [hrecordsCoherent.registration?_transfer hprevious]; rfl⟩
  · intro relationship hobject hown hne
    rw [record?_withPolicy]
    exact hrecordsCoherent.get?_transfer_of_isOwnership hprevious hown hobject hne
  · intro relationship _ hown
    rw [record?_withPolicy, record?_of_get? hrecords,
      PolicyRecords.get?_transfer_of_ne hprevious (.inr hown)]

/-- Registering an object that nobody owns adds one record. -/
theorem run_register_of_registration?_eq_none
    (hrecords : engine.policies.get? policyId = some records)
    (hnone : records.registration? object = none) (hformed : object.isWellFormed)
    (provenance : Provenance) :
    (register policyId object provenance).run engine =
      (.ok ⟨.registered, ⟨policyId, .owner object provenance.owner, false, provenance⟩⟩,
        engine.withPolicy policyId (records.insert (.owner object provenance.owner)
          ⟨policyId, .owner object provenance.owner, false, provenance⟩)) := by
  rw [register, Action.run_bind, Action.run_read, checkObject_eq_ok_iff.mpr hformed]
  dsimp only
  rw [run_onPolicy hrecords, Action.run_bind, Action.run_read, hnone]
  rfl

/-- **An object that nobody owns can be registered**, and then it is. -/
theorem Coherent.exists_register (hcoherent : engine.Coherent)
    (h : RelationshipEngine.registration? engine policyId object = .ok none)
    (hformed : object.isWellFormed) (provenance : Provenance) :
    ∃ engine', (register policyId object provenance).run engine = (.ok ⟨.registered,
        ⟨policyId, .owner object provenance.owner, false, provenance⟩⟩, engine') ∧
      RelationshipEngine.registration? engine' policyId object =
        .ok (some ⟨policyId, .owner object provenance.owner, false, provenance⟩) := by
  obtain ⟨records, hrecords, hfound⟩ := registration?_eq_ok_iff.mp h
  have hnone : records.registration? object = none := Option.map_eq_none_iff.mp hfound
  refine ⟨_, run_register_of_registration?_eq_none hrecords hnone hformed provenance, ?_⟩
  have hregistered := (hcoherent _ _ hrecords).registration?_register hformed hnone provenance
  exact registration?_eq_ok_iff.mpr ⟨_, get?_withPolicy_self, by rw [hregistered]; rfl⟩

end AccessControl.MemoryEngine
