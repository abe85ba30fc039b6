import AccessControl.Command.Dispatch
import AccessControl.Proofs.Action

/-!
# What a command does

`Host.Effect` lists what a command does when it succeeds, with everything that was checked on the
way: an operation of the engine, an operation on the stored commitments and amendments, or, when a
commitment is opened, one of each. `Host.effect_of_run_dispatch` and `Host.Effect.run_dispatch` are
the only places that take `Host.dispatch` apart; what holds of every command follows by cases on its
effect.

Of commands that fail it is enough to know what they keep: `Host.preserves_dispatch` reduces that to
single writes to the store and the operations of the engine.
-/

namespace AccessControl

/-- The object that a command acts on, if it names one. -/
def Command.object? : Command → Option Object
  | .setRelationship relationship => some relationship.object
  | .deleteRelationship relationship => some relationship.object
  | .registerObject object => some object
  | .unregisterObject object => some object
  | .archiveObject object => some object
  | .unarchiveObject object => some object
  | .commitRegistrations _ => none
  | .revealRegistration _ proof => some proof.object
  | .flagHijackAttempt _ => none

namespace Host

variable {σ ρ α : Type} {host host' : Host σ ρ}

/-! ### Actions on the parts of a host -/

theorem run_onEngine_eq_ok_iff {action : Action ρ EngineError α} {value : α} :
    (onEngine action).run host = (.ok value, host') ↔
      ∃ engine, action.run host.engine = (.ok value, engine) ∧ host' = { host with engine } := by
  rw [onEngine, Action.run_within_eq_ok_iff]
  simp only [Action.run_mapError_eq_ok_iff, eq_comm (b := host')]

theorem run_onStore_eq_ok_iff {action : Action σ StoreError α} {value : α} :
    (onStore action).run host = (.ok value, host') ↔
      ∃ store, action.run host.store = (.ok value, store) ∧ host' = { host with store } := by
  rw [onStore, Action.run_within_eq_ok_iff]
  simp only [Action.run_mapError_eq_ok_iff, eq_comm (b := host')]

theorem run_onCommitments_eq_ok_iff {action : Action (Host σ ρ) RegistrationError α} {value : α} :
    (onCommitments action).run host = (.ok value, host') ↔
      action.run host = (.ok value, host') := by
  rw [onCommitments, Action.run_mapError_eq_ok_iff]

theorem readStore_eq_ok_iff {view : σ → Except StoreError α} {value : α} :
    readStore view host = .ok value ↔ view host.store = .ok value := by
  rw [readStore, mapError_eq_ok_iff]

variable [Store σ] [RelationshipEngine ρ]

/-! ### Checks -/

omit [Store σ] in
theorem requirePolicy_eq_ok_iff {policyId : String} :
    host.requirePolicy policyId = .ok () ↔
      RelationshipEngine.policyExists host.engine policyId = .ok true := by
  rw [requirePolicy, bind_eq_ok_iff]
  simp only [mapError_eq_ok_iff]
  constructor
  · rintro ⟨found, hfound, h⟩
    cases found with
    | true => exact hfound
    | false => cases h
  · intro h
    exact ⟨true, h, rfl⟩

omit [RelationshipEngine ρ] in
theorem commitment_eq_ok_iff {id : UInt64} {commitment : Commitment} :
    host.commitment id = .ok commitment ↔
      Repository.commitment? id host.store = .ok (some commitment) := by
  rw [Host.commitment, bind_eq_ok_iff]
  simp only [readStore_eq_ok_iff]
  constructor
  · rintro ⟨found, hfound, h⟩
    cases found with
    | some found =>
      cases h
      exact hfound
    | none => cases h
  · intro h
    exact ⟨_, h, rfl⟩

omit [RelationshipEngine ρ] in
/-- A commitment is opened if it is there, not expired and of the policy, and the proof verifies. -/
theorem openedCommitment_eq_ok_iff {policyId : String} {actor : Did} {commitmentId : UInt64}
    {proof : RegistrationProof} {now : Timestamp} {commitment : Commitment} :
    host.openedCommitment policyId actor commitmentId proof now = .ok commitment ↔
      Repository.commitment? commitmentId host.store = .ok (some commitment) ∧
        commitment.expired = false ∧ commitment.isExpiredAt now = false ∧
        Opening.verify commitment.root.octets commitment.policyId actor proof = .ok true ∧
        commitment.policyId = policyId := by
  simp only [openedCommitment, openCommitment, bind_eq_ok_iff, mapError_eq_ok_iff,
    commitment_eq_ok_iff]
  constructor
  · rintro ⟨⟨found, opens⟩, ⟨_, hfound, hopen⟩, h⟩
    split at hopen
    · cases hopen
    · rename_i hvalid
      simp only [bind_eq_ok_iff, mapError_eq_ok_iff] at hopen
      obtain ⟨_, hverify, hpair⟩ := hopen
      cases hpair
      split at h
      · cases h
      · rename_i hpolicy
        split at h
        · cases h
        · rename_i hopens
          cases h
          rw [Bool.or_eq_true, not_or] at hvalid
          refine ⟨hfound, by simpa using hvalid.1, by simpa using hvalid.2, ?_,
            Decidable.not_not.mp hpolicy⟩
          rw [hverify]
          simpa using hopens
  · rintro ⟨hfound, hexpired, hvalid, hverify, hpolicy⟩
    refine ⟨(commitment, true), ⟨commitment, hfound, ?_⟩, ?_⟩
    · rw [hexpired, hvalid, hverify]
      rfl
    · simp [hpolicy]
      rfl

theorem requirePriority_eq_ok_iff {commitment : Commitment} {actor : Did} {object : Object}
    {registration : RelationshipRecord} :
    requirePriority commitment actor object registration = .ok () ↔
      commitment.owner = actor ∧
        commitment.createdAt.height < registration.provenance.createdAt.height := by
  rw [requirePriority]
  by_cases howner : commitment.owner = actor
  · rw [if_neg (by simpa using howner)]
    by_cases hheight : registration.provenance.createdAt.height ≤ commitment.createdAt.height
    · rw [if_pos hheight]
      simp [UInt64.not_lt.mpr hheight]
    · rw [if_neg hheight]
      simp [howner, UInt64.not_le.mp hheight]
  · rw [if_pos (by simpa using howner)]
    simp [howner]

omit [RelationshipEngine ρ] in
theorem disputableAmendment_eq_ok_iff {policyId : String} {id : UInt64} {actor : Did}
    {amendment : Amendment} :
    host.disputableAmendment policyId id actor = .ok amendment ↔
      Repository.amendment? id host.store = .ok (some amendment) ∧
        amendment.policyId = policyId ∧ amendment.previousOwner = some actor := by
  simp only [disputableAmendment, Host.amendment, bind_eq_ok_iff, readStore_eq_ok_iff]
  constructor
  · rintro ⟨found, ⟨stored, hstored, hfound⟩, h⟩
    cases stored with
    | none => cases hfound
    | some stored =>
      cases hfound
      split at h
      · cases h
      · rename_i hpolicy
        split at h
        · cases h
        · rename_i previous hprevious
          split at h
          · rename_i hactor
            cases h
            exact ⟨hstored, Decidable.not_not.mp hpolicy, by rw [hprevious, hactor]⟩
          · cases h
  · rintro ⟨hstored, hpolicy, hprevious⟩
    refine ⟨amendment, ⟨some amendment, hstored, rfl⟩, ?_⟩
    rw [if_neg (by simpa using hpolicy), hprevious]
    simp only [if_true]
    rfl

/-! ### Effects -/

/-- What a command of an actor in a policy does to a host when it succeeds: which host and which
outcome it leads to. -/
inductive Effect (params : Params) (actor : Did) (policyId : String) (transaction : Transaction)
    (host : Host σ ρ) : Command → CommandOutcome → Host σ ρ → Prop where
  | setRelationship {relationship : Relationship} {outcome : SetOutcome} {engine : ρ} :
    (RelationshipEngine.setRelationship policyId relationship
      (transaction.provenance actor)).run host.engine = (.ok outcome, engine) →
    Effect params actor policyId transaction host (.setRelationship relationship)
      (.setRelationship outcome) { host with engine }
  | deleteRelationship {relationship : Relationship} {outcome : DeleteOutcome} {engine : ρ} :
    (RelationshipEngine.deleteRelationship policyId relationship actor).run host.engine =
      (.ok outcome, engine) →
    Effect params actor policyId transaction host (.deleteRelationship relationship)
      (.deleteRelationship outcome) { host with engine }
  | registerObject {object : Object} {outcome : RegisterOutcome} {engine : ρ} :
    (RelationshipEngine.register policyId object (transaction.provenance actor)).run host.engine =
      (.ok outcome, engine) →
    Effect params actor policyId transaction host (.registerObject object)
      (.registerObject outcome) { host with engine }
  | unregisterObject {object : Object} {outcome : UnregisterOutcome} {engine : ρ} :
    (RelationshipEngine.unregister policyId object actor).run host.engine = (.ok outcome, engine) →
    Effect params actor policyId transaction host (.unregisterObject object)
      (.unregisterObject outcome) { host with engine }
  | archiveObject {object : Object} {outcome : ArchiveOutcome} {engine : ρ} :
    (RelationshipEngine.archive policyId object actor).run host.engine = (.ok outcome, engine) →
    Effect params actor policyId transaction host (.archiveObject object)
      (.archiveObject outcome) { host with engine }
  | unarchiveObject {object : Object} {outcome : UnarchiveOutcome} {engine : ρ} :
    (RelationshipEngine.unarchive policyId object actor).run host.engine = (.ok outcome, engine) →
    Effect params actor policyId transaction host (.unarchiveObject object)
      (.unarchiveObject outcome) { host with engine }
  | commitRegistrations {octets : Bytes} {root : Digest} {commitment : Commitment} {store : σ} :
    RelationshipEngine.policyExists host.engine policyId = .ok true →
    Opening.rootOfOctets octets = .ok root →
    (Repository.createCommitment policyId root params.commitmentValidity
      (transaction.provenance actor)).run host.store = (.ok commitment, store) →
    Effect params actor policyId transaction host (.commitRegistrations octets)
      (.commitRegistrations commitment) { host with store }
  /-- An object that nobody owns goes to the actor. -/
  | registered {commitmentId : UInt64} {proof : RegistrationProof} {commitment : Commitment}
      {amendment : Amendment} {outcome : RegisterOutcome} {store : σ} {engine : ρ} :
    host.openedCommitment policyId actor commitmentId proof transaction.now = .ok commitment →
    RelationshipEngine.registration? host.engine policyId proof.object = .ok none →
    (Repository.createAmendment commitment.policyId proof.object actor none commitment.id
      (transaction.provenance actor)).run host.store = (.ok amendment, store) →
    (RelationshipEngine.register policyId proof.object { transaction.provenance actor with
      createdAt := commitment.createdAt }).run host.engine = (.ok outcome, engine) →
    Effect params actor policyId transaction host (.revealRegistration commitmentId proof)
      (.revealRegistration outcome.record amendment) { host with store, engine }
  /-- An object that somebody owns goes to the actor. -/
  | takenOver {commitmentId : UInt64} {proof : RegistrationProof} {commitment : Commitment}
      {registration record : RelationshipRecord} {amendment : Amendment} {store : σ} {engine : ρ} :
    host.openedCommitment policyId actor commitmentId proof transaction.now = .ok commitment →
    RelationshipEngine.registration? host.engine policyId proof.object = .ok (some registration) →
    commitment.owner = actor →
    commitment.createdAt.height < registration.provenance.createdAt.height →
    (Repository.createAmendment commitment.policyId proof.object actor (some registration.owner)
      commitment.id (transaction.provenance actor)).run host.store = (.ok amendment, store) →
    (RelationshipEngine.amend policyId proof.object { transaction.provenance actor with
      createdAt := commitment.createdAt }).run host.engine = (.ok record, engine) →
    Effect params actor policyId transaction host (.revealRegistration commitmentId proof)
      (.revealRegistration record amendment) { host with store, engine }
  | disputed {amendmentId : UInt64} {amendment amendment' : Amendment} {store : σ} :
    host.disputableAmendment policyId amendmentId actor = .ok amendment →
    amendment.disputed = false →
    (Repository.markDisputed amendment).run host.store = (.ok amendment', store) →
    Effect params actor policyId transaction host (.flagHijackAttempt amendmentId)
      (.flagHijackAttempt amendment') { host with store }
  | disputedBefore {amendmentId : UInt64} {amendment : Amendment} :
    host.disputableAmendment policyId amendmentId actor = .ok amendment →
    amendment.disputed = true →
    Effect params actor policyId transaction host (.flagHijackAttempt amendmentId)
      (.flagHijackAttempt amendment) host

section

variable {params : Params} {actor : Did} {policyId : String} {transaction : Transaction}
  {command : Command} {outcome : CommandOutcome}

/-- **A command that succeeds has its effect.** -/
theorem effect_of_run_dispatch
    (h : (dispatch params actor policyId transaction command).run host = (.ok outcome, host')) :
    Effect params actor policyId transaction host command outcome host' := by
  cases command with
  | revealRegistration commitmentId proof =>
    simp only [dispatch, reveal, recordAmendment, Action.run_bind_eq_ok_iff,
      Action.run_pure_eq_ok_iff, Action.run_read_eq_ok_iff, mapError_eq_ok_iff] at h
    obtain ⟨⟨record, amendment⟩, middle, ⟨commitment, _, ⟨hopened, rfl⟩, registration, _,
      ⟨hregistration, rfl⟩, hreveal⟩, rfl, rfl⟩ := h
    cases registration with
    | none =>
      simp only [Action.run_bind_eq_ok_iff, Action.run_pure_eq_ok_iff, run_onCommitments_eq_ok_iff,
        run_onStore_eq_ok_iff, run_onEngine_eq_ok_iff] at hreveal
      obtain ⟨_, _, ⟨store, hstore, rfl⟩, registered, _, ⟨engine, hengine, rfl⟩, hpair, rfl⟩ :=
        hreveal
      cases hpair
      exact .registered hopened hregistration hstore hengine
    | some registration =>
      simp only [Action.run_bind_eq_ok_iff, Action.run_pure_eq_ok_iff, Action.run_read_eq_ok_iff,
        run_onCommitments_eq_ok_iff, run_onStore_eq_ok_iff, run_onEngine_eq_ok_iff] at hreveal
      obtain ⟨⟨⟩, _, ⟨hpriority, rfl⟩, _, _, ⟨store, hstore, rfl⟩, _, _, ⟨engine, hengine, rfl⟩,
        hpair, rfl⟩ := hreveal
      obtain ⟨howner, hheight⟩ := requirePriority_eq_ok_iff.mp hpriority
      cases hpair
      exact .takenOver hopened hregistration howner hheight hstore hengine
  | commitRegistrations octets =>
    simp only [dispatch, publishCommitment, Action.run_bind_eq_ok_iff, Action.run_pure_eq_ok_iff,
      run_onCommitments_eq_ok_iff, Action.run_read_eq_ok_iff, mapError_eq_ok_iff,
      run_onStore_eq_ok_iff] at h
    obtain ⟨commitment, _, ⟨⟨⟩, _, ⟨hpolicy, rfl⟩, root, _, ⟨hroot, rfl⟩, store, hstore, rfl⟩,
      rfl, rfl⟩ := h
    exact .commitRegistrations (requirePolicy_eq_ok_iff.mp hpolicy) hroot hstore
  | flagHijackAttempt amendmentId =>
    simp only [dispatch, disputeAmendment, Action.run_bind_eq_ok_iff, Action.run_pure_eq_ok_iff,
      run_onCommitments_eq_ok_iff, Action.run_read_eq_ok_iff] at h
    obtain ⟨amendment', _, ⟨amendment, _, ⟨hfound, rfl⟩, hdispute⟩, rfl, rfl⟩ := h
    by_cases hdisputed : amendment.disputed = true
    · rw [if_pos hdisputed, Action.run_pure_eq_ok_iff] at hdispute
      obtain ⟨rfl, rfl⟩ := hdispute
      exact .disputedBefore hfound hdisputed
    · rw [if_neg hdisputed, run_onStore_eq_ok_iff] at hdispute
      obtain ⟨store, hstore, rfl⟩ := hdispute
      exact .disputed hfound (Bool.eq_false_iff.mpr hdisputed) hstore
  | _ =>
    -- The others are one operation of the engine each.
    simp only [dispatch, Action.run_bind_eq_ok_iff, Action.run_pure_eq_ok_iff,
      run_onEngine_eq_ok_iff] at h
    obtain ⟨_, _, ⟨engine, hengine, rfl⟩, rfl, rfl⟩ := h
    constructor
    exact hengine

/-- **A command that has an effect succeeds.** -/
theorem Effect.run_dispatch
    (h : Effect params actor policyId transaction host command outcome host') :
    (dispatch params actor policyId transaction command).run host = (.ok outcome, host') := by
  cases h with
  | @registered _ _ _ amendment outcome store engine hopened hregistration hstore hengine =>
    simp only [dispatch, reveal, recordAmendment, Action.run_bind_eq_ok_iff,
      Action.run_pure_eq_ok_iff, Action.run_read_eq_ok_iff, mapError_eq_ok_iff]
    refine ⟨(outcome.record, amendment), _, ⟨_, _, ⟨hopened, rfl⟩, none, _,
      ⟨hregistration, rfl⟩, ?_⟩, rfl, rfl⟩
    simp only [Action.run_bind_eq_ok_iff, Action.run_pure_eq_ok_iff, run_onCommitments_eq_ok_iff,
      run_onStore_eq_ok_iff, run_onEngine_eq_ok_iff]
    exact ⟨_, _, ⟨store, hstore, rfl⟩, _, _, ⟨engine, hengine, rfl⟩, rfl, rfl⟩
  | @takenOver _ _ _ registration record amendment store engine hopened hregistration howner hheight
      hstore hengine =>
    simp only [dispatch, reveal, recordAmendment, Action.run_bind_eq_ok_iff,
      Action.run_pure_eq_ok_iff, Action.run_read_eq_ok_iff, mapError_eq_ok_iff]
    refine ⟨(record, amendment), _, ⟨_, _, ⟨hopened, rfl⟩, some registration, _,
      ⟨hregistration, rfl⟩, ?_⟩, rfl, rfl⟩
    simp only [Action.run_bind_eq_ok_iff, Action.run_pure_eq_ok_iff, Action.run_read_eq_ok_iff,
      run_onCommitments_eq_ok_iff, run_onStore_eq_ok_iff, run_onEngine_eq_ok_iff]
    exact ⟨(), _, ⟨requirePriority_eq_ok_iff.mpr ⟨howner, hheight⟩, rfl⟩, _, _,
      ⟨store, hstore, rfl⟩, _, _, ⟨engine, hengine, rfl⟩, rfl, rfl⟩
  | @commitRegistrations _ root _ store hpolicy hroot hstore =>
    simp only [dispatch, publishCommitment, Action.run_bind_eq_ok_iff, Action.run_pure_eq_ok_iff,
      run_onCommitments_eq_ok_iff, Action.run_read_eq_ok_iff, mapError_eq_ok_iff,
      run_onStore_eq_ok_iff]
    exact ⟨_, _, ⟨(), _, ⟨requirePolicy_eq_ok_iff.mpr hpolicy, rfl⟩, root, _, ⟨hroot, rfl⟩, store,
      hstore, rfl⟩, rfl, rfl⟩
  | @disputed _ amendment _ store hfound hdisputed hstore =>
    simp only [dispatch, disputeAmendment, Action.run_bind_eq_ok_iff, Action.run_pure_eq_ok_iff,
      run_onCommitments_eq_ok_iff, Action.run_read_eq_ok_iff]
    refine ⟨_, _, ⟨amendment, _, ⟨hfound, rfl⟩, ?_⟩, rfl, rfl⟩
    rw [if_neg (Bool.eq_false_iff.mp hdisputed), run_onStore_eq_ok_iff]
    exact ⟨store, hstore, rfl⟩
  | @disputedBefore _ amendment hfound hdisputed =>
    simp only [dispatch, disputeAmendment, Action.run_bind_eq_ok_iff, Action.run_pure_eq_ok_iff,
      run_onCommitments_eq_ok_iff, Action.run_read_eq_ok_iff]
    refine ⟨_, _, ⟨amendment, _, ⟨hfound, rfl⟩, ?_⟩, rfl, rfl⟩
    rw [if_pos hdisputed, Action.run_pure_eq_ok_iff]
    exact ⟨rfl, rfl⟩
  | setRelationship h | deleteRelationship h | registerObject h | unregisterObject h
  | archiveObject h | unarchiveObject h =>
    simp only [dispatch, Action.run_bind_eq_ok_iff, Action.run_pure_eq_ok_iff,
      run_onEngine_eq_ok_iff]
    exact ⟨_, _, ⟨_, h, rfl⟩, rfl, rfl⟩

end

/-! ### What commands keep -/

/-- What every operation of an engine keeps, whether it succeeds or fails. -/
structure EngineKeeps (holds : ρ → Prop) : Prop where
  setRelationship : ∀ policyId relationship provenance,
    (RelationshipEngine.setRelationship policyId relationship provenance).Preserves holds
  deleteRelationship : ∀ policyId relationship actor,
    (RelationshipEngine.deleteRelationship policyId relationship actor).Preserves holds
  register : ∀ policyId object provenance,
    (RelationshipEngine.register policyId object provenance).Preserves holds
  unregister : ∀ policyId object actor,
    (RelationshipEngine.unregister policyId object actor).Preserves holds
  archive : ∀ policyId object actor,
    (RelationshipEngine.archive policyId object actor).Preserves holds
  unarchive : ∀ policyId object actor,
    (RelationshipEngine.unarchive policyId object actor).Preserves holds
  amend : ∀ policyId object provenance,
    (RelationshipEngine.amend policyId object provenance).Preserves holds

omit [RelationshipEngine ρ] in
/-- What single writes to a store keep. -/
structure StoreKeeps (kept : σ → Prop) : Prop where
  write : ∀ key value, (Store.write key value : Action σ StoreError Unit).Preserves kept
  remove : ∀ key, (Store.remove key : Action σ StoreError Unit).Preserves kept

section

variable {kept : σ → Prop} {holds : ρ → Prop}

theorem EngineKeeps.always : EngineKeeps fun _ : ρ => True where
  setRelationship _ _ _ _ _ := trivial
  deleteRelationship _ _ _ _ _ := trivial
  register _ _ _ _ _ := trivial
  unregister _ _ _ _ _ := trivial
  archive _ _ _ _ _ := trivial
  unarchive _ _ _ _ _ := trivial
  amend _ _ _ _ _ := trivial

namespace StoreKeeps

omit [RelationshipEngine ρ]

theorem always : StoreKeeps fun _ : σ => True where
  write _ _ _ _ := trivial
  remove _ _ _ := trivial

theorem next (h : StoreKeeps kept) (sequence : Sequence) :
    (sequence.next : Action σ StoreError UInt64).Preserves kept := by
  refine (Action.preserves_read _).bind fun last => ?_
  cases Word.add? last 1 with
  | none => exact Action.preserves_throw _
  | some number => exact (h.write _ _).bind fun _ => Action.preserves_pure _

theorem createCommitment (h : StoreKeeps kept) (policyId : String) (root : Digest)
    (validity : Validity) (provenance : Provenance) :
    (Repository.createCommitment policyId root validity provenance :
      Action σ StoreError Commitment).Preserves kept :=
  (h.next _).bind fun _ => (h.write _ _).bind fun _ => (h.write _ _).bind fun _ =>
    (h.write _ _).bind fun _ => Action.preserves_pure _

theorem markExpired (h : StoreKeeps kept) (commitment : Commitment) :
    (Repository.markExpired commitment : Action σ StoreError Commitment).Preserves kept :=
  (h.write _ _).bind fun _ => (h.remove _).bind fun _ => (h.write _ _).bind fun _ =>
    Action.preserves_pure _

theorem createAmendment (h : StoreKeeps kept) (policyId : String) (object : Object)
    (newOwner : Did) (previousOwner : Option Did) (commitmentId : UInt64)
    (provenance : Provenance) :
    (Repository.createAmendment policyId object newOwner previousOwner commitmentId provenance :
      Action σ StoreError Amendment).Preserves kept :=
  (h.next _).bind fun _ => (h.write _ _).bind fun _ => Action.preserves_pure _

theorem markDisputed (h : StoreKeeps kept) (amendment : Amendment) :
    (Repository.markDisputed amendment : Action σ StoreError Amendment).Preserves kept :=
  (h.write _ _).bind fun _ => (h.write _ _).bind fun _ => Action.preserves_pure _

end StoreKeeps

/-- What holds of a host if one thing holds of its store and another of its engine. -/
def Holds (kept : σ → Prop) (holds : ρ → Prop) (host : Host σ ρ) : Prop :=
  kept host.store ∧ holds host.engine

omit [Store σ] [RelationshipEngine ρ] in
theorem preserves_onEngine {action : Action ρ EngineError α} (h : action.Preserves holds) :
    (onEngine action).Preserves (Holds kept holds : Host σ ρ → Prop) :=
  (h.mapError _).within (fun _ => And.right) fun _ _ hhost hengine => ⟨hhost.1, hengine⟩

omit [Store σ] [RelationshipEngine ρ] in
theorem preserves_onStore {action : Action σ StoreError α} (h : action.Preserves kept) :
    (onStore action).Preserves (Holds kept holds : Host σ ρ → Prop) :=
  (h.mapError _).within (fun _ => And.left) fun _ _ hhost hstore => ⟨hstore, hhost.2⟩

/-- Publishing a commitment does not touch the engine. -/
theorem preserves_publishCommitment (hstore : StoreKeeps kept) (policyId : String) (root : Bytes)
    (validity : Validity) (provenance : Provenance) :
    (publishCommitment policyId root validity provenance).Preserves
      (Holds kept holds : Host σ ρ → Prop) :=
  (Action.preserves_read _).bind fun _ => (Action.preserves_read _).bind fun _ =>
    preserves_onStore (hstore.createCommitment _ _ _ _)

omit [RelationshipEngine ρ] in
/-- Recording an amendment does not touch the engine. -/
theorem preserves_recordAmendment (hstore : StoreKeeps kept) (commitment : Commitment)
    (object : Object) (previousOwner : Option Did) (provenance : Provenance) :
    (recordAmendment commitment object previousOwner provenance).Preserves
      (Holds kept holds : Host σ ρ → Prop) :=
  preserves_onStore (hstore.createAmendment _ _ _ _ _ _)

omit [RelationshipEngine ρ] in
/-- Disputing an amendment does not touch the engine. -/
theorem preserves_disputeAmendment (hstore : StoreKeeps kept) (policyId : String) (id : UInt64)
    (actor : Did) :
    (disputeAmendment policyId id actor).Preserves (Holds kept holds : Host σ ρ → Prop) := by
  refine (Action.preserves_read _).bind fun amendment => ?_
  split
  · exact Action.preserves_pure _
  · exact preserves_onStore (hstore.markDisputed _)

/-- **Carrying out a command keeps of the store and of the engine what their operations keep.** -/
theorem preserves_dispatch (hstore : StoreKeeps kept) (hengine : EngineKeeps holds)
    (params : Params) (actor : Did) (policyId : String) (transaction : Transaction)
    (command : Command) :
    (dispatch params actor policyId transaction command).Preserves
      (Holds kept holds : Host σ ρ → Prop) := by
  cases command with
  | setRelationship relationship =>
    exact (preserves_onEngine (hengine.setRelationship _ _ _)).bind fun _ =>
      Action.preserves_pure _
  | deleteRelationship relationship =>
    exact (preserves_onEngine (hengine.deleteRelationship _ _ _)).bind fun _ =>
      Action.preserves_pure _
  | registerObject object =>
    exact (preserves_onEngine (hengine.register _ _ _)).bind fun _ => Action.preserves_pure _
  | unregisterObject object =>
    exact (preserves_onEngine (hengine.unregister _ _ _)).bind fun _ => Action.preserves_pure _
  | archiveObject object =>
    exact (preserves_onEngine (hengine.archive _ _ _)).bind fun _ => Action.preserves_pure _
  | unarchiveObject object =>
    exact (preserves_onEngine (hengine.unarchive _ _ _)).bind fun _ => Action.preserves_pure _
  | commitRegistrations octets =>
    exact ((preserves_publishCommitment hstore _ _ _ _).mapError _).bind fun _ =>
      Action.preserves_pure _
  | revealRegistration commitmentId proof =>
    refine Action.Preserves.bind ?_ fun _ => Action.preserves_pure _
    refine (Action.preserves_read _).bind fun commitment => ?_
    refine (Action.preserves_read _).bind fun registration => ?_
    cases registration with
    | none =>
      refine ((preserves_recordAmendment hstore _ _ _ _).mapError _).bind fun _ => ?_
      exact (preserves_onEngine (hengine.register _ _ _)).bind fun _ => Action.preserves_pure _
    | some registration =>
      refine (Action.preserves_read _).bind fun _ => ?_
      refine ((preserves_recordAmendment hstore _ _ _ _).mapError _).bind fun _ => ?_
      exact (preserves_onEngine (hengine.amend _ _ _)).bind fun _ => Action.preserves_pure _
  | flagHijackAttempt amendmentId =>
    exact ((preserves_disputeAmendment hstore _ _ _).mapError _).bind fun _ =>
      Action.preserves_pure _

omit [RelationshipEngine ρ] in
/-- Marking expired commitments keeps of the store what its operations keep. -/
theorem preserves_sweepExpired (hstore : StoreKeeps kept) (now : Timestamp) :
    (sweepExpired now).Preserves (Holds kept holds : Host σ ρ → Prop) := by
  refine (Action.preserves_read _).bind fun commitments => ?_
  induction commitments with
  | nil => exact Action.preserves_pure _
  | cons commitment rest ih =>
    rw [Host.markExpired]
    split
    · exact (preserves_onStore (hstore.markExpired _)).bind fun _ => ih.bind fun _ =>
        Action.preserves_pure _
    · exact ih

end

end Host

end AccessControl
