import AccessControl.Proofs.Registration.Opening
import AccessControl.Proofs.Registration.Repository
import AccessControl.Proofs.Command.Dispatch
import AccessControl.Proofs.Policy.MemoryEngine

/-!
# Opening a commitment of the book

An actor that made a commitment, and has a proof of an object for it, may open it while it has not
expired: this is `Host.Openable`. On a host whose store keeps the book, the command then succeeds if
nobody owns the object, or somebody that registered it after the commitment was made
(`Host.Openable.exists_effect`); otherwise it fails because of the earlier registration
(`Host.Openable.run_dispatch_of_le`), and there is no other reason.
-/

namespace AccessControl.Host

open Repository

/-- **An actor that opened a commitment owns the object**, as of the block of the commitment, in
which nobody owned it yet. -/
theorem Effect.exists_registration {σ : Type} [Store σ] {params : Params} {actor : Did}
    {policyId : String} {transaction : Transaction} {host host' : Host σ MemoryEngine}
    {commitmentId : UInt64} {proof : RegistrationProof} {outcome : CommandOutcome}
    (h : Effect params actor policyId transaction host (.revealRegistration commitmentId proof)
      outcome host') (hcoherent : host.engine.Coherent) :
    ∃ commitment registration,
      host.openedCommitment policyId actor commitmentId proof transaction.now = .ok commitment ∧
      RelationshipEngine.registration? host'.engine policyId proof.object =
        .ok (some registration) ∧
      registration.provenance =
        { transaction.provenance actor with createdAt := commitment.createdAt } ∧
      ∀ previous, RelationshipEngine.registration? host.engine policyId proof.object =
          .ok (some previous) →
        commitment.createdAt.height < previous.provenance.createdAt.height := by
  cases h with
  | @registered _ _ commitment _ _ _ _ hopened hnone _ hengine =>
    obtain ⟨-, -, -, hverify, -⟩ := openedCommitment_eq_ok_iff.mp hopened
    have hformed := (Opening.verify_octets_eq_ok_iff.mp hverify).1
    obtain ⟨engine, hregister, hregistered⟩ := hcoherent.exists_register hnone hformed
      { transaction.provenance actor with createdAt := commitment.createdAt }
    obtain ⟨-, rfl⟩ := Prod.mk.inj (hregister.symm.trans hengine)
    refine ⟨commitment, _, hopened, hregistered, rfl, fun previous hprevious => ?_⟩
    rw [hnone] at hprevious
    cases hprevious
  | @takenOver _ _ commitment registration _ _ _ _ hopened hregistration _ hheight _ hengine =>
    have htaken := MemoryEngine.takenOver_of_amend hcoherent hregistration hengine
    refine ⟨commitment, _, hopened, htaken.registration_eq, rfl, fun previous hprevious => ?_⟩
    rw [hregistration] at hprevious
    cases hprevious
    exact hheight

/-- A proof opens a commitment of the book for the actor that made it, and there is a number for one
more amendment. -/
structure Openable (book : Book) (actor : Did) (policyId : String) (commitment : Commitment)
    (proof : RegistrationProof) (now : Timestamp) : Prop where
  mem : commitment ∈ book.commitments
  room : book.amendments.length + 1 < UInt64.size
  expired_eq : commitment.expired = false
  isExpiredAt_eq : commitment.isExpiredAt now = false
  policyId_eq : commitment.policyId = policyId
  owner_eq : commitment.owner = actor
  verify_eq : Opening.verify commitment.root.octets policyId actor proof = .ok true

variable {σ : Type} [Store σ] [LawfulStore σ] {store : σ} {engine : MemoryEngine}
  {host' : Host σ MemoryEngine} {book : Book} {params : Params} {actor : Did} {policyId : String}
  {commitment : Commitment} {proof : RegistrationProof} {transaction : Transaction}
  {outcome : CommandOutcome} {found : Option RelationshipRecord}

omit [LawfulStore σ] in
/-- A command that opens no commitment changes nothing. -/
theorem run_dispatch_of_openedCommitment_eq_error {commitmentId : UInt64} {error : HandlerError}
    {host : Host σ MemoryEngine}
    (h : host.openedCommitment policyId actor commitmentId proof transaction.now = .error error) :
    (dispatch params actor policyId transaction (.revealRegistration commitmentId proof)).run host =
      (.error error, host) := by
  simp only [dispatch, reveal, Action.run_bind, Action.run_read, h]

omit [LawfulStore σ] in
/-- Neither does one that opens a commitment in vain. -/
theorem run_dispatch_of_requirePriority_eq_error {commitmentId : UInt64} {error : HandlerError}
    {host : Host σ MemoryEngine} {registration : RelationshipRecord}
    (hopened : host.openedCommitment policyId actor commitmentId proof transaction.now =
      .ok commitment)
    (hregistration : RelationshipEngine.registration? host.engine policyId proof.object =
      .ok (some registration))
    (hpriority : requirePriority commitment actor proof.object registration = .error error) :
    (dispatch params actor policyId transaction (.revealRegistration commitmentId proof)).run host =
      (.error error, host) := by
  have hread : (RelationshipEngine.registration? host.engine policyId proof.object).mapError
      HandlerError.engine = .ok (some registration) := by
    rw [hregistration]
    rfl
  simp only [dispatch, reveal, Action.run_bind, Action.run_read, hopened, hread, hpriority]

theorem Openable.openedCommitment_eq
    (h : Openable book actor policyId commitment proof transaction.now) (hkept : Kept book store)
    (engine : MemoryEngine) :
    openedCommitment policyId actor commitment.id proof transaction.now (Host.mk store engine) =
      .ok commitment := by
  refine openedCommitment_eq_ok_iff.mpr ⟨?_, h.expired_eq, h.isExpiredAt_eq, ?_, h.policyId_eq⟩
  · rw [hkept.commitment?_eq, hkept.sound.commitment?_eq_some_iff.mpr ⟨h.mem, rfl⟩]
  · rw [h.policyId_eq, h.verify_eq]

/-- What a proof opens is opened if nobody owns the object, or if the actor's own commitment is
older than the registration. -/
theorem exists_effect_of_openedCommitment {commitmentId : UInt64} (hkept : Kept book store)
    (hroom : book.amendments.length + 1 < UInt64.size) (hcoherent : engine.Coherent)
    (hopened : openedCommitment policyId actor commitmentId proof transaction.now
      (Host.mk store engine) = .ok commitment)
    (hregistration : RelationshipEngine.registration? engine policyId proof.object = .ok found)
    (hpriority : ∀ registration ∈ found, commitment.owner = actor ∧
      commitment.createdAt.height < registration.provenance.createdAt.height) :
    ∃ outcome host', Effect params actor policyId transaction ⟨store, engine⟩
      (.revealRegistration commitmentId proof) outcome host' := by
  obtain ⟨-, -, -, hverify, -⟩ := openedCommitment_eq_ok_iff.mp hopened
  have hformed := (Opening.verify_octets_eq_ok_iff.mp hverify).1
  cases found with
  | none =>
    obtain ⟨amendment, store, hstore⟩ := hkept.exists_run_createAmendment hroom
    obtain ⟨engine, hregister, -⟩ := hcoherent.exists_register hregistration hformed
      { transaction.provenance actor with createdAt := commitment.createdAt }
    exact ⟨_, _, .registered hopened hregistration hstore hregister⟩
  | some registration =>
    obtain ⟨howner, hheight⟩ := hpriority registration rfl
    obtain ⟨amendment, store, hstore⟩ := hkept.exists_run_createAmendment hroom
    obtain ⟨record, engine, hamend⟩ := MemoryEngine.exists_amend hregistration
      { transaction.provenance actor with createdAt := commitment.createdAt }
    exact ⟨_, _, .takenOver hopened hregistration howner hheight hstore hamend⟩

/-- The commitment is opened if nobody owns the object, or somebody that registered it later. -/
theorem Openable.exists_effect
    (h : Openable book actor policyId commitment proof transaction.now)
    (hkept : Kept book store) (hcoherent : engine.Coherent)
    (hregistration : RelationshipEngine.registration? engine policyId proof.object = .ok found)
    (hlater : ∀ registration ∈ found,
      commitment.createdAt.height < registration.provenance.createdAt.height) :
    ∃ outcome host', Effect params actor policyId transaction ⟨store, engine⟩
      (.revealRegistration commitment.id proof) outcome host' :=
  exists_effect_of_openedCommitment hkept h.room hcoherent (h.openedCommitment_eq hkept engine)
    hregistration fun registration hfound => ⟨h.owner_eq, hlater registration hfound⟩

/-- If the commitment was opened, the actor owns the object, as of the block of the commitment. -/
theorem Openable.exists_registration
    (h : Openable book actor policyId commitment proof transaction.now)
    (hkept : Kept book store) (hcoherent : engine.Coherent)
    (heffect : Effect params actor policyId transaction ⟨store, engine⟩
      (.revealRegistration commitment.id proof) outcome host') :
    ∃ registration, RelationshipEngine.registration? host'.engine policyId proof.object =
        .ok (some registration) ∧
      registration.owner = actor ∧ registration.provenance.createdAt = commitment.createdAt := by
  have hopened := h.openedCommitment_eq hkept engine
  obtain ⟨commitment', registration, hopened', hregistered, hprovenance, -⟩ :=
    heffect.exists_registration hcoherent
  rw [hopened] at hopened'
  obtain rfl := Except.ok.inj hopened'
  refine ⟨registration, hregistered, ?_, ?_⟩
  · rw [RelationshipRecord.owner, hprovenance]
    rfl
  · rw [hprovenance]

/-- An earlier registration is the reason that is given. -/
theorem Openable.run_dispatch_of_le
    (h : Openable book actor policyId commitment proof transaction.now)
    (hkept : Kept book store) {registration : RelationshipRecord}
    (hregistration : RelationshipEngine.registration? engine policyId proof.object =
      .ok (some registration))
    (hle : registration.provenance.createdAt.height ≤ commitment.createdAt.height) :
    (dispatch params actor policyId transaction (.revealRegistration commitment.id proof)).run
        ⟨store, engine⟩ =
      (.error (.priorClaim proof.object registration.owner commitment.id
        commitment.createdAt.height registration.provenance.createdAt.height),
        ⟨store, engine⟩) := by
  have hpriority : requirePriority commitment actor proof.object registration =
      .error (.priorClaim proof.object registration.owner commitment.id
        commitment.createdAt.height registration.provenance.createdAt.height) := by
    rw [requirePriority, if_neg (by simp [h.owner_eq]), if_pos hle]
  exact run_dispatch_of_requirePriority_eq_error (h.openedCommitment_eq hkept engine) hregistration
    hpriority

end AccessControl.Host
