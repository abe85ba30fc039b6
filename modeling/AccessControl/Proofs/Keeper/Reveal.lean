import AccessControl.Proofs.Keeper.CleanFailure
import AccessControl.Proofs.Keeper.Grown
import AccessControl.Proofs.Keeper.Priority

/-!
# When a commitment is opened, and what comes of it

Opening a commitment is refused for a reason out of a list, and the first reason of the list that
applies is the one that is given (`Keeper.revealRefusal?`). If none applies, the commitment is
opened, and `Keeper.Revealed` says what that leaves behind: the object goes to the actor, one
amendment is added, and nothing else changes. There is no third case for a keeper that has grown
from an empty store and has a number left for the amendment (`Keeper.Grown.refused_or_revealed`).

That the engine does not refuse is a matter of how the keeper came about. The policy of a commitment
exists, and an object that nobody owns has no relationships, so it can be registered.
-/

namespace AccessControl

/-! ### Reasons against opening a commitment -/

/-- A reason not to do something, which may apply or not. -/
structure Objection where
  applies : Bool
  error : HandlerError

/-- The error for the first of some reasons that applies. -/
def Objection.first? (objections : List Objection) : Option HandlerError :=
  (objections.find? applies).map error

namespace Objection

@[simp]
theorem first?_nil : first? [] = none :=
  rfl

@[simp]
theorem first?_cons (objection : Objection) (rest : List Objection) :
    first? (objection :: rest) =
      if objection.applies then some objection.error else first? rest := by
  cases h : objection.applies <;> simp [first?, h]

theorem first?_append (objections others : List Objection) :
    first? (objections ++ others) = (first? objections).or (first? others) := by
  rw [first?, List.find?_append, Option.map_or, first?, first?]

end Objection

namespace Commitment

/-- What speaks against opening a commitment, whoever owns the object. -/
def objections (actor : Did) (policyId : String) (proof : RegistrationProof) (now : Timestamp)
    (commitment : Commitment) : List Objection :=
  [⟨commitment.expired || commitment.isExpiredAt now, .registration
      (.commitmentExpired commitment.id commitment.createdAt commitment.validity now)⟩,
    ⟨!proof.object.isWellFormed, .registration (.commitment (.malformedObject proof.object))⟩,
    ⟨proof.leafCount ≤ proof.leafIndex,
      .registration (.commitment (.indexOutOfRange proof.leafIndex proof.leafCount))⟩,
    ⟨commitment.policyId ≠ policyId,
      .commitmentPolicyMismatch commitment.id policyId commitment.policyId⟩,
    ⟨Opening.verify commitment.root.octets commitment.policyId actor proof = .ok false,
      .invalidProof commitment.id proof.object actor⟩]

/-- What speaks against taking an object over from somebody that has registered it. -/
def takeoverObjections (actor : Did) (object : Object) (commitment : Commitment)
    (registration : RelationshipRecord) : List Objection :=
  [⟨commitment.owner ≠ actor, .notCommitmentOwner commitment.id actor⟩,
    ⟨registration.provenance.createdAt.height ≤ commitment.createdAt.height,
      .priorClaim object registration.owner commitment.id commitment.createdAt.height
        registration.provenance.createdAt.height⟩]

end Commitment

namespace Host

variable {σ ρ : Type} [Store σ] {host : Host σ ρ} {actor : Did} {policyId : String}
  {commitmentId : UInt64} {proof : RegistrationProof} {now : Timestamp} {commitment : Commitment}

/-- What speaks against a commitment that is found is looked for in the order of the list. -/
theorem openedCommitment_of_commitment?_eq_some
    (h : Repository.commitment? commitmentId host.store = .ok (some commitment)) :
    host.openedCommitment policyId actor commitmentId proof now =
      match Objection.first? (commitment.objections actor policyId proof now) with
      | some error => .error error
      | none => .ok commitment := by
  have hopen : host.openCommitment commitmentId proof actor now =
      if commitment.expired || commitment.isExpiredAt now then
        .error (.commitmentExpired commitment.id commitment.createdAt commitment.validity now)
      else
        ((Opening.verify commitment.root.octets commitment.policyId actor proof).mapError
          RegistrationError.commitment).map fun opens => (commitment, opens) := by
    rw [openCommitment, commitment_eq_ok_iff.mpr h]
    rfl
  rw [openedCommitment, hopen, Commitment.objections]
  simp only [Objection.first?_cons, Objection.first?_nil, Opening.verify_octets_eq]
  -- The cases follow the order of the checks.
  by_cases hexpired : commitment.expired || commitment.isExpiredAt now
  · simp only [hexpired, if_true]
    rfl
  by_cases hformed : proof.object.isWellFormed
  case neg =>
    simp only [hexpired, hformed, Bool.not_false, if_true, Bool.false_eq_true, if_false]
    rfl
  by_cases hindex : proof.leafCount ≤ proof.leafIndex
  · simp only [hexpired, hformed, hindex, Bool.not_true, decide_true, if_true, Bool.false_eq_true,
      if_false]
    rfl
  -- Now the path is checked, but another policy is the reason that is given first.
  generalize Merkle.verify (Opening.committedLeaf commitment.policyId actor proof.object)
    proof.leafIndex proof.leafCount proof.path commitment.root = opens
  simp only [hexpired, hformed, hindex, Bool.not_true, decide_false, if_true, Bool.false_eq_true,
    if_false]
  show (if commitment.policyId ≠ policyId then _ else _) = _
  by_cases hpolicy : commitment.policyId = policyId
  · cases opens with
    | false => simp [hpolicy]
    | true =>
      simp [hpolicy]
      rfl
  · simp [hpolicy]

theorem openedCommitment_of_commitment?_eq_none
    (h : Repository.commitment? commitmentId host.store = .ok none) :
    host.openedCommitment policyId actor commitmentId proof now =
      .error (.registration (.commitmentNotFound commitmentId)) := by
  rw [openedCommitment, openCommitment, Host.commitment, readStore, h]
  rfl

theorem requirePriority_eq (object : Object) (registration : RelationshipRecord) :
    requirePriority commitment actor object registration =
      match Objection.first? (commitment.takeoverObjections actor object registration) with
      | some error => .error error
      | none => .ok () := by
  rw [requirePriority, Commitment.takeoverObjections]
  by_cases howner : commitment.owner = actor
  · by_cases hheight : registration.provenance.createdAt.height ≤ commitment.createdAt.height
    · simp [howner, hheight]
    · simp [howner, hheight]
  · simp [howner]

end Host

/-! ### Giving an object to an actor -/

namespace MemoryEngine

variable {engine engine' : MemoryEngine} {policyId : String} {object : Object}
  {provenance : Provenance}

/-- An object has a registration and no other one, and all the rest is as before. -/
structure Assigned (policyId : String) (object : Object) (record : RelationshipRecord)
    (engine engine' : MemoryEngine) : Prop where
  registration_eq : RelationshipEngine.registration? engine' policyId object = .ok (some record)
  record?_of_isOwnership : ∀ relationship, relationship.object = object →
    relationship.isOwnership → relationship ≠ record.relationship →
    engine'.record? policyId relationship = none
  record?_eq : ∀ relationship, relationship.object ≠ object ∨ relationship.isOwnership = false →
    engine'.record? policyId relationship = engine.record? policyId relationship
  get?_eq : ∀ other, other ≠ policyId → engine'.policies.get? other = engine.policies.get? other

/-- An object that nobody owned is assigned to whoever registers it. -/
theorem Coherent.assigned_of_register {outcome : RegisterOutcome} (hcoherent : engine.Coherent)
    (hnobody : RelationshipEngine.registration? engine policyId object = .ok none)
    (hformed : object.isWellFormed)
    (h : (register policyId object provenance).run engine = (.ok outcome, engine')) :
    outcome.record = ⟨policyId, .owner object provenance.owner, false, provenance⟩ ∧
      Assigned policyId object outcome.record engine engine' := by
  obtain ⟨records, hrecords, hfound⟩ := registration?_eq_ok_iff.mp hnobody
  have hnone : records.registration? object = none := Option.map_eq_none_iff.mp hfound
  rw [run_register_of_registration?_eq_none hrecords hnone hformed, Prod.mk.injEq,
    Except.ok.injEq] at h
  obtain ⟨rfl, rfl⟩ := h
  have hrecordsCoherent := hcoherent _ _ hrecords
  refine ⟨rfl, ?_, ?_, ?_, fun other => get?_withPolicy_of_ne⟩
  · have hregistered := hrecordsCoherent.registration?_register hformed hnone provenance
    exact registration?_eq_ok_iff.mpr ⟨_, get?_withPolicy_self, by rw [hregistered]; rfl⟩
  · -- In coherent records, an object that nobody owns is in no record at all.
    intro relationship hobject _ hne
    rw [record?_withPolicy, SortedMap.get?_insert_of_ne hne,
      hrecordsCoherent.get?_eq_none hnone hobject]
  · intro relationship hother
    have hne : relationship ≠ .owner object provenance.owner := by
      rintro rfl
      simp [Relationship.owner, Relationship.isOwnership] at hother
    rw [record?_withPolicy, record?_of_get? hrecords, SortedMap.get?_insert_of_ne hne]

/-- An object that somebody owned is assigned to whoever takes it over. -/
theorem Coherent.assigned_of_amend {registration record : RelationshipRecord}
    (hcoherent : engine.Coherent)
    (hregistration :
      RelationshipEngine.registration? engine policyId object = .ok (some registration))
    (h : (MemoryEngine.amend policyId object provenance).run engine = (.ok record, engine')) :
    record = ⟨policyId, .owner object provenance.owner, registration.archived, provenance⟩ ∧
      Assigned policyId object record engine engine' := by
  have htaken := takenOver_of_amend hcoherent hregistration h
  obtain ⟨records, previous, hrecords, hprevious, hrecord, -⟩ := run_amend_eq_ok_iff.mp h
  obtain ⟨found, hfound, hsame⟩ := registration?_eq_ok_iff.mp hregistration
  rw [hrecords, Option.some.injEq] at hfound
  rw [← hfound, hprevious, Option.map_some, Option.some.injEq] at hsame
  rw [hsame] at hrecord
  subst hrecord
  refine ⟨rfl, htaken.registration_eq, htaken.record?_of_isOwnership, ?_, fun other hne =>
    get?_of_amend hne h⟩
  intro relationship hother
  by_cases hobject : relationship.object = object
  · exact htaken.record?_eq relationship hobject (hother.resolve_left (· hobject))
  · exact record?_of_amend hobject h

end MemoryEngine

/-! ### One more amendment -/

namespace Repository.Kept

variable {σ : Type} [Store σ] [LawfulStore σ] {book : Book} {store store' : σ}
  {amendment : Amendment}

/-- The next amendment has the number after the last one. -/
theorem id_eq_add_one {last : UInt64} (h : Kept book store)
    (hcurrent : amendmentSequence.current store = .ok last)
    (hnext : amendment.id.toNat = book.amendments.length + 1) : amendment.id = last + 1 := by
  rw [h.current_amendmentSequence] at hcurrent
  obtain rfl := Except.ok.inj hcurrent
  rw [← UInt64.ofNat_toNat (x := amendment.id), hnext, UInt64.ofNat_add]
  rfl

theorem amendment?_eq_none (h : Kept book store)
    (hnext : amendment.id.toNat = book.amendments.length + 1) :
    Repository.amendment? amendment.id store = .ok none := by
  rw [h.amendment?_eq]
  exact congrArg _ (h.sound.amendments_numbered.find?_of_lt (by omega))

theorem amendment?_eq_of_addAmendment (h : Kept book store)
    (hafter : Kept (book.addAmendment amendment) store')
    (hnext : amendment.id.toNat = book.amendments.length + 1) (id : UInt64) :
    Repository.amendment? id store' =
      if id = amendment.id then .ok (some amendment.civil)
      else Repository.amendment? id store := by
  rw [hafter.amendment?_eq, h.amendment?_eq, Book.amendment?_addAmendment h.sound hnext]
  split <;> rfl

theorem current_eq_of_addAmendment (hafter : Kept (book.addAmendment amendment) store')
    (hnext : amendment.id.toNat = book.amendments.length + 1) :
    amendmentSequence.current store' = .ok amendment.id := by
  have hlength : (book.addAmendment amendment).amendments.length = amendment.id.toNat := by
    rw [hnext]
    exact List.length_append
  rw [hafter.current_amendmentSequence, hlength, UInt64.ofNat_toNat]

end Repository.Kept

/-! ### Opening a commitment on a host -/

namespace Host

open Repository

variable {σ : Type} [Store σ] {host host' : Host σ MemoryEngine} {params : Params} {actor : Did}
  {policyId : String} {transaction : Transaction} {commitmentId : UInt64}
  {proof : RegistrationProof} {outcome : CommandOutcome} {commitment : Commitment}

/-- **An object for which a commitment is opened is assigned to the actor**, as of the block of the
commitment, and stays in or out of use. -/
theorem Effect.assigned
    (h : Effect params actor policyId transaction host (.revealRegistration commitmentId proof)
      outcome host') (hcoherent : host.engine.Coherent) :
    ∃ commitment found record amendment, outcome = .revealRegistration record amendment ∧
      host.openedCommitment policyId actor commitmentId proof transaction.now = .ok commitment ∧
      RelationshipEngine.registration? host.engine policyId proof.object = .ok found ∧
      record = ⟨policyId, .owner proof.object actor, found.any RelationshipRecord.archived,
        { transaction.provenance actor with createdAt := commitment.createdAt }⟩ ∧
      MemoryEngine.Assigned policyId proof.object record host.engine host'.engine := by
  cases h with
  | @registered _ _ commitment amendment outcome _ _ hopened hnone _ hengine =>
    obtain ⟨-, -, -, hverify, -⟩ := openedCommitment_eq_ok_iff.mp hopened
    have hformed := (Opening.verify_octets_eq_ok_iff.mp hverify).1
    obtain ⟨hrecord, hassigned⟩ :=
      hcoherent.assigned_of_register hnone hformed hengine
    exact ⟨commitment, none, _, _, rfl, hopened, hnone, hrecord, hassigned⟩
  | @takenOver _ _ commitment registration _ _ _ _ hopened hregistration _ _ _ hengine =>
    obtain ⟨hrecord, hassigned⟩ :=
      hcoherent.assigned_of_amend hregistration hengine
    exact ⟨commitment, some registration, _, _, rfl, hopened, hregistration, hrecord, hassigned⟩

/-- The amendment and its number are all that is written. -/
theorem Effect.contents_eq [LawfulStore σ] {last : UInt64} {record : RelationshipRecord}
    {amendment : Amendment}
    (h : Effect params actor policyId transaction host (.revealRegistration commitmentId proof)
      (.revealRegistration record amendment) host')
    (hcurrent : amendmentSequence.current host.store = .ok last) :
    LawfulStore.contents host'.store = ((LawfulStore.contents host.store).insert
      amendmentSequence.key (Sequence.octets amendment.id)).insert (amendmentKey amendment.id)
        amendment.toJson.render := by
  generalize houtcome : CommandOutcome.revealRegistration record amendment = outcome at h
  cases h with
  | registered _ _ hstore _ =>
    cases houtcome
    exact (Kept.contents_of_run_createAmendment hcurrent hstore).2.2
  | takenOver _ _ _ _ hstore _ =>
    cases houtcome
    exact (Kept.contents_of_run_createAmendment hcurrent hstore).2.2

end Host

namespace Keeper

open Repository

variable {σ : Type}

/-- The record of who owns an object, if the policy exists and somebody owns it. -/
def registered? (policyId : String) (object : Object) (keeper : Keeper σ MemoryEngine) :
    Option RelationshipRecord :=
  match keeper.registration? policyId object with
  | .ok registered => registered
  | .error _ => none

/-- Why a commitment, which may or may not be found under its number, is not opened for an object of
a policy, if there is a reason. -/
def revealRefusal? (actor : Did) (policyId : String) (commitmentId : UInt64)
    (proof : RegistrationProof) (now : Timestamp) (found : Option Commitment)
    (registered : Option RelationshipRecord) : Option HandlerError :=
  match found with
  | none => some (.registration (.commitmentNotFound commitmentId))
  | some commitment =>
    Objection.first? (commitment.objections actor policyId proof now ++
      registered.elim [] (commitment.takeoverObjections actor proof.object))

variable [Store σ] [LawfulStore σ]

/-- What opening a commitment for an object leaves behind, of which there were a number of
amendments before. -/
structure Revealed (actor : Did) (policyId : String) (commitment : Commitment) (object : Object)
    (transaction : Transaction) (registered : Option RelationshipRecord) (last : UInt64)
    (record : RelationshipRecord) (amendment : Amendment)
    (keeper keeper' : Keeper σ MemoryEngine) : Prop where
  /-- The actor owns the object as of the time of the commitment, by this transaction, and the
  object stays in or out of use. -/
  record_eq : record = ⟨policyId, .owner object actor,
    registered.any RelationshipRecord.archived,
    { transaction.provenance actor with createdAt := commitment.createdAt }⟩
  /-- This is in the engine, where nothing else has changed. -/
  assigned : MemoryEngine.Assigned policyId object record keeper.host.engine keeper'.host.engine
  /-- The amendment says who owns the object and who owned it before, by which commitment and by
  which transaction. -/
  amendment_eq : amendment = ⟨amendment.id, policyId, object, actor,
    registered.map RelationshipRecord.owner, commitment.id, false, transaction.provenance actor⟩
  /-- It has the next number, under which there was none. -/
  id_eq : amendment.id = last + 1
  amendment?_eq_none : Repository.amendment? amendment.id keeper.host.store = .ok none
  /-- It is in the store now, with the time that a clock shows, and it is the only one that is
  new. -/
  amendment?_eq : ∀ id, Repository.amendment? id keeper'.host.store =
    if id = amendment.id then .ok (some amendment.civil)
    else Repository.amendment? id keeper.host.store
  current_eq : amendmentSequence.current keeper'.host.store = .ok amendment.id
  /-- Commitments are as before. -/
  commitment?_eq : ∀ id, Repository.commitment? id keeper'.host.store =
    Repository.commitment? id keeper.host.store
  /-- Nothing but the amendment and its number was written. -/
  contents_eq : LawfulStore.contents keeper'.host.store =
    ((LawfulStore.contents keeper.host.store).insert amendmentSequence.key
      (Sequence.octets amendment.id)).insert (amendmentKey amendment.id) amendment.toJson.render
  /-- What is not on the host is as before, too. -/
  keeper_eq : keeper' = { keeper with host := keeper'.host }

variable {keeper keeper' : Keeper σ MemoryEngine} {book : Book} {actor : Did}
  {policyId : String} {commitmentId : UInt64} {proof : RegistrationProof}
  {transaction : Transaction} {error : HandlerError} {commitment : Commitment}
  {found registered : Option RelationshipRecord}

/-- A commitment that is opened belongs to a policy that exists. -/
theorem InOrder.registration?_eq (h : InOrder book keeper)
    (hfound : book.commitment? commitmentId = some commitment)
    (hpolicy : commitment.policyId = policyId) (object : Object) :
    RelationshipEngine.registration? keeper.host.engine policyId object =
      .ok (keeper.registered? policyId object) := by
  have hmem := (h.keepsBook.kept.sound.commitment?_eq_some_iff.mp hfound).1
  obtain ⟨found, hregistration⟩ :=
    MemoryEngine.exists_registration?_eq (hpolicy ▸ h.isSome_policy commitment hmem) object
  rw [registered?, registration?, hregistration]
  rfl

/-- A commitment of the book is opened on held-back writes if nothing speaks against it. -/
theorem InOrder.openedCommitment_eq (h : InOrder book keeper) (actor : Did) (policyId : String)
    (proof : RegistrationProof) (now : Timestamp)
    (hfound : book.commitment? commitmentId = some commitment) :
    Host.openedCommitment policyId actor commitmentId proof now
        ⟨Overlay.ofStore keeper.host.store, keeper.host.engine⟩ =
      match Objection.first? (commitment.objections actor policyId proof now) with
      | some error => .error error
      | none => .ok commitment := by
  refine Host.openedCommitment_of_commitment?_eq_some ?_
  rw [h.keepsBook.kept.ofStore.commitment?_eq, hfound]

/-- A command for which there is a reason fails for it. -/
theorem InOrder.run_dispatch_of_refusal (h : InOrder book keeper)
    (hrefusal : revealRefusal? actor policyId commitmentId proof transaction.now
      (book.commitment? commitmentId) (keeper.registered? policyId proof.object) = some error) :
    (Host.dispatch keeper.params actor policyId transaction
        (.revealRegistration commitmentId proof)).run
        ⟨Overlay.ofStore keeper.host.store, keeper.host.engine⟩ =
      (.error error, ⟨Overlay.ofStore keeper.host.store, keeper.host.engine⟩) := by
  cases hfound : book.commitment? commitmentId with
  | none =>
    rw [hfound] at hrefusal
    cases hrefusal
    have hcommitment := h.keepsBook.kept.ofStore.commitment?_eq commitmentId
    rw [hfound] at hcommitment
    exact Host.run_dispatch_of_openedCommitment_eq_error
      (Host.openedCommitment_of_commitment?_eq_none hcommitment)
  | some commitment =>
    rw [hfound] at hrefusal
    rw [revealRefusal?, Objection.first?_append] at hrefusal
    have hopened := h.openedCommitment_eq actor policyId proof transaction.now hfound
    cases hfirst : Objection.first?
        (commitment.objections actor policyId proof transaction.now) with
    | some first =>
      rw [hfirst] at hopened hrefusal
      cases hrefusal
      exact Host.run_dispatch_of_openedCommitment_eq_error hopened
    | none =>
      -- The commitment is opened, so the reason is that of somebody who owns the object.
      rw [hfirst] at hopened hrefusal
      obtain ⟨-, -, -, -, hpolicy⟩ := Host.openedCommitment_eq_ok_iff.mp hopened
      have hregistration := h.registration?_eq hfound hpolicy proof.object
      cases hregistered : keeper.registered? policyId proof.object with
      | none =>
        rw [hregistered] at hrefusal
        cases hrefusal
      | some registration =>
        rw [hregistered] at hrefusal hregistration
        have htakeover : Objection.first?
            (commitment.takeoverObjections actor proof.object registration) = some error := hrefusal
        refine Host.run_dispatch_of_requirePriority_eq_error hopened hregistration ?_
        rw [Host.requirePriority_eq, htakeover]

/-- A command for which there is no reason not to is carried out, if there is a number left. -/
theorem InOrder.exists_run_of_refusal_eq_none (h : InOrder book keeper)
    (hroom : book.amendments.length + 1 < UInt64.size)
    (hrefusal : revealRefusal? actor policyId commitmentId proof transaction.now
      (book.commitment? commitmentId) (keeper.registered? policyId proof.object) = none) :
    ∃ outcome keeper', (execute actor policyId (.revealRegistration commitmentId proof)
      transaction).run keeper = (.ok outcome, keeper') := by
  cases hfound : book.commitment? commitmentId with
  | none =>
    rw [hfound] at hrefusal
    cases hrefusal
  | some commitment =>
    rw [hfound] at hrefusal
    rw [revealRefusal?, Objection.first?_append, Option.or_eq_none_iff] at hrefusal
    obtain ⟨hobjections, htakeover⟩ := hrefusal
    have hopened := h.openedCommitment_eq actor policyId proof transaction.now hfound
    rw [hobjections] at hopened
    obtain ⟨-, -, -, -, hpolicy⟩ := Host.openedCommitment_eq_ok_iff.mp hopened
    have hregistration := h.registration?_eq hfound hpolicy proof.object
    have hpriority : ∀ registration ∈ keeper.registered? policyId proof.object,
        commitment.owner = actor ∧
          commitment.createdAt.height < registration.provenance.createdAt.height := by
      intro registration hregistered
      rw [Option.mem_def.mp hregistered] at htakeover
      have hnone : Objection.first?
          (commitment.takeoverObjections actor proof.object registration) = none := htakeover
      have hpriority :
          Host.requirePriority commitment actor proof.object registration = .ok () := by
        rw [Host.requirePriority_eq, hnone]
      exact Host.requirePriority_eq_ok_iff.mp hpriority
    obtain ⟨outcome, host', heffect⟩ := Host.exists_effect_of_openedCommitment
      h.keepsBook.kept.ofStore hroom h.reachable.coherent hopened hregistration hpriority
    exact ⟨outcome, exists_run_execute heffect⟩

/-- What was carried out left behind what it should. -/
theorem InOrder.revealed_of_run {outcome : CommandOutcome} {last : UInt64}
    (h : InOrder book keeper)
    (hcurrent : amendmentSequence.current keeper.host.store = .ok last)
    (hrun : (execute actor policyId (.revealRegistration commitmentId proof) transaction).run
      keeper = (.ok outcome, keeper')) :
    ∃ commitment record amendment, book.commitment? commitmentId = some commitment ∧
      outcome = .revealRegistration record amendment ∧
      Revealed actor policyId commitment proof.object transaction
        (keeper.registered? policyId proof.object) last record amendment keeper keeper' := by
  have hkept := h.keepsBook.kept
  obtain ⟨overlay, heffect, hcommit, hkeeper⟩ := run_execute_eq_ok_iff.mp hrun
  obtain ⟨commitment, found, record, amendment, rfl, hopened, hregistration, hrecord, hassigned⟩ :=
    heffect.assigned h.reachable.coherent
  obtain ⟨hcommitment, hid, hpolicy⟩ := Host.commitment?_of_openedCommitment hkept.ofStore hopened
  have hregistered := h.registration?_eq hcommitment hpolicy proof.object
  obtain ⟨hnumber, _, _, found', hcommand, hregistration', hamendment⟩ :=
    heffect.amendment_eq hkept.ofStore
  cases hcommand
  rw [hregistered] at hregistration hregistration'
  obtain rfl := Except.ok.inj hregistration
  obtain rfl := Except.ok.inj hregistration'
  have hcontents := heffect.contents_eq hkept.ofStore.current_amendmentSequence
  rw [← contents_of_commit hcommit, Overlay.contents_ofStore] at hcontents
  have hafter := (h.action
    (.execute actor policyId (.revealRegistration commitmentId proof) transaction)).keepsBook.kept
  rw [Call.run_action_execute_eq_ok_iff.mpr hrun] at hafter
  -- The outcome of the call says that the book has this amendment more.
  replace hafter : Kept (book.addAmendment amendment) keeper'.host.store := hafter
  refine ⟨commitment, record, amendment, hcommitment, rfl, ?_⟩
  exact {
    record_eq := hrecord
    assigned := hassigned
    amendment_eq := by
      rw [hid]
      exact hamendment
    id_eq := hkept.id_eq_add_one hcurrent hnumber
    amendment?_eq_none := hkept.amendment?_eq_none hnumber
    amendment?_eq := hkept.amendment?_eq_of_addAmendment hafter hnumber
    current_eq := hafter.current_eq_of_addAmendment hnumber
    commitment?_eq := by
      intro id
      rw [hafter.commitment?_eq, hkept.commitment?_eq]
      rfl
    contents_eq := hcontents
    keeper_eq := hkeeper }

/-- **A commitment is opened unless there is a reason not to.** In a keeper that has grown from an
empty store and has a number left for one more amendment, opening a commitment fails for the first
reason in the list, and then everything stays as it is, or there is no reason and it succeeds. -/
theorem Grown.refused_or_revealed (hgrown : keeper.Grown) {last : UInt64}
    (hcurrent : amendmentSequence.current keeper.host.store = .ok last)
    (hroom : last.toNat + 1 < UInt64.size) (actor : Did) (policyId : String)
    (commitmentId : UInt64) (proof : RegistrationProof) (transaction : Transaction) :
    ∃ found, Repository.commitment? commitmentId keeper.host.store = .ok found ∧
      let registered := keeper.registered? policyId proof.object
      let refusal :=
        revealRefusal? actor policyId commitmentId proof transaction.now found registered
      let run := (execute actor policyId (.revealRegistration commitmentId proof) transaction).run
        keeper
      (∀ error, refusal = some error → run = (.error error, keeper)) ∧
      (refusal = none → ∃ commitment record amendment keeper', found = some commitment ∧
        run = (.ok (.revealRegistration record amendment), keeper') ∧
        Revealed actor policyId commitment proof.object transaction registered last record amendment
          keeper keeper') := by
  obtain ⟨book, hbook⟩ := hgrown.exists_inOrder
  refine ⟨book.commitment? commitmentId, hbook.keepsBook.kept.commitment?_eq _, ?_, ?_⟩
  · -- What the failed command did is not looked at: no command that fails leaves a trace.
    intro error hrefusal
    obtain ⟨keeper', hrun⟩ := exists_run_execute_eq_error (hbook.run_dispatch_of_refusal hrefusal)
    have hclean := failsClean_execute MemoryEngine.failsClean actor policyId
      (.revealRegistration commitmentId proof) transaction keeper error (congrArg Prod.fst hrun)
    rw [hrun] at hclean ⊢
    rw [show keeper' = keeper from hclean]
  · intro hrefusal
    have hcount : book.amendments.length + 1 < UInt64.size := by
      rw [hbook.keepsBook.kept.current_amendmentSequence, Except.ok.injEq] at hcurrent
      rwa [← hcurrent, UInt64.toNat_ofNat_of_lt'
        hbook.keepsBook.kept.sound.amendments_numbered.length_lt] at hroom
    obtain ⟨outcome, keeper', hrun⟩ := hbook.exists_run_of_refusal_eq_none hcount hrefusal
    obtain ⟨commitment, record, amendment, hfound, rfl, hrevealed⟩ :=
      hbook.revealed_of_run hcurrent hrun
    exact ⟨commitment, record, amendment, keeper', hfound, hrun, hrevealed⟩

end Keeper

/-! ### A takeover -/

namespace Takeover

open Ledger

/-- Alice publishes a commitment to the report in the first block. -/
def committed : Keeper MemoryStore MemoryEngine :=
  ((Keeper.execute alice "policy" (commit alice) (transaction 1)).run (created .empty)).2

/-- Bob registers the report in the second one. -/
def owned : Keeper MemoryStore MemoryEngine :=
  ((Keeper.execute bob "policy" (.registerObject report) (transaction 2)).run committed).2

/-- What comes of it when alice opens her commitment in the third one. -/
def revealed : Except HandlerError CommandOutcome × Keeper MemoryStore MemoryEngine :=
  (Keeper.execute alice "policy" (reveal 1) (transaction 3)).run owned

end Takeover

namespace Keeper

open Ledger Takeover Repository

/-- Alice takes the report over from bob. -/
theorem refused_or_revealed_takeover :
    owned.Grown ∧ amendmentSequence.current owned.host.store = .ok 0 ∧
      (owned.registered? "policy" report).map (fun record => record.owner.text) =
        some bob.text ∧
      ∃ commitment record amendment keeper',
        revealed = (.ok (.revealRegistration record amendment), keeper') ∧
        Revealed alice "policy" commitment report (transaction 3)
          (owned.registered? "policy" report) 0 record amendment owned keeper' := by
  have hgrown : owned.Grown := (grown_created.executed _ _ _ _).executed _ _ _ _
  have hrun : amendmentSequence.current owned.host.store = .ok 0 ∧
      (owned.registered? "policy" report).map (fun record => record.owner.text) =
        some bob.text ∧
      revealed.1.isOk = true := by
    decide +kernel
  obtain ⟨hcurrent, howner, hok⟩ := hrun
  refine ⟨hgrown, hcurrent, howner, ?_⟩
  obtain ⟨found, -, hrefused, hrevealed⟩ := hgrown.refused_or_revealed hcurrent (by decide) alice
    "policy" 1 opening (transaction 3)
  cases hrefusal : revealRefusal? alice "policy" 1 opening (transaction 3).now found
      (owned.registered? "policy" report) with
  | some error =>
    have hfailed : revealed = (.error error, owned) := hrefused error hrefusal
    rw [hfailed] at hok
    cases hok
  | none =>
    obtain ⟨commitment, record, amendment, keeper', -, hopened⟩ := hrevealed hrefusal
    exact ⟨commitment, record, amendment, keeper', hopened⟩

end Keeper

end AccessControl
