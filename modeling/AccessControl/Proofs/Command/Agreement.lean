import AccessControl.Proofs.Command.Marks

/-!
# Commands on hosts that differ in marks

Of two hosts with the same engine whose stores differ at most in marks of expired commitments, it
does not matter on which one a command is carried out (`Host.agrees_dispatch`): the outcome or the
error is the same, and so are the hosts after it, up to such marks. The only command that looks at
marks is the one that opens a commitment, and it also looks at the time
(`Host.openedCommitment_eq`).
-/

namespace AccessControl.Host

open Repository

variable {σ ρ α : Type}

/-- Hosts whose stores are alike in some way and whose engines are the same. -/
def Alike (kept : σ → σ → Prop) (host other : Host σ ρ) : Prop :=
  kept host.store other.store ∧ host.engine = other.engine

/-! ### Actions on the parts of a host -/

section

variable {kept : σ → σ → Prop}

/-- What an action on the engine does is decided by the engine. -/
theorem agrees_onEngine (action : Action ρ EngineError α) :
    Action.Agrees (Alike kept : Host σ ρ → Host σ ρ → Prop) (onEngine action) (onEngine action) :=
  ((Action.agrees_refl action).mapError _).within (fun _ _ => And.right)
    fun _ _ _ _ hhost hengine => ⟨hhost.1, hengine⟩

theorem agrees_onStore {action : Action σ StoreError α} (h : action.Agrees kept action) :
    Action.Agrees (Alike kept : Host σ ρ → Host σ ρ → Prop) (onStore action) (onStore action) :=
  (h.mapError _).within (fun _ _ => And.left) fun _ _ _ _ hhost hstore => ⟨hstore, hhost.2⟩

end

/-! ### Reading commitments and amendments -/

variable [Store σ] [LawfulStore σ] {now : Timestamp} {host other : Host σ ρ}

/-- **The mark of a commitment does not matter to whoever opens it**: a marked commitment has
expired, and then it cannot be opened anyway, with the same error. -/
theorem openedCommitment_eq (h : Alike (KeptAlike now) host other) (policyId : String)
    (actor : Did) (commitmentId : UInt64) (proof : RegistrationProof) :
    host.openedCommitment policyId actor commitmentId proof now =
      other.openedCommitment policyId actor commitmentId proof now := by
  obtain ⟨⟨book, book', hkept, hkept', halike⟩, -⟩ := h
  suffices hopen : host.openCommitment commitmentId proof actor now =
      other.openCommitment commitmentId proof actor now by
    rw [openedCommitment, openedCommitment, hopen]
  have hread : readStore (commitment? commitmentId) host =
      .ok (book.commitment? commitmentId) := by
    rw [readStore_eq_ok_iff, hkept.commitment?_eq]
  have hread' : readStore (commitment? commitmentId) other =
      .ok (book'.commitment? commitmentId) := by
    rw [readStore_eq_ok_iff, hkept'.commitment?_eq]
  rw [openCommitment, openCommitment, Host.commitment, Host.commitment, hread, hread']
  rcases halike.commitment?_cases hkept.sound hkept'.sound commitmentId with
    ⟨hnone, hnone'⟩ | ⟨found, found', hfound, hfound', hmarks, rfl | ⟨hexpired, hexpired'⟩⟩
  · rw [hnone, hnone']
  · rw [hfound, hfound']
  · rw [hfound, hfound']
    rw [Commitment.asExpired, Commitment.asExpired, Commitment.mk.injEq] at hmarks
    obtain ⟨hid, -, -, -, hvalidity, hprovenance⟩ := hmarks
    have hcreated : found.createdAt = found'.createdAt :=
      congrArg Provenance.createdAt hprovenance
    show (if found.expired || found.isExpiredAt now then _ else _) =
      (if found'.expired || found'.isExpiredAt now then _ else _)
    rw [hexpired, hexpired', Bool.or_true, Bool.or_true, if_pos rfl, if_pos rfl, hid, hcreated,
      hvalidity]

theorem amendment_eq (h : Alike (KeptAlike now) host other) (id : UInt64) :
    host.amendment id = other.amendment id := by
  rw [Host.amendment, Host.amendment, readStore, readStore, h.1.amendment?_eq]

theorem disputableAmendment_eq (h : Alike (KeptAlike now) host other) (policyId : String)
    (id : UInt64) (actor : Did) :
    host.disputableAmendment policyId id actor = other.disputableAmendment policyId id actor := by
  rw [disputableAmendment, disputableAmendment, amendment_eq h]

/-! ### Commands -/

theorem agrees_disputeAmendment (now : Timestamp) (policyId : String) (id : UInt64) (actor : Did) :
    Action.Agrees (Alike (KeptAlike now) : Host σ ρ → Host σ ρ → Prop)
      (disputeAmendment policyId id actor) (disputeAmendment policyId id actor) := by
  have hcheck : Action.Agrees (Alike (KeptAlike now) : Host σ ρ → Host σ ρ → Prop)
      (.read (disputableAmendment policyId id actor))
      (.read (disputableAmendment policyId id actor)) :=
    Action.agrees_read fun _ _ h => disputableAmendment_eq h policyId id actor
  intro host other hhosts
  refine hcheck.bind_of_run hhosts fun amendment middle middle' hread hread' _ => ?_
  obtain ⟨hfound, rfl⟩ := Action.run_read_eq_ok_iff.mp hread
  obtain ⟨-, rfl⟩ := Action.run_read_eq_ok_iff.mp hread'
  by_cases hdisputed : amendment.disputed = true
  · rw [if_pos hdisputed]
    exact ⟨rfl, hhosts⟩
  · rw [if_neg hdisputed]
    -- The amendment that was read is the one that is marked.
    obtain ⟨hstored, -, -⟩ := disputableAmendment_eq_ok_iff.mp hfound
    obtain ⟨book, book', hkept, -⟩ := hhosts.1
    have hid : amendment.id = id := by
      rw [hkept.amendment?_eq, Except.ok.injEq] at hstored
      exact (hkept.sound.amendment?_eq_some_iff.mp hstored).2
    obtain ⟨hresult, hfinal⟩ := hhosts.1.run_markDisputed (hid ▸ hstored)
      (Bool.eq_false_iff.mpr hdisputed)
    exact ⟨congrArg (Except.mapError RegistrationError.store) hresult, hfinal, hhosts.2⟩

theorem agrees_recordAmendment (now : Timestamp) (commitment : Commitment) (object : Object)
    (previousOwner : Option Did) (provenance : Provenance) :
    Action.Agrees (Alike (KeptAlike now) : Host σ ρ → Host σ ρ → Prop)
      (recordAmendment commitment object previousOwner provenance)
      (recordAmendment commitment object previousOwner provenance) :=
  agrees_onStore (agrees_createAmendment now _ _ _ _ _ _)

variable [RelationshipEngine ρ]

theorem agrees_publishCommitment (now : Timestamp) (policyId : String) (root : Bytes)
    {validity : Validity} (hwhole : validity.IsWhole) (provenance : Provenance) :
    Action.Agrees (Alike (KeptAlike now) : Host σ ρ → Host σ ρ → Prop)
      (publishCommitment policyId root validity provenance)
      (publishCommitment policyId root validity provenance) := by
  have hpolicy : ∀ host other : Host σ ρ, Alike (KeptAlike now) host other →
      host.requirePolicy policyId = other.requirePolicy policyId := by
    intro host other h
    rw [requirePolicy, requirePolicy, h.2]
  refine (Action.agrees_read hpolicy).bind fun _ => ?_
  refine (Action.agrees_read fun _ _ _ => rfl).bind fun root => ?_
  exact agrees_onStore (agrees_createCommitment now policyId root hwhole provenance)

/-- To open a commitment agrees in a block in which the stores differ in marks of expired
commitments only. -/
theorem agrees_reveal (policyId : String) (actor : Did) (commitmentId : UInt64)
    (proof : RegistrationProof) (transaction : Transaction) :
    Action.Agrees (Alike (KeptAlike transaction.now) : Host σ ρ → Host σ ρ → Prop)
      (reveal policyId actor commitmentId proof transaction)
      (reveal policyId actor commitmentId proof transaction) := by
  have hopened : ∀ host other : Host σ ρ, Alike (KeptAlike transaction.now) host other →
      host.openedCommitment policyId actor commitmentId proof transaction.now =
        other.openedCommitment policyId actor commitmentId proof transaction.now :=
    fun _ _ h => openedCommitment_eq h policyId actor commitmentId proof
  refine (Action.agrees_read hopened).bind fun commitment => ?_
  have hregistration : ∀ host other : Host σ ρ, Alike (KeptAlike transaction.now) host other →
      (RelationshipEngine.registration? host.engine policyId proof.object).mapError
        HandlerError.engine =
      (RelationshipEngine.registration? other.engine policyId proof.object).mapError .engine := by
    intro host other h
    rw [h.2]
  refine (Action.agrees_read hregistration).bind fun registration => ?_
  cases registration with
  | none =>
    refine ((agrees_recordAmendment _ _ _ _ _).mapError _).bind fun amendment => ?_
    exact (agrees_onEngine _).bind fun _ => Action.agrees_pure _
  | some registration =>
    refine (Action.agrees_read fun _ _ _ => rfl).bind fun _ => ?_
    refine ((agrees_recordAmendment _ _ _ _ _).mapError _).bind fun amendment => ?_
    exact (agrees_onEngine _).bind fun _ => Action.agrees_pure _

/-- **A command does the same on hosts that differ in marks of expired commitments only.** -/
theorem agrees_dispatch {params : Params} (hwhole : params.commitmentValidity.IsWhole)
    (actor : Did) (policyId : String) (transaction : Transaction) (command : Command) :
    Action.Agrees (Alike (KeptAlike transaction.now) : Host σ ρ → Host σ ρ → Prop)
      (dispatch params actor policyId transaction command)
      (dispatch params actor policyId transaction command) := by
  cases command with
  | commitRegistrations octets =>
    exact ((agrees_publishCommitment _ _ _ hwhole _).mapError _).bind fun _ => Action.agrees_pure _
  | revealRegistration commitmentId proof =>
    exact (agrees_reveal _ _ _ _ _).bind fun _ => Action.agrees_pure _
  | flagHijackAttempt amendmentId =>
    exact ((agrees_disputeAmendment _ _ _ _).mapError _).bind fun _ => Action.agrees_pure _
  | _ =>
    -- The others are one operation of the engine each.
    exact (agrees_onEngine _).bind fun _ => Action.agrees_pure _

end AccessControl.Host
