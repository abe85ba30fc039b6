import AccessControl.Proofs.Keeper.Run
import AccessControl.Proofs.Policy.CleanFailure

/-!
# Failed commands leave no trace

A command that fails leaves the keeper exactly as it was, provided that the engine fails cleanly
(`Keeper.failsClean_memoryStore`). What the store holds does not matter: it may have records that
cannot be read, index entries that lead nowhere and counters that have run out.

For the store this is what holding writes back is for. The engine is not held back; it is changed
last, so when it refuses, nothing but the held-back writes has been changed before
(`Host.preservesOnError_dispatch`).
-/

namespace AccessControl

namespace Host

variable {σ ρ α : Type} [Store σ] [RelationshipEngine ρ] {kept : σ → Prop} {holds : ρ → Prop}

omit [Store σ] [RelationshipEngine ρ] in
theorem preservesOnError_onEngine {action : Action ρ EngineError α} (h : action.FailsClean) :
    (onEngine action).PreservesOnError (Holds kept holds : Host σ ρ → Prop) :=
  (h.preservesOnError.mapError _).within (fun _ => And.right) fun _ _ hhost hengine =>
    ⟨hhost.1, hengine⟩

/-- Opening a commitment writes to the store first and changes the engine last. -/
theorem preservesOnError_reveal (hstore : StoreKeeps kept)
    (hclean : RelationshipEngine.FailsClean ρ) (policyId : String) (actor : Did)
    (commitmentId : UInt64) (proof : RegistrationProof) (transaction : Transaction) :
    (reveal policyId actor commitmentId proof transaction).PreservesOnError
      (Holds kept holds : Host σ ρ → Prop) := by
  refine .bind (Action.preserves_read _) fun commitment => ?_
  refine .bind (Action.preserves_read _) fun registration => ?_
  cases registration with
  | none =>
    refine .bind ((preserves_recordAmendment hstore _ _ _ _).mapError _) fun amendment => ?_
    exact (preservesOnError_onEngine (hclean.register _ _ _)).bind_ok fun _ _ => ⟨_, _, rfl⟩
  | some registration =>
    refine .bind (Action.preserves_read _) fun _ => ?_
    refine .bind ((preserves_recordAmendment hstore _ _ _ _).mapError _) fun amendment => ?_
    exact (preservesOnError_onEngine (hclean.amend _ _ _)).bind_ok fun _ _ => ⟨_, _, rfl⟩

/-- **A command that fails has not changed the engine**, and of the store it has kept what single
writes keep. -/
theorem preservesOnError_dispatch (hstore : StoreKeeps kept)
    (hclean : RelationshipEngine.FailsClean ρ) (params : Params) (actor : Did) (policyId : String)
    (transaction : Transaction) (command : Command) :
    (dispatch params actor policyId transaction command).PreservesOnError
      (Holds kept holds : Host σ ρ → Prop) := by
  cases command with
  | setRelationship relationship =>
    exact (preservesOnError_onEngine (hclean.setRelationship _ _ _)).bind_ok
      fun _ _ => ⟨_, _, rfl⟩
  | deleteRelationship relationship =>
    exact (preservesOnError_onEngine (hclean.deleteRelationship _ _ _)).bind_ok
      fun _ _ => ⟨_, _, rfl⟩
  | registerObject object =>
    exact (preservesOnError_onEngine (hclean.register _ _ _)).bind_ok fun _ _ => ⟨_, _, rfl⟩
  | unregisterObject object =>
    exact (preservesOnError_onEngine (hclean.unregister _ _ _)).bind_ok fun _ _ => ⟨_, _, rfl⟩
  | archiveObject object =>
    exact (preservesOnError_onEngine (hclean.archive _ _ _)).bind_ok fun _ _ => ⟨_, _, rfl⟩
  | unarchiveObject object =>
    exact (preservesOnError_onEngine (hclean.unarchive _ _ _)).bind_ok fun _ _ => ⟨_, _, rfl⟩
  | commitRegistrations octets =>
    exact ((preserves_publishCommitment hstore _ _ _ _).mapError _).onError.bind_ok
      fun _ _ => ⟨_, _, rfl⟩
  | revealRegistration commitmentId proof =>
    exact (preservesOnError_reveal hstore hclean _ _ _ _ _).bind_ok fun _ _ => ⟨_, _, rfl⟩
  | flagHijackAttempt amendmentId =>
    exact ((preserves_disputeAmendment hstore _ _ _).mapError _).onError.bind_ok
      fun _ _ => ⟨_, _, rfl⟩

end Host

namespace Keeper

variable {σ ρ α : Type} [Store σ]

/-- A buffered action that fails has changed nothing, or all that it did was done and the store
refused one of the held-back writes. -/
theorem eq_or_commit_of_run_buffered_eq_error
    {action : Action (Host (Overlay σ) ρ) HandlerError α} {host host' : Host σ ρ}
    {error : HandlerError}
    (h : ∀ store engine, action.PreservesOnError
      (Host.Holds (fun overlay => overlay.backend = store) (· = engine)))
    (hrun : (buffered action).run host = (.error error, host')) :
    host' = host ∨ ∃ value overlay refusal,
      action.run ⟨.ofStore host.store, host.engine⟩ = (.ok value, ⟨overlay, host'.engine⟩) ∧
      overlay.commit = (.error refusal, host'.store) ∧ error = .store refusal := by
  have hkept := h host.store host.engine ⟨.ofStore host.store, host.engine⟩
  rw [buffered, Action.run_ofStep] at hrun
  rcases haction : action.run ⟨.ofStore host.store, host.engine⟩ with ⟨result, overlay, engine⟩
  rw [haction] at hkept hrun
  cases result with
  | error first =>
    have hdropped : Host.mk overlay.backend engine = host := by
      obtain ⟨hstore, hengine⟩ := hkept first ⟨rfl, rfl⟩ rfl
      rw [Host.mk.injEq]
      exact ⟨hstore, hengine⟩
    exact .inl ((Prod.mk.inj hrun).2.symm.trans hdropped)
  | ok value =>
    right
    rcases hcommit : overlay.commit with ⟨committed, store⟩
    simp only [hcommit] at hrun
    cases committed with
    | error refusal =>
      cases hrun
      exact ⟨value, overlay, refusal, rfl, hcommit, rfl⟩
    | ok => cases hrun

/-- A buffered action changes nothing when it fails, if writes are all that it did before: the
held-back writes are dropped, and to make them cannot fail. -/
theorem failsClean_buffered [LawfulStore σ]
    {action : Action (Host (Overlay σ) ρ) HandlerError α}
    (h : ∀ store engine, action.PreservesOnError
      (Host.Holds (fun overlay => overlay.backend = store) (· = engine))) :
    (buffered action).FailsClean := by
  intro host error hrun
  rcases eq_or_commit_of_run_buffered_eq_error h (Prod.ext hrun rfl) with
    hhost | ⟨value, overlay, refusal, -, hcommit, -⟩
  · exact hhost
  · obtain ⟨store, hcommits, -⟩ := Overlay.exists_commit overlay
    rw [hcommits] at hcommit
    cases hcommit

/-- A command that fails has changed nothing, or it has its effect and the store refused one of the
held-back writes. -/
theorem eq_or_effect_of_run_execute_eq_error [RelationshipEngine ρ]
    (hclean : RelationshipEngine.FailsClean ρ) {keeper keeper' : Keeper σ ρ} {actor : Did}
    {policyId : String} {command : Command} {transaction : Transaction} {error : HandlerError}
    (hrun : (execute actor policyId command transaction).run keeper = (.error error, keeper')) :
    keeper' = keeper ∨ ∃ outcome overlay refusal,
      Host.Effect keeper.params actor policyId transaction
        ⟨Overlay.ofStore keeper.host.store, keeper.host.engine⟩ command outcome
        ⟨overlay, keeper'.host.engine⟩ ∧
      overlay.commit = (.error refusal, keeper'.host.store) ∧ error = .store refusal ∧
      keeper' = { keeper with host := keeper'.host } := by
  rw [execute, Action.run_bind, Action.run_read] at hrun
  simp only [onHost, Action.run_within, Prod.mk.injEq] at hrun
  obtain ⟨hresult, rfl⟩ := hrun
  rcases eq_or_commit_of_run_buffered_eq_error
      (fun store _ => Host.preservesOnError_dispatch (keeps_backend store) hclean _ _ _ _ _)
      (Prod.ext hresult rfl) with hhost | ⟨outcome, overlay, refusal, hdispatch, hcommit, rfl⟩
  · exact .inl (congrArg (fun host => { keeper with host }) hhost)
  · exact .inr ⟨outcome, overlay, refusal, Host.effect_of_run_dispatch hdispatch, hcommit, rfl,
      rfl⟩

variable [LawfulStore σ]

omit [Store σ] [LawfulStore σ] in
theorem failsClean_onHost {action : Action (Host σ ρ) HandlerError α} (h : action.FailsClean) :
    (onHost action).FailsClean :=
  h.within fun _ => rfl

/-- The operations of a keeper leave it exactly as it was when they fail. -/
structure FailsClean (σ ρ : Type) [Store σ] [RelationshipEngine ρ] : Prop where
  execute : ∀ actor policyId command transaction,
    (execute actor policyId command transaction : Action (Keeper σ ρ) _ _).FailsClean
  endBlock : ∀ now, (endBlock now : Action (Keeper σ ρ) _ _).FailsClean
  handle : ∀ [SignatureSuite] message transaction,
    (handle message transaction : Action (Keeper σ ρ) _ _).FailsClean
  handleBytes : ∀ [SignatureSuite] document transaction,
    (handleBytes document transaction : Action (Keeper σ ρ) _ _).FailsClean

variable [RelationshipEngine ρ]

theorem failsClean_execute (hclean : RelationshipEngine.FailsClean ρ) (actor : Did)
    (policyId : String) (command : Command) (transaction : Transaction) :
    (execute actor policyId command transaction : Action (Keeper σ ρ) _ _).FailsClean :=
  Action.FailsClean.read_bind fun _ => failsClean_onHost (failsClean_buffered fun store _ =>
    Host.preservesOnError_dispatch (keeps_backend store) hclean _ _ _ _ _)

omit [RelationshipEngine ρ] in
theorem failsClean_endBlock (now : Timestamp) :
    (endBlock now : Action (Keeper σ ρ) _ _).FailsClean :=
  failsClean_onHost (failsClean_buffered fun store _ =>
    ((Host.preserves_sweepExpired (keeps_backend store) now).mapError _).onError)

theorem failsClean_of_engine (hclean : RelationshipEngine.FailsClean ρ) : FailsClean σ ρ where
  execute := failsClean_execute hclean
  endBlock := failsClean_endBlock
  handle _ _ := Action.FailsClean.read_bind fun _ => failsClean_execute hclean _ _ _ _
  handleBytes _ _ := Action.FailsClean.read_bind fun _ =>
    Action.FailsClean.read_bind fun _ => failsClean_execute hclean _ _ _ _

/-- **Failed commands leave no trace**, whatever the store holds, if the engine fails cleanly, as
the engine in memory does. -/
theorem failsClean_memoryStore :
    RelationshipEngine.FailsClean MemoryEngine ∧
      ∀ (ρ : Type) [RelationshipEngine ρ],
        RelationshipEngine.FailsClean ρ → FailsClean MemoryStore ρ :=
  ⟨MemoryEngine.failsClean, fun _ _ hclean => failsClean_of_engine hclean⟩

end Keeper

namespace Keeper

open Ledger

/-- An engine that is made to fail refuses when a commitment is opened; an amendment has been
written to the overlay by then. At the end of the block, an index entry leads nowhere. -/
theorem failsClean_memoryStore_faulty :
    let store : MemoryStore :=
      ⟨SortedMap.empty.insert (Repository.expiredIndex false ++ Repository.idOctets 9) []⟩
    let engine : FaultyEngine MemoryEngine := ⟨(created store).host.engine, [.write]⟩
    let keeper := ((execute alice "policy" (commit alice) (transaction 1)).run
      ⟨⟨store, engine⟩, (created store).authenticator, .default⟩).2
    ∃ error error', (execute alice "policy" (reveal 1) (transaction 2)).run keeper =
        (.error error, keeper) ∧
      (endBlock (transaction 3).now).run keeper = (.error error', keeper) := by
  intro store engine keeper
  have hclean := failsClean_memoryStore.2 (FaultyEngine MemoryEngine)
    (FaultyEngine.failsClean MemoryEngine.failsClean)
  have hrevealed : ((execute alice "policy" (reveal 1) (transaction 2)).run keeper).1.isOk =
      false := by
    decide +kernel
  have hswept : ((endBlock (transaction 3).now).run keeper).1.isOk = false := by decide +kernel
  obtain ⟨error, herror⟩ := (hclean.execute _ _ _ _).exists_run_eq hrevealed
  obtain ⟨error', herror'⟩ := (hclean.endBlock _).exists_run_eq hswept
  exact ⟨error, error', herror, herror'⟩

end Keeper

end AccessControl
