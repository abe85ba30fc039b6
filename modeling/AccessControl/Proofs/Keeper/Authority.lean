import AccessControl.Proofs.Keeper.Run

/-!
# Who can change what

A command touches one policy and in it one object at most, the one that it names. If somebody else
owns that object, the command does not touch it either, unless it opens an older commitment of the
actor: then the object changes hands, and nothing else about it changes.

`Keeper.Isolated` says this of a command, with `MemoryEngine.TakenOver` for what it is to change
hands, and `Keeper.execute_isolated` that it holds of every command. The proof goes by the cases of
`Host.Effect.engine_cases`.
-/

namespace AccessControl

namespace Host

variable {σ : Type} [Store σ] {params : Params} {actor : Did} {policyId : String}
  {transaction : Transaction} {host host' : Host σ MemoryEngine} {command : Command}
  {outcome : CommandOutcome}

/-- What a command does to the engine: nothing if it names no object; an operation of the actor on
the object; or an amendment of the object, for which an older commitment of the actor was opened. -/
theorem Effect.engine_cases
    (h : Effect params actor policyId transaction host command outcome host') :
    command.object? = none ∧ host'.engine = host.engine ∨
    (∃ object, command.object? = some object ∧
      MemoryEngine.Edit policyId actor object host.engine host'.engine) ∨
    ∃ commitmentId proof commitment registration record,
      command = .revealRegistration commitmentId proof ∧
      host.openedCommitment policyId actor commitmentId proof transaction.now = .ok commitment ∧
      RelationshipEngine.registration? host.engine policyId proof.object = .ok (some registration) ∧
      commitment.owner = actor ∧
      commitment.createdAt.height < registration.provenance.createdAt.height ∧
      (MemoryEngine.amend policyId proof.object
        { transaction.provenance actor with createdAt := commitment.createdAt }).run host.engine =
          (.ok record, host'.engine) := by
  cases h with
  | setRelationship h =>
    exact .inr (.inl ⟨_, rfl, MemoryEngine.edit_of_setRelationship h⟩)
  | deleteRelationship h =>
    exact .inr (.inl ⟨_, rfl, MemoryEngine.edit_of_deleteRelationship h⟩)
  | registerObject h =>
    exact .inr (.inl ⟨_, rfl, MemoryEngine.edit_of_register h⟩)
  | unregisterObject h =>
    exact .inr (.inl ⟨_, rfl, MemoryEngine.edit_of_unregister h⟩)
  | archiveObject h =>
    exact .inr (.inl ⟨_, rfl, MemoryEngine.edit_of_archive h⟩)
  | unarchiveObject h =>
    exact .inr (.inl ⟨_, rfl, MemoryEngine.edit_of_unarchive h⟩)
  | registered _ _ _ h =>
    exact .inr (.inl ⟨_, rfl, MemoryEngine.edit_of_register h⟩)
  | takenOver hopened hregistration howner hheight _ h =>
    exact .inr (.inr ⟨_, _, _, _, _, rfl, hopened, hregistration, howner, hheight, h⟩)
  | commitRegistrations | disputed | disputedBefore => exact .inl ⟨rfl, rfl⟩

end Host

namespace Keeper

variable {σ : Type} [Store σ]

/-- A command of an actor in a policy, which led from one keeper to another, touched nothing but
what it may. -/
structure Isolated (actor : Did) (policyId : String) (command : Command)
    (transaction : Transaction) (keeper keeper' : Keeper σ MemoryEngine) : Prop where
  /-- Other policies are as before. -/
  policies_eq : ∀ other, other ≠ policyId →
    keeper'.host.engine.policies.get? other = keeper.host.engine.policies.get? other
  /-- All that is recorded of an object that the command does not name is as before. -/
  record?_eq : ∀ relationship : Relationship, command.object? ≠ some relationship.object →
    keeper'.host.engine.record? policyId relationship =
      keeper.host.engine.record? policyId relationship
  /-- If somebody else owns the object that the command names, everything is as before, unless the
  command opens a commitment that is the actor's and older than the registration. -/
  eq_or_takenOver : ∀ object registration, command.object? = some object →
    keeper.registration? policyId object = .ok (some registration) → registration.owner ≠ actor →
    keeper'.host.engine = keeper.host.engine ∨
    ∃ commitmentId proof commitment, command = .revealRegistration commitmentId proof ∧
      Repository.commitment? commitmentId keeper.host.store = .ok (some commitment) ∧
      commitment.policyId = policyId ∧ commitment.owner = actor ∧
      commitment.createdAt.height < registration.provenance.createdAt.height ∧
      MemoryEngine.TakenOver policyId object registration
        { transaction.provenance actor with createdAt := commitment.createdAt }
        keeper.host.engine keeper'.host.engine

/-- **Nobody touches what is not named, and nobody touches what is not their own.** The commands
that a reachable keeper carries out are isolated. -/
theorem execute_isolated {keeper keeper' : Keeper σ MemoryEngine} (hreachable : keeper.Reachable)
    (actor : Did) (policyId : String) (command : Command) (transaction : Transaction)
    (outcome : CommandOutcome)
    (hrun : (execute actor policyId command transaction).run keeper = (.ok outcome, keeper')) :
    Isolated actor policyId command transaction keeper keeper' := by
  obtain ⟨overlay, heffect, -, -⟩ := run_execute_eq_ok_iff.mp hrun
  rcases heffect.engine_cases with ⟨hnone, hengine⟩ | ⟨object, hobject, hedit⟩ |
    ⟨commitmentId, proof, commitment, registration, record, rfl, hopened, hregistration, howner,
      hheight, hamend⟩
  · simp only at hengine
    refine ⟨fun _ _ => by rw [hengine], fun _ _ => by rw [hengine], ?_⟩
    intro object registration hobject
    rw [hnone] at hobject
    cases hobject
  · refine ⟨fun _ => hedit.get?_of_ne, fun relationship hne => hedit.record?_of_ne ?_, ?_⟩
    · rintro rfl
      exact hne hobject
    · intro object' registration hobject' hregistration hne
      rw [hobject] at hobject'
      cases hobject'
      exact .inl (hedit.eq_of_owner_ne (mapError_eq_ok_iff.mp hregistration) hne)
  · refine ⟨fun _ hne => MemoryEngine.get?_of_amend hne hamend,
      fun relationship hne => MemoryEngine.record?_of_amend ?_ hamend, ?_⟩
    · intro heq
      exact hne (congrArg some heq.symm)
    · intro object registration' hobject hregistration' _
      cases hobject
      rw [registration?, mapError_eq_ok_iff, hregistration] at hregistration'
      cases hregistration'
      obtain ⟨hfound, -, -, -, hpolicy⟩ := Host.openedCommitment_eq_ok_iff.mp hopened
      exact .inr ⟨commitmentId, proof, commitment, rfl, hfound, hpolicy, howner, hheight,
        MemoryEngine.takenOver_of_amend hreachable.engine.coherent hregistration hamend⟩

end Keeper

namespace Keeper

open Ledger

/-- Alice commits herself to the report in block 1, bob registers it in block 2, and in block 3 the
commitment is opened. -/
theorem execute_isolated_takeover :
    let committed := ((execute alice "policy" (commit alice) (transaction 1)).run
      (created MemoryStore.empty)).2
    let keeper :=
      ((execute bob "policy" (.registerObject report) (transaction 2)).run committed).2
    ∃ outcome keeper', keeper.Reachable ∧
      (execute alice "policy" (reveal 1) (transaction 3)).run keeper = (.ok outcome, keeper') ∧
      Isolated alice "policy" (reveal 1) (transaction 3) keeper keeper' := by
  intro committed keeper
  have hreachable : keeper.Reachable := ((reachable_created _).executed _ _ _ _).executed _ _ _ _
  have hok : ((execute alice "policy" (reveal 1) (transaction 3)).run keeper).1.isOk = true := by
    decide +kernel
  obtain ⟨outcome, houtcome⟩ := Action.exists_run_eq_ok hok
  exact ⟨outcome, _, hreachable, houtcome, execute_isolated hreachable _ _ _ _ _ houtcome⟩

end Keeper

end AccessControl
