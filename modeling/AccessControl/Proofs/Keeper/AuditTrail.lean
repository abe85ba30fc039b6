import AccessControl.Proofs.Keeper.History

/-!
# The audit trail

A run leaves a trail of commitments and amendments. They are numbered in the order in which they
were made, and calls that fail use up no number. What a call entered says who asked for it and what
it found (`Keeper.Entered`). Nothing that was entered is lost or changed later on, other than by a
mark that is made for a reason (`Keeper.AuditTrail`).

`Keeper.auditTrail_perform` shows this of every run that starts with an empty store.
-/

namespace AccessControl.Keeper

open Repository

section

variable {σ ρ : Type} [Store σ] [RelationshipEngine ρ]

/-- What a call to a keeper entered, and what it returned and left. -/
structure Entered (call : Call) (keeper : Keeper σ ρ) (run : CallResult × Keeper σ ρ) : Prop where
  /-- A commitment is made by a command that asks for it and succeeds, and by no other call. -/
  isSome_commitment? : run.1.commitment?.isSome = (call.isCommit && run.1.isOk)
  /-- An amendment is made by a command that opens a commitment and succeeds, and by no other
  call. -/
  isSome_amendment? : run.1.amendment?.isSome = (call.isReveal && run.1.isOk)
  /-- The commitment is as it was asked for, and stored with the time that a clock shows. -/
  commitment_eq : ∀ actor policyId octets transaction commitment,
    call = .execute actor policyId (.commitRegistrations octets) transaction →
    run.1.commitment? = some commitment →
    (∃ root, Opening.rootOfOctets octets = .ok root ∧ commitment = ⟨commitment.id, policyId, root,
      false, keeper.params.commitmentValidity, transaction.provenance actor⟩) ∧
    commitment? commitment.id run.2.host.store = .ok (some commitment.civil)
  /-- The amendment names the actor, what was opened and who owned the object just before, and is
  stored with the time that a clock shows. -/
  amendment_eq : ∀ actor policyId commitmentId proof transaction amendment,
    call = .execute actor policyId (.revealRegistration commitmentId proof) transaction →
    run.1.amendment? = some amendment →
    (∃ found, keeper.registration? policyId proof.object = .ok found ∧
      amendment = ⟨amendment.id, policyId, proof.object, actor, found.map RelationshipRecord.owner,
        commitmentId, false, transaction.provenance actor⟩) ∧
    amendment? amendment.id run.2.host.store = .ok (some amendment.civil)

/-- What calls to a keeper, one after the other, leave behind. -/
structure AuditTrail (start : Keeper σ ρ) (calls : List Call) : Prop where
  /-- The commitments are numbered in the order in which they were made. -/
  commitments_numbered :
    Numbered Commitment.id ((perform calls start).1.filterMap CallResult.commitment?)
  /-- The amendments are numbered in the order in which they were made. -/
  amendments_numbered :
    Numbered Amendment.id ((perform calls start).1.filterMap CallResult.amendment?)
  entered : ∀ before call after, calls = before ++ call :: after →
    Entered call (perform before start).2 (call.action.run (perform before start).2)
  /-- Commitments stay, and are only marked, after they have expired. -/
  commitment_survives : ∀ before after id commitment, calls = before ++ after →
    commitment? id (perform before start).2.host.store = .ok (some commitment) →
    ∃ later, commitment? id (perform calls start).2.host.store = .ok (some later) ∧
      Commitment.expiry.Survives after commitment later
  /-- Amendments stay, and are only disputed, by whom they took the object from. -/
  amendment_survives : ∀ before after id amendment, calls = before ++ after →
    amendment? id (perform before start).2.host.store = .ok (some amendment) →
    ∃ later, amendment? id (perform calls start).2.host.store = .ok (some later) ∧
      Amendment.dispute.Survives after amendment later

end

variable {σ ρ : Type} [Store σ] [LawfulStore σ] [RelationshipEngine ρ] {keeper : Keeper σ ρ}
  {book : Book}

/-- Numbers in the same order are the same numbers. -/
theorem numbered_of_map_eq {α : Type} {id : α → UInt64} {records records' : List α}
    (h : Numbered id records) (heq : records.map id = records'.map id) : Numbered id records' := by
  have hlength : records.length = records'.length := by
    simpa using congrArg List.length heq
  have hnumbers := congrArg (List.map UInt64.toNat) heq
  rw [List.map_map, List.map_map] at hnumbers
  unfold Numbered at *
  rw [← hlength, ← h]
  exact hnumbers.symm

/-- Only commands that commit an actor to registrations make commitments, and only commands that
open commitments make amendments. -/
theorem isSome_of_effect {τ : Type} [Store τ] {params : Params} {actor : Did} {policyId : String}
    {command : Command} {transaction : Transaction} {outcome : CommandOutcome}
    {host host' : Host τ ρ}
    (h : Host.Effect params actor policyId transaction host command outcome host') :
    (CallResult.commitment? (.ok (.executed outcome))).isSome =
        (Call.execute actor policyId command transaction).isCommit ∧
      (CallResult.amendment? (.ok (.executed outcome))).isSome =
        (Call.execute actor policyId command transaction).isReveal := by
  cases h <;> exact ⟨rfl, rfl⟩

/-- What a call entered is what the book has more then. -/
theorem entered_action (hkeeps : KeepsBook book keeper) (call : Call) :
    Entered call keeper (call.action.run keeper) := by
  have hafter := (hkeeps.action call).kept
  cases call with
  | execute actor policyId command transaction =>
    rw [Call.run_action_execute] at hafter ⊢
    rcases hrun : (execute actor policyId command transaction).run keeper with ⟨result, keeper'⟩
    rw [hrun] at hafter
    cases result with
    | error error =>
      exact {
        isSome_commitment? := (Bool.and_false _).symm
        isSome_amendment? := (Bool.and_false _).symm
        commitment_eq := by
          intro _ _ _ _ _ _ hmade
          cases hmade
        amendment_eq := by
          intro _ _ _ _ _ _ _ hmade
          cases hmade }
    | ok outcome =>
      obtain ⟨overlay, heffect, -, -⟩ := run_execute_eq_ok_iff.mp hrun
      obtain ⟨hcommit, hreveal⟩ := isSome_of_effect heffect
      refine ⟨?_, ?_, ?_, ?_⟩
      · exact hcommit.trans (Bool.and_true _).symm
      · exact hreveal.trans (Bool.and_true _).symm
      · intro actor' policyId' octets transaction' commitment hcall hmade
        cases hcall
        cases CallResult.commitment?_eq_some_iff.mp hmade
        obtain ⟨hnext, _, root, ⟨⟩, hroot, hcommitment⟩ :=
          heffect.commitment_eq hkeeps.kept.ofStore hkeeps.isWhole
        refine ⟨⟨root, hroot, hcommitment⟩, ?_⟩
        rw [hafter.commitment?_eq]
        exact congrArg Except.ok ((Book.commitment?_addCommitment hkeeps.kept.sound hnext).trans
          (if_pos rfl))
      · intro actor' policyId' commitmentId proof transaction' amendment hcall hmade
        cases hcall
        obtain ⟨record, hok⟩ := CallResult.amendment?_eq_some_iff.mp hmade
        cases hok
        obtain ⟨hnext, _, _, found, ⟨⟩, hfound, hamendment⟩ :=
          heffect.amendment_eq hkeeps.kept.ofStore
        refine ⟨⟨found, mapError_eq_ok_iff.mpr hfound, hamendment⟩, ?_⟩
        rw [hafter.amendment?_eq]
        exact congrArg Except.ok ((Book.amendment?_addAmendment hkeeps.kept.sound hnext).trans
          (if_pos rfl))
  | endBlock now =>
    rw [Call.run_action_endBlock]
    rcases (endBlock now).run keeper with ⟨result, keeper'⟩
    refine ⟨?_, ?_, ?_, ?_⟩
    · cases result <;> rfl
    · cases result <;> rfl
    · intro _ _ _ _ _ hcall
      cases hcall
    · intro _ _ _ _ _ _ hcall
      cases hcall

/-- **Every run leaves an audit trail** that starts from a new keeper with an empty store. -/
theorem auditTrail_perform {engine : ρ} (authenticator : Authenticator) (params : Params)
    {start : Keeper MemoryStore ρ}
    (hcreate : create ⟨.empty, engine⟩ authenticator params = .ok start) (calls : List Call) :
    AuditTrail start calls := by
  have hstart := KeepsBook.of_create rfl hcreate
  have hsound := (hstart.perform calls).kept.sound
  refine ⟨?_, ?_, ?_, ?_, ?_⟩
  · exact numbered_of_map_eq hsound.commitments_numbered (Book.map_id_commitments_afterResults ..)
  · exact numbered_of_map_eq hsound.amendments_numbered (Book.map_id_amendments_afterResults ..)
  · intro before call after hcalls
    exact entered_action (hstart.perform before) call
  · rintro before after id commitment rfl hstored
    have hkeeps := hstart.perform before
    rw [hkeeps.kept.commitment?_eq, Except.ok.injEq] at hstored
    obtain ⟨later, hlater, hsurvives⟩ := commitment?_perform hkeeps hstored after
    refine ⟨later, ?_, hsurvives⟩
    rw [perform_append, (hkeeps.perform after).kept.commitment?_eq, hlater]
  · rintro before after id amendment rfl hstored
    have hkeeps := hstart.perform before
    rw [hkeeps.kept.amendment?_eq, Except.ok.injEq] at hstored
    obtain ⟨later, hlater, hsurvives⟩ := amendment?_perform hkeeps hstored after
    refine ⟨later, ?_, hsurvives⟩
    rw [perform_append, (hkeeps.perform after).kept.amendment?_eq, hlater]

open Ledger

/-- Alice commits herself to the report, and cannot do so in a policy that does not exist. Bob
registers the report, loses it when the commitment is opened, and disputes that. In the end the
commitment has expired. -/
theorem auditTrail_perform_dispute :
    let start := created MemoryStore.empty
    let calls : List Call :=
      [.execute alice "policy" (commit alice) (transaction 1),
        .execute alice "missing" (commit alice) (transaction 1),
        .execute bob "policy" (.registerObject report) (transaction 2),
        .execute alice "policy" (reveal 1) (transaction 3),
        .execute bob "policy" (.flagHijackAttempt 1) (transaction 4),
        .endBlock ⟨⟨100000, 0, by decide, by decide, by decide⟩, 5⟩]
    AuditTrail start calls ∧
      (perform calls start).1.map Except.isOk = [true, false, true, true, true, true] := by
  intro start calls
  have hresults : (perform calls start).1.map Except.isOk =
      [true, false, true, true, true, true] := by
    decide +kernel
  exact ⟨auditTrail_perform start.authenticator .default (create_eq_created _) calls, hresults⟩

end AccessControl.Keeper
