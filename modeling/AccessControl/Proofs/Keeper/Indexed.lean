import AccessControl.Proofs.Keeper.History
import AccessControl.Proofs.Registration.Indexed

/-!
# The indexes stay consistent

Whatever is called, and whether it succeeds or fails, the store of the keeper has commitments and
amendments with consecutive numbers, and indexes that agree with them
(`Keeper.exists_indexed_perform`). The only condition is that the names of the policies have less
than 2³² octets: an entry under a policy begins with the length of its name in four octets.
-/

namespace AccessControl.Keeper

open Repository

/-- **The indexes agree with the records after every run** of calls from a new keeper with an empty
store. -/
theorem exists_indexed_perform {ρ : Type} [RelationshipEngine ρ] {engine : ρ}
    (authenticator : Authenticator) (params : Params) {start : Keeper MemoryStore ρ}
    (hcreate : create ⟨.empty, engine⟩ authenticator params = .ok start) (calls : List Call)
    (hshort : ∀ call ∈ calls, ∀ policyId ∈ call.policyId?, policyId.utf8ByteSize < 2 ^ 32) :
    ∃ commitments amendments,
      Indexed (perform calls start).2.host.store commitments amendments := by
  have hstart := KeepsBook.of_create rfl hcreate
  refine ⟨_, _, (hstart.perform calls).kept.indexed fun amendment hamendment => ?_⟩
  rcases policyId_of_mem_amendments_perform hstart hamendment with
    ⟨call, hcall, hpolicy⟩ | ⟨earlier, hearlier, -⟩
  · exact hshort call hcall _ hpolicy
  · cases hearlier

open Ledger

/-- Alice commits herself to the report in block 1, bob registers it in block 2 and loses it in block
3, when the commitment is opened, and disputes that in block 4. Then there are one commitment and
one amendment, and a disputed one in the policy. -/
theorem exists_indexed_perform_dispute :
    let calls : List Call :=
      [.execute alice "policy" (commit alice) (transaction 1),
        .execute bob "policy" (.registerObject report) (transaction 2),
        .execute alice "policy" (reveal 1) (transaction 3),
        .execute bob "policy" (.flagHijackAttempt 1) (transaction 4)]
    let store := (perform calls (created MemoryStore.empty)).2.host.store
    ∃ commitments amendments, Indexed store commitments amendments ∧
      commitments.length = 1 ∧ amendments.length = 1 ∧
      (amendments.filter fun amendment =>
        amendment.disputed && amendment.policyId = "policy").length = 1 := by
  intro calls store
  have hshort : ∀ call ∈ calls, ∀ policyId ∈ call.policyId?, policyId.utf8ByteSize < 2 ^ 32 := by
    decide +kernel
  obtain ⟨commitments, amendments, h⟩ := exists_indexed_perform
    (created MemoryStore.empty).authenticator .default (create_eq_created _) calls hshort
  have hcommitments : (commitmentSequence.current store).map UInt64.toNat = .ok 1 := by
    decide +kernel
  have hamendments : (amendmentSequence.current store).map UInt64.toNat = .ok 1 := by
    decide +kernel
  have hdisputed : (Store.scan store (disputeIndex "policy")).map List.length = .ok 1 := by
    decide +kernel
  rw [h.commitmentCount_eq] at hcommitments
  rw [h.amendmentCount_eq] at hamendments
  rw [h.scan_dispute] at hdisputed
  refine ⟨commitments, amendments, h, Except.ok.inj hcommitments, Except.ok.inj hamendments, ?_⟩
  rw [← Except.ok.inj hdisputed, List.length_map]

end AccessControl.Keeper
