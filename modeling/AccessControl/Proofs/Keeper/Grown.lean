import AccessControl.Proofs.Keeper.Calls
import AccessControl.Proofs.Policy.Operations

/-!
# Keepers over a store that was empty at first

`Keeper.Grown` are the keepers that come about when the library alone has written to the store, by
commands, messages, ends of blocks, changes of the parameters and whatever operations the host asks
of the engine, in any order and whether they succeed or fail, and when other keepers are created
over the same host. Of `Keeper.Reachable` they are those whose store was empty at first, and whose
engine was not exchanged.

Their store keeps a book, their engine is reachable, and both belong together: a policy to which
somebody committed exists (`Keeper.Grown.exists_inOrder`). That is so because a policy must exist
when somebody commits to it, and no operation of the engine deletes one.
-/

namespace AccessControl

namespace Repository.Book

variable {book : Book} {commitment : Commitment}

/-- A sweep changes nothing about a commitment but its mark. -/
theorem exists_of_mem_afterSweep {marked : List Commitment}
    (h : commitment ∈ (book.afterSweep marked).commitments) :
    ∃ earlier ∈ book.commitments, commitment.asExpired = earlier.asExpired := by
  rw [commitments_afterSweep] at h
  obtain ⟨earlier, hearlier, rfl⟩ := List.mem_map.mp h
  refine ⟨earlier, hearlier, ?_⟩
  split <;> rfl

end Repository.Book

/-- No operation of the host on the engine deletes a policy. -/
theorem MemoryEngine.isSome_get?_after {engine : MemoryEngine} {policyId : String}
    (h : (engine.policies.get? policyId).isSome) (operation : Operation) :
    ((engine.after operation).policies.get? policyId).isSome := by
  have hkeeps := keeps_policy policyId
  cases operation with
  | createPolicy other =>
    rw [after, createPolicy]
    split
    · exact h
    · exact isSome_get?_withPolicy h
  | setRelationship => exact hkeeps.setRelationship _ _ _ engine h
  | deleteRelationship => exact hkeeps.deleteRelationship _ _ _ engine h
  | register => exact hkeeps.register _ _ _ engine h
  | unregister => exact hkeeps.unregister _ _ _ engine h
  | archive => exact hkeeps.archive _ _ _ engine h
  | unarchive => exact hkeeps.unarchive _ _ _ engine h
  | amend => exact hkeeps.amend _ _ _ engine h

namespace Keeper

open Repository

variable {σ : Type} [Store σ] [LawfulStore σ]

/-- The keepers that come about over time from one whose store holds nothing. -/
inductive Grown : Keeper σ MemoryEngine → Prop where
  | created {store : σ} {engine : MemoryEngine} {authenticator : Authenticator} {params : Params}
      {keeper : Keeper σ MemoryEngine} : LawfulStore.contents store = .empty → engine.Reachable →
    create ⟨store, engine⟩ authenticator params = .ok keeper → Grown keeper
  /-- The host takes a keeper apart and creates another one. -/
  | recreated {keeper keeper' : Keeper σ MemoryEngine} {authenticator : Authenticator}
      {params : Params} : Grown keeper → create keeper.host authenticator params = .ok keeper' →
    Grown keeper'
  /-- The host manages policies. -/
  | managed {keeper : Keeper σ MemoryEngine} (operation : MemoryEngine.Operation) : Grown keeper →
    Grown { keeper with host := { keeper.host with engine := keeper.host.engine.after operation } }
  | configured {keeper : Keeper σ MemoryEngine} (params : Params) : Grown keeper →
    Grown ((setParams params).run keeper).2
  | executed {keeper : Keeper σ MemoryEngine} (actor : Did) (policyId : String)
      (command : Command) (transaction : Transaction) : Grown keeper →
    Grown ((execute actor policyId command transaction).run keeper).2
  | blockEnded {keeper : Keeper σ MemoryEngine} (now : Timestamp) : Grown keeper →
    Grown ((endBlock now).run keeper).2

variable {keeper : Keeper σ MemoryEngine} {book : Book}

/-- A message leads to such a keeper, since it is a command or has no effect. -/
theorem Grown.handled [SignatureSuite] (h : keeper.Grown) (message : CommandMessage)
    (transaction : Transaction) : ((handle message transaction).run keeper).2.Grown := by
  refine Action.Preserves.bind (Action.preserves_read _) (fun authenticated => ?_) keeper h
  exact fun _ h => h.executed _ _ _ _

/-- A keeper whose store keeps a book and whose engine has the policies of its commitments. -/
structure InOrder (book : Book) (keeper : Keeper σ MemoryEngine) : Prop where
  keepsBook : KeepsBook book keeper
  reachable : keeper.host.engine.Reachable
  isSome_policy : ∀ commitment ∈ book.commitments,
    (keeper.host.engine.policies.get? commitment.policyId).isSome

/-- The policies of the commitments after a call exist. -/
theorem InOrder.isSome_policy_action (h : InOrder book keeper) (call : Call)
    {commitment : Commitment}
    (hmem : commitment ∈ (book.afterResult (call.action.run keeper).1).commitments) :
    ((call.action.run keeper).2.host.engine.policies.get? commitment.policyId).isSome := by
  have hold : ∀ earlier ∈ book.commitments, earlier.policyId = commitment.policyId →
      ((call.action.run keeper).2.host.engine.policies.get? commitment.policyId).isSome := by
    intro earlier hearlier hpolicy
    have hexists := h.isSome_policy earlier hearlier
    rw [hpolicy] at hexists
    exact preserves_action (MemoryEngine.keeps_policy _) call keeper hexists
  cases call with
  | execute actor policyId command transaction =>
    rw [Call.run_action_execute] at hmem hold ⊢
    rcases hrun : (execute actor policyId command transaction).run keeper with ⟨result, keeper'⟩
    rw [hrun] at hmem hold
    cases result with
    | error error => exact hold commitment hmem rfl
    | ok outcome =>
      cases outcome with
      | commitRegistrations added =>
        rcases List.mem_append.mp hmem with hearlier | hnew
        · exact hold commitment hearlier rfl
        · -- The policy of a new commitment existed, and the engine is as it was.
          obtain rfl := List.mem_singleton.mp hnew
          obtain ⟨overlay, heffect, -, -⟩ := run_execute_eq_ok_iff.mp hrun
          obtain ⟨-, octets, root, rfl, -, hadded⟩ :=
            heffect.commitment_eq h.keepsBook.kept.ofStore h.keepsBook.isWhole
          rw [hadded]
          generalize hengine : keeper'.host.engine = engine at heffect ⊢
          cases heffect with
          | commitRegistrations hpolicy => exact Except.ok.inj hpolicy
      | _ => exact hold commitment hmem rfl
  | endBlock now =>
    rw [Call.run_action_endBlock] at hmem hold ⊢
    rcases hrun : (endBlock now).run keeper with ⟨result, keeper'⟩
    rw [hrun] at hmem hold
    cases result with
    | error error => exact hold commitment hmem rfl
    | ok marked =>
      obtain ⟨earlier, hearlier, hsame⟩ := Book.exists_of_mem_afterSweep hmem
      have hpolicy : earlier.asExpired.policyId = commitment.asExpired.policyId := by rw [hsame]
      exact hold earlier hearlier hpolicy

theorem InOrder.action (h : InOrder book keeper) (call : Call) :
    InOrder (book.afterResult (call.action.run keeper).1) (call.action.run keeper).2 where
  keepsBook := h.keepsBook.action call
  reachable := preserves_action MemoryEngine.keeps_reachable call keeper h.reachable
  isSome_policy _ := h.isSome_policy_action call

/-- Valid parameters take the place of valid ones. -/
theorem preserves_setParams_inOrder (params : Params) :
    (setParams params).Preserves fun keeper : Keeper σ MemoryEngine => InOrder book keeper := by
  refine Action.preserves_attempt fun keeper _ final h hrun => ?_
  simp only [bind_eq_ok_iff, mapError_eq_ok_iff] at hrun
  obtain ⟨⟨⟩, hvalidate, hfinal⟩ := hrun
  cases hfinal
  exact ⟨⟨h.keepsBook.kept, Params.isWhole_of_validate hvalidate⟩, h.reachable, h.isSome_policy⟩

/-- **A keeper that has grown from an empty store is in order.** -/
theorem Grown.exists_inOrder (h : keeper.Grown) : ∃ book, InOrder book keeper := by
  induction h with
  | created hempty hengine hcreate =>
    have hkeeps := KeepsBook.of_create hempty hcreate
    obtain ⟨-, rfl⟩ := create_eq_ok_iff.mp hcreate
    refine ⟨.empty, hkeeps, hengine, fun commitment hmem => ?_⟩
    cases hmem
  | recreated _ hcreate ih =>
    obtain ⟨book, hbook⟩ := ih
    obtain ⟨hvalidate, rfl⟩ := create_eq_ok_iff.mp hcreate
    exact ⟨book, ⟨hbook.keepsBook.kept, Params.isWhole_of_validate hvalidate⟩, hbook.reachable,
      hbook.isSome_policy⟩
  | managed operation _ ih =>
    obtain ⟨book, hbook⟩ := ih
    exact ⟨book, ⟨hbook.keepsBook.kept, hbook.keepsBook.isWhole⟩, hbook.reachable.after operation,
      fun commitment hmem =>
        MemoryEngine.isSome_get?_after (hbook.isSome_policy commitment hmem) operation⟩
  | @configured keeper params _ ih =>
    obtain ⟨book, hbook⟩ := ih
    exact ⟨book, preserves_setParams_inOrder params keeper hbook⟩
  | @executed keeper actor policyId command transaction _ ih =>
    obtain ⟨book, hbook⟩ := ih
    have hcall := hbook.action (.execute actor policyId command transaction)
    rw [Call.run_action_execute] at hcall
    exact ⟨_, hcall⟩
  | @blockEnded keeper now _ ih =>
    obtain ⟨book, hbook⟩ := ih
    have hcall := hbook.action (.endBlock now)
    rw [Call.run_action_endBlock] at hcall
    exact ⟨_, hcall⟩

end Keeper

theorem Ledger.grown_created : (created MemoryStore.empty).Grown :=
  .created rfl (.createPolicy "policy" .empty) (create_eq_created _)

end AccessControl
