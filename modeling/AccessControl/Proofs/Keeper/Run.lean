import AccessControl.Keeper
import AccessControl.Proofs.Command.Dispatch
import AccessControl.Proofs.Policy.CleanFailure
import AccessControl.Proofs.Policy.Params
import AccessControl.Proofs.Store.Lawful

/-!
# Runs of the keeper

A command that the keeper carries out successfully has its `Host.Effect` on an overlay, and the
overlay is committed. `Keeper.Reachable` are the keepers that come about from a new one by commands,
messages, ends of blocks, changes of the parameters and what the host does to the policies, in any
order and whether they succeed or fail. Their engines are reachable.
-/

namespace AccessControl

namespace Keeper

variable {σ ρ α : Type} [Store σ]

/-! ### Held-back writes -/

/-- A buffered action that succeeded was run on an overlay, which was committed. -/
theorem run_buffered_eq_ok_iff {action : Action (Host (Overlay σ) ρ) HandlerError α} {value : α}
    {host host' : Host σ ρ} :
    (buffered action).run host = (.ok value, host') ↔
      ∃ overlay, action.run ⟨.ofStore host.store, host.engine⟩ =
        (.ok value, ⟨overlay, host'.engine⟩) ∧ overlay.commit = (.ok (), host'.store) := by
  obtain ⟨store', engine'⟩ := host'
  rw [buffered, Action.run_ofStep]
  rcases action.run ⟨.ofStore host.store, host.engine⟩ with ⟨result, overlay, engine⟩
  cases result with
  | error error =>
    constructor
    · intro h
      cases h
    · rintro ⟨_, h, -⟩
      cases h
  | ok found =>
    simp only
    rcases hcommit : overlay.commit with ⟨committed, store⟩
    constructor
    · intro h
      cases committed with
      | error error => cases h
      | ok =>
        cases h
        exact ⟨overlay, rfl, hcommit⟩
    · rintro ⟨_, ⟨⟩, h⟩
      rw [hcommit] at h
      cases h
      rfl

/-- Writes to an overlay do not reach the store below. -/
theorem keeps_backend (store : σ) :
    Host.StoreKeeps fun overlay : Overlay σ => overlay.backend = store where
  write _ _ := Action.preserves_attempt fun _ _ _ hstate h => by cases h; exact hstate
  remove _ := Action.preserves_attempt fun _ _ _ hstate h => by cases h; exact hstate

/-- Holding writes back does not matter to the engine. -/
theorem preserves_buffered {kept : Overlay σ → Prop} {holds : ρ → Prop}
    {action : Action (Host (Overlay σ) ρ) HandlerError α}
    (hkept : ∀ store, kept (.ofStore store)) (h : action.Preserves (Host.Holds kept holds)) :
    (buffered action).Preserves fun host : Host σ ρ => holds host.engine := by
  intro host hhost
  have hfinal := (h ⟨.ofStore host.store, host.engine⟩ ⟨hkept _, hhost⟩).2
  rw [buffered, Action.run_ofStep]
  revert hfinal
  rcases action.run ⟨.ofStore host.store, host.engine⟩ with ⟨result, final⟩
  cases result <;> exact id

/-- A buffered action that fails leaves the store as it was, if committing cannot fail. -/
theorem store_eq_of_run_buffered_eq_error [LawfulStore σ]
    {action : Action (Host (Overlay σ) ρ) HandlerError α} {host host' : Host σ ρ}
    {error : HandlerError}
    (h : action.Preserves (Host.Holds (fun overlay => overlay.backend = host.store) fun _ => True))
    (hrun : (buffered action).run host = (.error error, host')) : host'.store = host.store := by
  have hfinal := (h ⟨.ofStore host.store, host.engine⟩ ⟨rfl, trivial⟩).1
  rw [buffered, Action.run_ofStep] at hrun
  rcases haction : action.run ⟨.ofStore host.store, host.engine⟩ with ⟨result, final⟩
  rw [haction] at hfinal hrun
  cases result with
  | error error =>
    cases hrun
    exact hfinal
  | ok value =>
    obtain ⟨store, hcommit, -⟩ := Overlay.exists_commit final.store
    simp only [hcommit] at hrun
    cases hrun

/-! ### Commands and ends of blocks -/

variable [RelationshipEngine ρ] {keeper keeper' : Keeper σ ρ} {actor : Did} {policyId : String}
  {command : Command} {transaction : Transaction} {outcome : CommandOutcome}

/-- **The keeper carries out a command if it has an effect on held-back writes that can be made**,
and nothing else happens. -/
theorem run_execute_eq_ok_iff :
    (execute actor policyId command transaction).run keeper = (.ok outcome, keeper') ↔
      ∃ overlay, Host.Effect keeper.params actor policyId transaction
          ⟨Overlay.ofStore keeper.host.store, keeper.host.engine⟩ command outcome
          ⟨overlay, keeper'.host.engine⟩ ∧
        overlay.commit = (.ok (), keeper'.host.store) ∧
        keeper' = { keeper with host := keeper'.host } := by
  simp only [execute, Action.run_bind_eq_ok_iff, Action.run_read_eq_ok_iff, onHost,
    Action.run_within_eq_ok_iff, run_buffered_eq_ok_iff]
  constructor
  · rintro ⟨_, _, ⟨⟨⟩, rfl⟩, host, ⟨overlay, hrun, hcommit⟩, rfl⟩
    exact ⟨overlay, Host.effect_of_run_dispatch hrun, hcommit, rfl⟩
  · rintro ⟨overlay, heffect, hcommit, hkeeper⟩
    exact ⟨_, _, ⟨rfl, rfl⟩, keeper'.host, ⟨overlay, heffect.run_dispatch, hcommit⟩, hkeeper.symm⟩

/-- **A command that fails leaves the store as it was**, if committing cannot fail. -/
theorem store_eq_of_run_execute_eq_error [LawfulStore σ] {error : HandlerError}
    (h : (execute actor policyId command transaction).run keeper = (.error error, keeper')) :
    keeper'.host.store = keeper.host.store := by
  have hrun : (execute actor policyId command transaction).run keeper =
      (onHost (buffered (Host.dispatch keeper.params actor policyId transaction command))).run
        keeper := by
    rw [execute, Action.run_bind]
    rfl
  rw [hrun, onHost, Action.run_within, Prod.mk.injEq] at h
  obtain ⟨hresult, rfl⟩ := h
  exact store_eq_of_run_buffered_eq_error
    (Host.preserves_dispatch (keeps_backend _) .always _ _ _ _ _) (Prod.ext hresult rfl)

omit [RelationshipEngine ρ] in
/-- The end of a block marks commitments on held-back writes, which can be made. -/
theorem run_endBlock_eq_ok_iff {now : Timestamp} {marked : List Commitment} :
    (endBlock now).run keeper = (.ok marked, keeper') ↔
      ∃ overlay, (Host.sweepExpired now).run
          ⟨Overlay.ofStore keeper.host.store, keeper.host.engine⟩ =
          (.ok marked, ⟨overlay, keeper'.host.engine⟩) ∧
        overlay.commit = (.ok (), keeper'.host.store) ∧
        keeper' = { keeper with host := keeper'.host } := by
  simp only [endBlock, onHost, Action.run_within_eq_ok_iff, run_buffered_eq_ok_iff,
    Host.run_onCommitments_eq_ok_iff]
  constructor
  · rintro ⟨host, ⟨overlay, hrun, hcommit⟩, rfl⟩
    exact ⟨overlay, hrun, hcommit, rfl⟩
  · rintro ⟨overlay, hrun, hcommit, hkeeper⟩
    exact ⟨keeper'.host, ⟨overlay, hrun, hcommit⟩, hkeeper.symm⟩

omit [RelationshipEngine ρ] in
/-- A sweep that fails leaves the store as it was. -/
theorem store_eq_of_run_endBlock_eq_error [LawfulStore σ] {now : Timestamp} {error : HandlerError}
    (h : (endBlock now).run keeper = (.error error, keeper')) :
    keeper'.host.store = keeper.host.store := by
  rw [endBlock, onHost, Action.run_within, Prod.mk.injEq] at h
  obtain ⟨hresult, rfl⟩ := h
  exact store_eq_of_run_buffered_eq_error
    ((Host.preserves_sweepExpired (keeps_backend _) _).mapError _) (Prod.ext hresult rfl)

/-- Carrying out a command keeps of the engine what its operations keep. -/
theorem preserves_execute {holds : ρ → Prop} (h : Host.EngineKeeps holds) (actor : Did)
    (policyId : String) (command : Command) (transaction : Transaction) :
    (execute actor policyId command transaction).Preserves
      fun keeper : Keeper σ ρ => holds keeper.host.engine :=
  (Action.preserves_read _).bind fun _ =>
    (preserves_buffered (fun _ => trivial)
      (Host.preserves_dispatch .always h _ _ _ _ _)).within (fun _ => id) fun _ _ _ => id

omit [RelationshipEngine ρ] in
/-- The end of a block does not touch the engine. -/
theorem preserves_endBlock {holds : ρ → Prop} (now : Timestamp) :
    (endBlock now).Preserves fun keeper : Keeper σ ρ => holds keeper.host.engine :=
  (preserves_buffered (fun _ => trivial)
    ((Host.preserves_sweepExpired .always now).mapError _)).within (fun _ => id) fun _ _ _ => id

omit [RelationshipEngine ρ] [Store σ] in
/-- Neither do the parameters. -/
theorem preserves_setParams {holds : ρ → Prop} (params : Params) :
    (setParams params).Preserves fun keeper : Keeper σ ρ => holds keeper.host.engine := by
  refine Action.preserves_attempt fun keeper _ final hkeeper h => ?_
  simp only [bind_eq_ok_iff] at h
  obtain ⟨_, _, hfinal⟩ := h
  cases hfinal
  exact hkeeper

omit [RelationshipEngine ρ] [Store σ] in
/-- A new keeper has the parameters, which are valid, and what the host keeps. -/
theorem create_eq_ok_iff {host : Host σ ρ} {authenticator : Authenticator} {params : Params} :
    create host authenticator params = .ok keeper ↔
      params.validate = .ok () ∧ keeper = ⟨host, authenticator, params⟩ := by
  simp only [create, bind_eq_ok_iff, mapError_eq_ok_iff]
  constructor
  · rintro ⟨⟨⟩, hvalidate, h⟩
    exact ⟨hvalidate, (Except.ok.inj h).symm⟩
  · rintro ⟨hvalidate, rfl⟩
    exact ⟨(), hvalidate, rfl⟩

end Keeper

/-! ### Reachable keepers -/

/-- The operations of the engine in memory lead from reachable engines to reachable ones. -/
theorem MemoryEngine.keeps_reachable : Host.EngineKeeps MemoryEngine.Reachable where
  setRelationship _ _ _ := (failsClean.setRelationship _ _ _).preserves fun _ _ _ => .setRelationship
  deleteRelationship _ _ _ := (failsClean.deleteRelationship _ _ _).preserves fun _ _ _ => .deleteRelationship
  register _ _ _ := (failsClean.register _ _ _).preserves fun _ _ _ => .register
  unregister _ _ _ := (failsClean.unregister _ _ _).preserves fun _ _ _ => .unregister
  archive _ _ _ := (failsClean.archive _ _ _).preserves fun _ _ _ => .archive
  unarchive _ _ _ := (failsClean.unarchive _ _ _).preserves fun _ _ _ => .unarchive
  amend _ _ _ := (failsClean.amend _ _ _).preserves fun _ _ _ => .amend

/-- No operation of the engine in memory deletes a policy. -/
theorem MemoryEngine.keeps_policy (policyId : String) :
    Host.EngineKeeps fun engine : MemoryEngine => (engine.policies.get? policyId).isSome where
  setRelationship _ _ _ := (failsClean.setRelationship _ _ _).preserves fun _ _ _ h hrun =>
    (edit_of_setRelationship hrun).isSome_get? h
  deleteRelationship _ _ _ := (failsClean.deleteRelationship _ _ _).preserves fun _ _ _ h hrun =>
    (edit_of_deleteRelationship hrun).isSome_get? h
  register _ _ _ := (failsClean.register _ _ _).preserves fun _ _ _ h hrun =>
    (edit_of_register hrun).isSome_get? h
  unregister _ _ _ := (failsClean.unregister _ _ _).preserves fun _ _ _ h hrun =>
    (edit_of_unregister hrun).isSome_get? h
  archive _ _ _ := (failsClean.archive _ _ _).preserves fun _ _ _ h hrun =>
    (edit_of_archive hrun).isSome_get? h
  unarchive _ _ _ := (failsClean.unarchive _ _ _).preserves fun _ _ _ h hrun =>
    (edit_of_unarchive hrun).isSome_get? h
  amend _ _ _ := (failsClean.amend _ _ _).preserves fun _ _ _ h hrun => isSome_get?_of_amend hrun h

namespace Keeper

variable {σ : Type} [Store σ]

/-- The keepers with an engine in memory that come about over time. The store that a keeper starts
with may hold anything. -/
inductive Reachable : Keeper σ MemoryEngine → Prop where
  | created {host : Host σ MemoryEngine} {authenticator : Authenticator} {params : Params}
      {keeper : Keeper σ MemoryEngine} : host.engine.Reachable →
    create host authenticator params = .ok keeper → Reachable keeper
  /-- The host has the engine at hand. -/
  | managed {keeper : Keeper σ MemoryEngine} {engine : MemoryEngine} : Reachable keeper →
    engine.Reachable → Reachable { keeper with host := { keeper.host with engine } }
  | configured {keeper : Keeper σ MemoryEngine} (params : Params) : Reachable keeper →
    Reachable ((setParams params).run keeper).2
  | executed {keeper : Keeper σ MemoryEngine} (actor : Did) (policyId : String)
      (command : Command) (transaction : Transaction) : Reachable keeper →
    Reachable ((execute actor policyId command transaction).run keeper).2
  | blockEnded {keeper : Keeper σ MemoryEngine} (now : Timestamp) : Reachable keeper →
    Reachable ((endBlock now).run keeper).2

variable {keeper : Keeper σ MemoryEngine}

theorem Reachable.engine (h : keeper.Reachable) : keeper.host.engine.Reachable := by
  induction h with
  | @created host authenticator params _ hengine hcreate =>
    obtain ⟨-, rfl⟩ := create_eq_ok_iff.mp hcreate
    exact hengine
  | managed _ hengine _ => exact hengine
  | @configured keeper params _ ih => exact preserves_setParams params keeper ih
  | @executed keeper actor policyId command transaction _ ih =>
    exact preserves_execute MemoryEngine.keeps_reachable _ _ _ _ keeper ih
  | @blockEnded keeper now _ ih => exact preserves_endBlock now keeper ih

/-- A message leads to a reachable keeper, since it is a command or has no effect. -/
theorem Reachable.handled [SignatureSuite] (h : keeper.Reachable) (message : CommandMessage)
    (transaction : Transaction) : ((handle message transaction).run keeper).2.Reachable := by
  refine Action.Preserves.bind (Action.preserves_read _) (fun authenticated => ?_) keeper h
  exact fun _ h => h.executed _ _ _ _

end Keeper

/-! ### A ledger for examples -/

namespace Ledger

def alice : Did := ⟨"did:test:alice", by decide⟩

def bob : Did := ⟨"did:test:bob", by decide⟩

def carol : Did := ⟨"did:test:carol", by decide⟩

def report : Object := ⟨"file", "report"⟩

/-- The root with which an actor commits itself to the report alone. -/
def root (actor : Did) : Digest := Merkle.leaf (Opening.leafData "policy" actor report)

/-- The proof that opens such a commitment. -/
def opening : RegistrationProof := ⟨[], report, 1, 0⟩

/-- An actor commits itself to the report. -/
def commit (actor : Did) : Command := .commitRegistrations (root actor).octets

/-- Somebody opens a commitment to the report. -/
def reveal (commitmentId : UInt64) : Command := .revealRegistration commitmentId opening

/-- A transaction in a block. -/
def transaction (height : UInt64) : Transaction :=
  ⟨⟨"source", [], "source1"⟩,
    ⟨⟨0, 250000000, by decide, by decide, by decide⟩, height⟩, none⟩

/-- A new keeper over a store, with one policy. -/
def created {σ : Type} (store : σ) : Keeper σ MemoryEngine :=
  ⟨⟨store, (MemoryEngine.empty.createPolicy "policy").2⟩,
    ⟨⟨fun _ => none⟩, ⟨fun did => .error (.notFound did)⟩⟩, .default⟩

theorem create_eq_created {σ : Type} (store : σ) :
    Keeper.create (created store).host (created store).authenticator .default =
      .ok (created store) :=
  Keeper.create_eq_ok_iff.mpr ⟨Params.validate_default, rfl⟩

theorem reachable_created {σ : Type} [Store σ] (store : σ) : (created store).Reachable :=
  .created (.createPolicy "policy" .empty) (create_eq_created store)

end Ledger

end AccessControl
