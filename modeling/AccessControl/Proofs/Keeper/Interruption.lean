import AccessControl.Proofs.Keeper.Tenure

/-!
# Commands that the store interrupts

Over a store whose writes always succeed a failed command leaves no trace. Over any other store a
command can also fail after it has been carried out, when its held-back writes are made in the store
and one of them is refused. `Keeper.eq_or_interrupted` says what is left then: the writes before the
refused one, and what an opening has done to the engine. There is no other way for a command to
leave a trace, so nothing is left exactly if the first write is the one that is refused and the
command opens no commitment.

Nothing is assumed of the store but that a call that fails changes nothing, which is part of its
type; each of its calls may fail at any time and for any reason.
-/

namespace AccessControl

/-! ### Lists of writes that are interrupted -/

namespace Overlay

variable {σ : Type} [Store σ]

theorem failsClean_makeWrite (key : Bytes) (value : Option Bytes) :
    (makeWrite key value : Action σ StoreError Unit).FailsClean := by
  cases value with
  | some value => exact Action.failsClean_attempt _
  | none => exact Action.failsClean_attempt _

/-- Writes that fail have been made up to the one that was refused. -/
theorem exists_refused_of_run_makeWrites_eq_error {writes : List (Bytes × Option Bytes)}
    {store store' : σ} {error : StoreError}
    (h : (makeWrites writes).run store = (.error error, store')) :
    ∃ made refused rest, writes = made ++ refused :: rest ∧
      (makeWrites made).run store = (.ok (), store') ∧
      (makeWrite refused.1 refused.2).run store' = (.error error, store') := by
  induction writes generalizing store with
  | nil => cases h
  | cons write rest ih =>
    rw [makeWrites, Action.run_bind] at h
    rcases hwrite : (makeWrite write.1 write.2).run store with ⟨result, middle⟩
    rw [hwrite] at h
    cases result with
    | error refusal =>
      obtain ⟨⟨⟩, rfl⟩ := Prod.mk.inj h
      have hmiddle := failsClean_makeWrite write.1 write.2 store error (congrArg Prod.fst hwrite)
      rw [hwrite] at hmiddle
      obtain rfl : middle = store := hmiddle
      exact ⟨[], write, rest, rfl, rfl, hwrite⟩
    | ok =>
      obtain ⟨made, refused, rest, rfl, hmade, hrefused⟩ := ih h
      refine ⟨write :: made, refused, rest, rfl, ?_, hrefused⟩
      rw [makeWrites, Action.run_bind, hwrite]
      exact hmade

end Overlay

/-! ### Commands that write -/

namespace Host

variable {σ : Type} [Store σ] {params : Params} {actor : Did} {policyId : String}
  {transaction : Transaction} {store : σ} {overlay : Overlay σ} {engine engine' : MemoryEngine}
  {command : Command} {outcome : CommandOutcome}

/-- What a command writes is held back. -/
theorem Effect.backend_eq
    (h : Effect params actor policyId transaction ⟨Overlay.ofStore store, engine⟩ command outcome
      ⟨overlay, engine'⟩) : overlay.backend = store := by
  have hkept := preserves_dispatch (Keeper.keeps_backend store)
    (.always : EngineKeeps fun _ : MemoryEngine => True) params actor policyId transaction command
    ⟨Overlay.ofStore store, engine⟩ ⟨rfl, trivial⟩
  rw [h.run_dispatch] at hkept
  exact hkept.1

/-- A command that has written to the store and opened no commitment has left the engine alone. -/
theorem Effect.engine_eq_of_pending
    (h : Effect params actor policyId transaction ⟨Overlay.ofStore store, engine⟩ command outcome
      ⟨overlay, engine'⟩)
    (hpending : overlay.pending.entries ≠ [])
    (hopens : ∀ commitmentId proof, command ≠ .revealRegistration commitmentId proof) :
    engine' = engine := by
  cases h with
  | commitRegistrations | disputed | disputedBefore => rfl
  | registered | takenOver => exact absurd rfl (hopens _ _)
  | setRelationship | deleteRelationship | registerObject | unregisterObject | archiveObject
  | unarchiveObject => exact absurd rfl hpending

/-- Opening a commitment changes the engine: the object gets a claim that it did not have. -/
theorem Effect.engine_ne_of_opened {host host' : Host σ MemoryEngine} {commitmentId : UInt64}
    {proof : RegistrationProof}
    (h : Effect params actor policyId transaction host (.revealRegistration commitmentId proof)
      outcome host') (hcoherent : host.engine.Coherent) : host'.engine ≠ host.engine := by
  intro hsame
  obtain ⟨commitment, registration, -, hregistration, hprovenance, hlater⟩ :=
    h.exists_registration hcoherent
  rw [hsame] at hregistration
  have hlt := hlater registration hregistration
  rw [hprovenance] at hlt
  exact UInt64.lt_irrefl _ hlt

end Host

namespace Keeper

variable {σ : Type} [Store σ] {keeper keeper' : Keeper σ MemoryEngine} {actor : Did}
  {policyId : String} {command : Command} {transaction : Transaction}

/-- What a command leaves behind that has been carried out on held-back writes, when the store
refuses to make one of them. `made` are those that it has made. -/
structure Interrupted (actor : Did) (policyId : String) (command : Command)
    (transaction : Transaction) (made : List (Bytes × Option Bytes)) (error : StoreError)
    (keeper keeper' : Keeper σ MemoryEngine) : Prop where
  /-- The store has the writes before the refused one, and none of the others. -/
  exists_refused : ∃ outcome overlay refused rest,
    Host.Effect keeper.params actor policyId transaction
      ⟨Overlay.ofStore keeper.host.store, keeper.host.engine⟩ command outcome
      ⟨overlay, keeper'.host.engine⟩ ∧
    overlay.pending.entries = made ++ refused :: rest ∧
    (Overlay.makeWrites made).run keeper.host.store = (.ok (), keeper'.host.store) ∧
    (Overlay.makeWrite refused.1 refused.2).run keeper'.host.store =
      (.error error, keeper'.host.store)
  /-- Who is established how, and the parameters, are as before. -/
  keeper_eq : keeper' = { keeper with host := keeper'.host }
  /-- If no commitment was opened, the engine is as before. -/
  engine_eq : (∀ commitmentId proof, command ≠ .revealRegistration commitmentId proof) →
    keeper'.host.engine = keeper.host.engine
  /-- If one was opened, the engine has changed. -/
  engine_ne : keeper.host.engine.Coherent → ∀ commitmentId proof,
    command = .revealRegistration commitmentId proof →
    keeper'.host.engine ≠ keeper.host.engine
  /-- Everything is as before if the first write was refused and no commitment was opened. -/
  eq_of_nil : made = [] →
    (∀ commitmentId proof, command ≠ .revealRegistration commitmentId proof) → keeper' = keeper

/-- **A command that fails leaves no trace, or the store has refused one of its writes.** Then it
leaves the writes before that one, and the change to the engine if it opens a commitment. -/
theorem eq_or_interrupted {error : HandlerError}
    (hrun : (execute actor policyId command transaction).run keeper = (.error error, keeper')) :
    keeper' = keeper ∨ ∃ made refusal, error = .store refusal ∧
      Interrupted actor policyId command transaction made refusal keeper keeper' := by
  rcases eq_or_effect_of_run_execute_eq_error MemoryEngine.failsClean hrun with
    rfl | ⟨outcome, overlay, refusal, heffect, hcommit, rfl, hkeeper⟩
  · exact .inl rfl
  · obtain ⟨made, refused, rest, hpending, hmade, hrefused⟩ :=
      Overlay.exists_refused_of_run_makeWrites_eq_error hcommit
    have hstore : overlay.backend = keeper.host.store := heffect.backend_eq
    rw [hstore] at hmade
    have hne : overlay.pending.entries ≠ [] := by
      rw [hpending]
      simp
    have hengine := heffect.engine_eq_of_pending hne
    refine .inr ⟨made, refusal, rfl, ?_⟩
    exact {
      exists_refused := ⟨outcome, overlay, refused, rest, heffect, hpending, hmade, hrefused⟩
      keeper_eq := hkeeper
      engine_eq := hengine
      engine_ne := by
        rintro hcoherent commitmentId proof rfl
        exact heffect.engine_ne_of_opened hcoherent
      eq_of_nil := by
        rintro rfl hopens
        have hsame : keeper'.host.store = keeper.host.store := (Prod.mk.inj hmade).2.symm
        have hhost : keeper'.host = ⟨keeper.host.store, keeper.host.engine⟩ := by
          rw [← hsame, ← hengine hopens]
        rw [hkeeper, hhost] }

end Keeper

/-! ### A store that fills up -/

/-- A store in memory that makes a number of writes and refuses all that come after them. -/
structure MeteredStore where
  backend : MemoryStore
  /-- How many writes are left. -/
  left : Nat

namespace MeteredStore

open Ledger

instance : Store MeteredStore where
  get? store key := Store.get? store.backend key
  set store key value :=
    match store.left with
    | 0 => .error (.backend "full")
    | left + 1 => return ⟨← Store.set store.backend key value, left⟩
  delete store key :=
    match store.left with
    | 0 => .error (.backend "full")
    | left + 1 => return ⟨← Store.delete store.backend key, left⟩
  scan store start := Store.scan store.backend start

/-- Alice publishes a commitment to the report, which takes four writes. -/
def committed (left : Nat) :
    Except HandlerError CommandOutcome × Keeper MeteredStore MemoryEngine :=
  (Keeper.execute alice "policy" (commit alice) (transaction 1)).run (created ⟨.empty, left⟩)

/-- Then she opens it, which takes two more. -/
def revealed (left : Nat) :
    Except HandlerError CommandOutcome × Keeper MeteredStore MemoryEngine :=
  (Keeper.execute alice "policy" (reveal 1) (transaction 2)).run (committed left).2

/-- Bob registers the report instead, which takes no write at all. -/
def owned (left : Nat) : Keeper MeteredStore MemoryEngine :=
  ((Keeper.execute bob "policy" (.registerObject report) (transaction 2)).run (committed left).2).2

end MeteredStore

namespace Keeper

open Ledger MeteredStore

/-- The last of four writes is refused: the commitment is there with its index entries, but its
number will be given out once more. -/
theorem eq_or_interrupted_metered :
    ∃ error, (committed 3).1 = .error error ∧ (committed 3).2.host.store.backend.size = 3 ∧
      ∃ made refusal, error = .store refusal ∧
        Interrupted alice "policy" (commit alice) (transaction 1) made refusal
          (Ledger.created ⟨.empty, 3⟩) (committed 3).2 := by
  have hfailed : (committed 3).1.isOk = false := by decide +kernel
  have hsize : (committed 3).2.host.store.backend.size = 3 := by decide +kernel
  rcases hresult : (committed 3).1 with error | outcome
  · refine ⟨error, rfl, hsize, ?_⟩
    rcases eq_or_interrupted (Prod.ext hresult rfl) with hsame | hinterrupted
    · have hempty : (committed 3).2 = Ledger.created ⟨.empty, 3⟩ := hsame
      rw [hempty] at hsize
      exact absurd hsize (by decide)
    · exact hinterrupted
  · rw [hresult] at hfailed
    cases hfailed

/-- The refusal of a store for which a command failed. -/
def refusal? : Except HandlerError CommandOutcome → Option StoreError
  | .error (.store refusal) => some refusal
  | _ => none

/-- Not even the first write of the opening is made. The command fails and the store is as before,
and yet the object that nobody owned has an owner. -/
theorem reveal_over_full_store :
    refusal? (revealed 4).1 = some (.backend "full") ∧
      (revealed 4).2.host.store.backend.entries.entries =
        (committed 4).2.host.store.backend.entries.entries ∧
      (committed 4).2.claim? "policy" report = none ∧
      ((revealed 4).2.claim? "policy" report).map (fun claim => claim.owner.text) =
        some "did:test:alice" ∧
      (revealed 4).2.host.engine ≠ (committed 4).2.host.engine := by
  have hrun : refusal? (revealed 4).1 = some (.backend "full") ∧
      (revealed 4).2.host.store.backend.entries.entries =
        (committed 4).2.host.store.backend.entries.entries ∧
      (committed 4).2.claim? "policy" report = none ∧
      ((revealed 4).2.claim? "policy" report).map (fun claim => claim.owner.text) =
        some "did:test:alice" := by
    decide +kernel
  obtain ⟨hrefusal, hstore, hbefore, hafter⟩ := hrun
  refine ⟨hrefusal, hstore, hbefore, hafter, fun hsame => ?_⟩
  rw [claim?_of_engine_eq hsame, hbefore] at hafter
  cases hafter

/-- If bob owns the report by then, the opening fails in the same way, and yet the report passes from
him to alice, as of an earlier block. -/
theorem claims_over_full_store :
    let calls := [Call.execute alice "policy" (reveal 1) (transaction 3)]
    (owned 4).Reachable ∧
      (perform calls (owned 4)).1.map Except.isOk = [false] ∧
      (claims "policy" report calls (owned 4)).map
          (Option.map fun claim => (claim.owner.text, claim.createdAt.height)) =
        [some ("did:test:bob", 2), some ("did:test:alice", 1)] := by
  intro calls
  have hreachable : (owned 4).Reachable :=
    ((reachable_created _).executed _ _ _ _).executed _ _ _ _
  exact ⟨hreachable, by decide +kernel, by decide +kernel⟩

end Keeper

end AccessControl
