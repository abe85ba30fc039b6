import AccessControl.Proofs.Command.Openable
import AccessControl.Proofs.Keeper.Authority
import AccessControl.Proofs.Keeper.Calls
import AccessControl.Proofs.Keeper.CleanFailure
import Mathlib.Data.List.Destutter
import Mathlib.Data.List.ReduceOption

/-!
# Claims to an object only move back in time

Who owns an object, since when and by which transaction is the claim to it (`Keeper.claim?`). As
long as the object is owned, only one thing replaces the claim: a commitment is opened for the
object, and then the new claim is older than the one before (`Keeper.claim_cases`). To register the
object again, to take it out of use and into use again and to change the relationships on it leaves
the claim as it is, and so does whatever others try.

In a run, therefore, the claims to an object go down in height (`Keeper.Tenure`). None comes back
once another one has replaced it, and there are no more of them than the first one has blocks before
it.

The engine is changed before the held-back writes are made. If the store refuses a write then, the
command has failed but the object has changed hands. So over a store that may fail, openings count
that succeeded or that failed at this point; over any other store, those that succeeded.
-/

namespace AccessControl

/-! ### Descending lists -/

section

variable {α : Type} {height : α → UInt64} {first : α} {rest : List α}

/-- If each element is the one before or a smaller one, they descend once repetitions are left
out. -/
theorem pairwise_destutter' [DecidableEq α]
    (h : (first :: rest).IsChain fun earlier later =>
      later = earlier ∨ height later < height earlier) :
    (rest.destutter' (· ≠ ·) first).Pairwise (fun earlier later => height later < height earlier) ∧
      ∀ later ∈ rest.destutter' (· ≠ ·) first, later = first ∨ height later < height first := by
  induction rest generalizing first with
  | nil => simp
  | cons second rest ih =>
    obtain ⟨hsecond, hrest⟩ := List.isChain_cons_cons.mp h
    obtain ⟨hpairwise, hbelow⟩ := ih hrest
    rcases hsecond with rfl | hlt
    · -- A repetition is left out.
      rw [List.destutter'_cons_neg _ (by simp)]
      exact ⟨hpairwise, hbelow⟩
    · have hne : first ≠ second := by
        rintro rfl
        exact UInt64.lt_irrefl _ hlt
      have hall : ∀ later ∈ rest.destutter' (· ≠ ·) second, height later < height first := by
        intro later hlater
        rcases hbelow later hlater with rfl | hlt'
        · exact hlt
        · exact UInt64.lt_trans hlt' hlt
      rw [List.destutter'_cons_pos _ hne]
      refine ⟨List.pairwise_cons.mpr ⟨hall, hpairwise⟩, fun later hlater => ?_⟩
      rcases List.mem_cons.mp hlater with rfl | hlater
      · exact .inl rfl
      · exact .inr (hall later hlater)

theorem length_le_of_pairwise
    (h : (first :: rest).Pairwise fun earlier later => height later < height earlier) :
    rest.length ≤ (height first).toNat := by
  induction rest generalizing first with
  | nil => exact Nat.zero_le _
  | cons second rest ih =>
    obtain ⟨hfirst, hrest⟩ := List.pairwise_cons.mp h
    have hlt := UInt64.lt_iff_toNat_lt.mp (hfirst second (List.mem_cons_self ..))
    have hle := ih hrest
    rw [List.length_cons]
    omega

end

/-! ### Commands and claims -/

namespace Host

variable {σ : Type} [Store σ] {params : Params} {actor : Did} {policyId : String}
  {transaction : Transaction} {host host' : Host σ MemoryEngine} {command : Command}
  {outcome : CommandOutcome} {object : Object} {registration registration' : RelationshipRecord}

/-- An object that is owned before and after a command, and for which the command does not open a
commitment, is owned for the same reason. -/
theorem Effect.provenance_eq {otherPolicy : String}
    (h : Effect params actor policyId transaction host command outcome host')
    (hcoherent : host.engine.Coherent)
    (hother : ∀ commitmentId proof, command = .revealRegistration commitmentId proof →
      ¬ (policyId = otherPolicy ∧ proof.object = object))
    (hbefore : RelationshipEngine.registration? host.engine otherPolicy object =
      .ok (some registration))
    (hafter : RelationshipEngine.registration? host'.engine otherPolicy object =
      .ok (some registration')) :
    registration'.provenance = registration.provenance := by
  rcases h.engine_cases with ⟨-, hengine⟩ | ⟨named, -, hedit⟩ |
    ⟨commitmentId, proof, commitment, found, record, hcommand, -, -, -, -, hamend⟩
  · rw [hengine, hbefore] at hafter
    cases hafter
    rfl
  · exact hedit.provenance_eq hcoherent hbefore hafter
  · have hne := hother commitmentId proof hcommand
    rw [MemoryEngine.registration_eq_of_amend hcoherent hne hamend hbefore hafter]

end Host

/-- Whether a call opens a commitment for an object of a policy. -/
def Call.opens (policyId : String) (object : Object) : Call → Bool
  | .execute _ policy (.revealRegistration _ proof) _ =>
    policy = policyId && proof.object = object
  | _ => false

theorem Call.opens_execute_eq_true_iff {actor : Did} {policy policyId : String} {command : Command}
    {transaction : Transaction} {object : Object} :
    (Call.execute actor policy command transaction).opens policyId object = true ↔
      ∃ commitmentId proof, command = .revealRegistration commitmentId proof ∧
        policy = policyId ∧ proof.object = object := by
  cases command <;> simp [Call.opens]

/-- A store in which held-back writes can always be made. -/
def Store.MakesWrites (σ : Type) [Store σ] : Prop :=
  ∀ overlay : Overlay σ, overlay.commit.1 = .ok ()

theorem LawfulStore.makesWrites (σ : Type) [Store σ] [LawfulStore σ] : Store.MakesWrites σ := by
  intro overlay
  obtain ⟨store, hcommit, -⟩ := Overlay.exists_commit overlay
  rw [hcommit]

/-- Whether a call did what it is for. It may have failed after that, when its held-back writes were
to be made. -/
def CallResult.isCarriedOut : CallResult → Bool
  | .ok _ => true
  | .error (.store _) => true
  | .error _ => false

namespace Keeper

section

variable {σ ρ : Type} [Store σ] [RelationshipEngine ρ] {keeper keeper' : Keeper σ ρ} {actor : Did}
  {policyId : String} {command : Command} {transaction : Transaction}
  {result : Except HandlerError CommandOutcome}

/-- A command does nothing to the engine, or has its effect; then it fails only if the store
does. -/
theorem engine_eq_or_effect (hclean : RelationshipEngine.FailsClean ρ)
    (hrun : (execute actor policyId command transaction).run keeper = (result, keeper')) :
    keeper'.host.engine = keeper.host.engine ∧ result.isOk = false ∨
    ∃ outcome overlay, Host.Effect keeper.params actor policyId transaction
        ⟨Overlay.ofStore keeper.host.store, keeper.host.engine⟩ command outcome
        ⟨overlay, keeper'.host.engine⟩ ∧
      result = (overlay.commit.1.mapError HandlerError.store).map fun _ => outcome := by
  cases result with
  | error error =>
    rcases eq_or_effect_of_run_execute_eq_error hclean hrun with
      rfl | ⟨outcome, overlay, refusal, heffect, hcommit, rfl, -⟩
    · exact .inl ⟨rfl, rfl⟩
    · exact .inr ⟨outcome, overlay, heffect, by rw [hcommit]; rfl⟩
  | ok outcome =>
    obtain ⟨overlay, heffect, hcommit, -⟩ := run_execute_eq_ok_iff.mp hrun
    exact .inr ⟨outcome, overlay, heffect, by rw [hcommit]; rfl⟩

/-- Who owns an object, since when and by which transaction, if somebody owns it. -/
def claim? (policyId : String) (object : Object) (keeper : Keeper σ ρ) : Option Provenance :=
  match keeper.registration? policyId object with
  | .ok (some registration) => some registration.provenance
  | _ => none

omit [Store σ] in
theorem claim?_eq_some_iff {object : Object} {claim : Provenance} :
    keeper.claim? policyId object = some claim ↔ ∃ registration,
      RelationshipEngine.registration? keeper.host.engine policyId object =
        .ok (some registration) ∧ registration.provenance = claim := by
  unfold claim? registration?
  rcases RelationshipEngine.registration? keeper.host.engine policyId object with
    error | _ | registration
  · simp [Except.mapError]
  · simp [Except.mapError]
  · simp [Except.mapError]

/-- The claims to an object before the first of some calls and after each of them. -/
def claims (policyId : String) (object : Object) : List Call → Keeper σ ρ → List (Option Provenance)
  | [], keeper => [keeper.claim? policyId object]
  | call :: rest, keeper =>
    keeper.claim? policyId object :: claims policyId object rest (call.action.run keeper).2

theorem claim?_mem_claims {object : Object} (calls : List Call) (keeper : Keeper σ ρ) :
    keeper.claim? policyId object ∈ claims policyId object calls keeper := by
  cases calls <;> simp [claims]

end

variable {σ : Type} [Store σ] {keeper start : Keeper σ MemoryEngine} {policyId : String}
  {object : Object} {first last : Provenance} {calls : List Call}

omit [Store σ] in
theorem claim?_of_engine_eq {keeper' : Keeper σ MemoryEngine}
    (h : keeper'.host.engine = keeper.host.engine) :
    keeper'.claim? policyId object = keeper.claim? policyId object := by
  unfold claim? registration?
  rw [h]

/-- **What a call may do to the claim to an object** that is owned before and after. -/
theorem claim_cases (hcoherent : keeper.host.engine.Coherent) (call : Call)
    (hbefore : keeper.claim? policyId object = some first)
    (hafter : (call.action.run keeper).2.claim? policyId object = some last) :
    last = first ∧ (call.opens policyId object && (call.action.run keeper).1.isOk) = false ∨
    call.opens policyId object = true ∧ last.createdAt.height < first.createdAt.height ∧
      CallResult.isCarriedOut (call.action.run keeper).1 = true ∧
      (Store.MakesWrites σ → (call.action.run keeper).1.isOk = true) := by
  cases call with
  | endBlock now =>
    -- The sweep marks commitments and leaves the engine alone.
    have hengine : ((endBlock now).run keeper).2.host.engine = keeper.host.engine :=
      Eq.symm (preserves_endBlock now keeper rfl)
    rw [Call.run_action_endBlock] at hafter
    rw [claim?_of_engine_eq hengine, hbefore] at hafter
    exact .inl ⟨(Option.some.inj hafter).symm, rfl⟩
  | execute actor policy command transaction =>
    rw [Call.run_action_execute] at hafter ⊢
    rcases hrun : (execute actor policy command transaction).run keeper with ⟨result, keeper'⟩
    rw [hrun] at hafter
    rcases engine_eq_or_effect MemoryEngine.failsClean hrun with
      ⟨hengine, hfailed⟩ | ⟨outcome, overlay, heffect, rfl⟩
    · -- The command failed before its writes were to be made.
      rw [claim?_of_engine_eq hengine, hbefore] at hafter
      refine .inl ⟨(Option.some.inj hafter).symm, ?_⟩
      cases result with
      | error error => exact Bool.and_false _
      | ok outcome => cases hfailed
    · obtain ⟨registration, hregistration, rfl⟩ := claim?_eq_some_iff.mp hbefore
      obtain ⟨registration', hregistration', rfl⟩ := claim?_eq_some_iff.mp hafter
      by_cases hopens : (Call.execute actor policy command transaction).opens policyId object
      · -- The claim in the way must be younger than the commitment, whose height the new one gets.
        obtain ⟨commitmentId, proof, rfl, rfl, rfl⟩ := Call.opens_execute_eq_true_iff.mp hopens
        obtain ⟨commitment, claimed, -, hclaimed, hprovenance, hlater⟩ :=
          heffect.exists_registration hcoherent
        have hsame : claimed = registration' := by
          rw [hclaimed] at hregistration'
          simpa using hregistration'
        have hlt := hlater registration hregistration
        rw [← hsame, hprovenance]
        refine .inr ⟨hopens, hlt, ?_, fun hcommits => ?_⟩
        · cases overlay.commit.1 <;> rfl
        · rw [hcommits]
          rfl
      · refine .inl ⟨heffect.provenance_eq hcoherent ?_ hregistration hregistration', ?_⟩
        · rintro commitmentId proof rfl ⟨rfl, rfl⟩
          exact hopens (Call.opens_execute_eq_true_iff.mpr ⟨_, _, rfl, rfl, rfl⟩)
        · rw [Bool.eq_false_iff.mpr hopens, Bool.false_and]

/-! ### Runs and claims -/

/-- What became of the claim to an object in some calls, before, between and after which the object
was owned. -/
structure Tenure (policyId : String) (object : Object) (calls : List Call)
    (start : Keeper σ MemoryEngine) (first last : Provenance) : Prop where
  /-- The claim moves back in time, by a block at least with each commitment that is opened. -/
  height_add_le : last.createdAt.height.toNat +
    (calls.zip (perform calls start).1).countP (fun step =>
      step.1.opens policyId object && step.2.isOk) ≤ first.createdAt.height.toNat
  /-- Without a commitment being opened it stays exactly as it is. -/
  eq_of_not_opened : Store.MakesWrites σ → (∀ step ∈ calls.zip (perform calls start).1,
    (step.1.opens policyId object && step.2.isOk) = false) → last = first
  /-- Over a store that may fail, no opening must have failed for its writes either. -/
  eq_of_not_carriedOut : (∀ step ∈ calls.zip (perform calls start).1,
    (step.1.opens policyId object && CallResult.isCarriedOut step.2) = false) → last = first
  /-- Each claim is the one before or an older one. -/
  isChain_claims : (claims policyId object calls start).reduceOption.IsChain fun earlier later =>
    later = earlier ∨ later.createdAt.height < earlier.createdAt.height

theorem reduceOption_claims (hfirst : start.claim? policyId object = some first)
    (calls : List Call) :
    ∃ rest, (claims policyId object calls start).reduceOption = first :: rest := by
  cases calls with
  | nil => exact ⟨[], by simp [claims, hfirst, List.reduceOption]⟩
  | cons call rest => exact ⟨_, by rw [claims, hfirst, List.reduceOption_cons_of_some]⟩

theorem Tenure.refl (hfirst : start.claim? policyId object = some first) :
    Tenure policyId object [] start first first where
  height_add_le := Nat.le_refl _
  eq_of_not_opened _ _ := rfl
  eq_of_not_carriedOut _ := rfl
  isChain_claims := by
    rw [claims, hfirst]
    exact List.isChain_singleton first

theorem Tenure.cons {call : Call} {second : Provenance}
    (hcoherent : start.host.engine.Coherent) (hfirst : start.claim? policyId object = some first)
    (hsecond : (call.action.run start).2.claim? policyId object = some second)
    (h : Tenure policyId object calls (call.action.run start).2 second last) :
    Tenure policyId object (call :: calls) start first last := by
  have hcall := claim_cases hcoherent call hfirst hsecond
  have hsteps : (call :: calls).zip (perform (call :: calls) start).1 =
      (call, (call.action.run start).1) ::
        calls.zip (perform calls (call.action.run start).2).1 := by
    rw [perform_cons, List.zip_cons_cons]
  constructor
  case height_add_le =>
    have hrest := h.height_add_le
    rw [hsteps, List.countP_cons]
    rcases hcall with ⟨rfl, hopened⟩ | ⟨-, hlt, -⟩
    · rw [hopened]
      exact hrest
    · have hlt := UInt64.lt_iff_toNat_lt.mp hlt
      split <;> omega
  case eq_of_not_opened =>
    intro hcommits hnone
    rw [hsteps, List.forall_mem_cons] at hnone
    have hrest := h.eq_of_not_opened hcommits hnone.2
    rcases hcall with ⟨rfl, -⟩ | ⟨hopens, -, -, hok⟩
    · exact hrest
    · have hopened := hnone.1
      simp [hopens, hok hcommits] at hopened
  case eq_of_not_carriedOut =>
    intro hnone
    rw [hsteps, List.forall_mem_cons] at hnone
    have hrest := h.eq_of_not_carriedOut hnone.2
    rcases hcall with ⟨rfl, -⟩ | ⟨hopens, -, hcarried, -⟩
    · exact hrest
    · have hopened := hnone.1
      simp [hopens, hcarried] at hopened
  case isChain_claims =>
    obtain ⟨rest, hrest⟩ := reduceOption_claims hsecond calls
    have hchain := h.isChain_claims
    rw [claims, hfirst, List.reduceOption_cons_of_some, hrest, List.isChain_cons_cons]
    rw [hrest] at hchain
    refine ⟨?_, hchain⟩
    rcases hcall with ⟨rfl, -⟩ | ⟨-, hlt, -⟩
    · exact .inl rfl
    · exact .inr hlt

/-- The claim to an object that is owned throughout a run has its tenure. -/
theorem tenure_of_owned (hreachable : start.host.engine.Reachable)
    (howned : none ∉ claims policyId object calls start)
    (hfirst : start.claim? policyId object = some first)
    (hlast : (perform calls start).2.claim? policyId object = some last) :
    Tenure policyId object calls start first last := by
  -- By induction from the front: every call starts from a reachable engine, which is coherent.
  induction calls generalizing start first with
  | nil =>
    rw [perform, hfirst] at hlast
    cases hlast
    exact .refl hfirst
  | cons call calls ih =>
    rw [claims, List.mem_cons, not_or] at howned
    have hnext : (call.action.run start).2.claim? policyId object ≠ none := by
      intro hnone
      exact howned.2 (hnone ▸ claim?_mem_claims calls _)
    obtain ⟨second, hsecond⟩ := Option.ne_none_iff_exists'.mp hnext
    have hreachable' := preserves_action MemoryEngine.keeps_reachable call start hreachable
    exact .cons hreachable.coherent hfirst hsecond (ih hreachable' howned.2 hsecond hlast)

theorem claim?_perform_mem_claims (calls : List Call) (start : Keeper σ MemoryEngine) :
    (perform calls start).2.claim? policyId object ∈ claims policyId object calls start := by
  induction calls generalizing start with
  | nil => simp [perform, claims]
  | cons call calls ih =>
    rw [perform_cons, claims]
    exact List.mem_cons_of_mem _ (ih _)

/-- **Claims only move back in time.** From any state of a keeper on, let an object be owned before,
between and after some calls. Then the claim to it has its tenure: it moves back with each
commitment that is opened for the object, and only then. The claims that there are one after the
other become older and older, and there are only so many of them. -/
theorem exists_tenure {start : Keeper σ MemoryEngine} (hreachable : start.Reachable)
    (policyId : String) (object : Object) (calls : List Call)
    (howned : none ∉ claims policyId object calls start) :
    ∃ first last, start.claim? policyId object = some first ∧
      (perform calls start).2.claim? policyId object = some last ∧
      Tenure policyId object calls start first last ∧
      ((claims policyId object calls start).reduceOption.destutter (· ≠ ·)).Pairwise
        (fun earlier later => later.createdAt.height < earlier.createdAt.height) ∧
      ((claims policyId object calls start).reduceOption.destutter (· ≠ ·)).length ≤
        first.createdAt.height.toNat + 1 := by
  have howned' : ∀ claim ∈ claims policyId object calls start, ∃ held, claim = some held :=
    fun claim hclaim => Option.ne_none_iff_exists'.mp (by rintro rfl; exact howned hclaim)
  obtain ⟨first, hfirst⟩ := howned' _ (claim?_mem_claims calls start)
  obtain ⟨last, hlast⟩ := howned' _ (claim?_perform_mem_claims calls start)
  have htenure := tenure_of_owned hreachable.engine howned hfirst hlast
  refine ⟨first, last, hfirst, hlast, htenure, ?_⟩
  obtain ⟨rest, hrest⟩ := reduceOption_claims hfirst calls
  have hchain := htenure.isChain_claims
  rw [hrest] at hchain ⊢
  obtain ⟨hpairwise, hbelow⟩ := pairwise_destutter' hchain
  rw [List.destutter_cons']
  refine ⟨hpairwise, ?_⟩
  -- Each claim but the first uses up one of the heights below that of the first.
  rcases hkept : rest.destutter' (· ≠ ·) first with _ | ⟨oldest, others⟩
  · exact Nat.zero_le _
  · rw [hkept] at hpairwise hbelow
    have hcount := length_le_of_pairwise hpairwise
    have hhead : oldest.createdAt.height.toNat ≤ first.createdAt.height.toNat := by
      rcases hbelow oldest (List.mem_cons_self ..) with rfl | hlt
      · exact Nat.le_refl _
      · exact Nat.le_of_lt (UInt64.lt_iff_toNat_lt.mp hlt)
    rw [List.length_cons]
    omega

end Keeper

namespace Keeper

open Ledger

/-- Bob registers the report in block 5, takes it out of use and registers it again, and carol claims
it in vain. Then carol and alice open their commitments, of which that of alice is older. -/
theorem exists_tenure_takeovers :
    let committed (actor : Did) (height : UInt64) (keeper : Keeper MemoryStore MemoryEngine) :=
      ((execute actor "policy" (commit actor) (transaction height)).run keeper).2
    let start := ((execute bob "policy" (.registerObject report) (transaction 5)).run
      (committed carol 2 (committed alice 1 (created .empty)))).2
    let calls : List Call :=
      [.execute bob "policy" (.archiveObject report) (transaction 6),
        .execute bob "policy" (.registerObject report) (transaction 7),
        .execute carol "policy" (.registerObject report) (transaction 8),
        .execute carol "policy" (reveal 2) (transaction 9),
        .execute alice "policy" (reveal 1) (transaction 10)]
    Store.MakesWrites MemoryStore ∧
    (perform calls start).1.map Except.isOk = [true, true, false, true, true] ∧
    (claims "policy" report calls start).map (Option.map fun claim => claim.createdAt.height) =
      [some 5, some 5, some 5, some 5, some 2, some 1] ∧
    ∃ first last, start.claim? "policy" report = some first ∧
      (perform calls start).2.claim? "policy" report = some last ∧
      Tenure "policy" report calls start first last := by
  intro committed start calls
  have hstart : start.Reachable :=
    (((reachable_created _).executed _ _ _ _).executed _ _ _ _).executed _ _ _ _
  have hresults : (perform calls start).1.map Except.isOk = [true, true, false, true, true] := by
    decide +kernel
  have hheights : (claims "policy" report calls start).map
      (Option.map fun claim => claim.createdAt.height) =
        [some 5, some 5, some 5, some 5, some 2, some 1] := by
    decide +kernel
  have howned : none ∉ claims "policy" report calls start := by decide +kernel
  obtain ⟨first, last, hfirst, hlast, htenure, -⟩ :=
    exists_tenure hstart "policy" report calls howned
  exact ⟨LawfulStore.makesWrites _, hresults, hheights, first, last, hfirst, hlast, htenure⟩

end Keeper

end AccessControl
