import AccessControl.Proofs.Keeper.History
import AccessControl.Proofs.Keeper.Tenure

/-!
# How often a commitment can be opened for an object

Nothing marks a commitment as opened for an object. What refuses to open it a second time is the
comparison of heights: by the first time the object is registered as of the block of the commitment,
and as long as it is owned the height of its registration does not rise
(`Keeper.Tenure.height_add_le`), so the commitment is never older than the registration again.

That ends when the object is given up. Between two times that a commitment is opened for an object
there is, then, a state in which nobody owns it (`Keeper.none_mem_claims_of_reveals`), and there is
such a run (`Keeper.reveal_again`).
-/

namespace AccessControl

namespace Keeper

open Repository

variable {σ : Type} [Store σ] [LawfulStore σ] {keeper keeper' : Keeper σ MemoryEngine} {book : Book}
  {actor : Did} {policyId : String} {commitmentId : UInt64} {proof : RegistrationProof}
  {transaction : Transaction} {outcome : CommandOutcome}

/-- A commitment of the book was opened. By that the object is owned as of the block of the
commitment, and whoever owned it before had registered it later. -/
theorem commitment_of_reveal (hkept : Kept book keeper.host.store)
    (hcoherent : keeper.host.engine.Coherent)
    (hrun : (execute actor policyId (.revealRegistration commitmentId proof) transaction).run
      keeper = (.ok outcome, keeper')) :
    ∃ commitment claim, book.commitment? commitmentId = some commitment ∧
      commitment.policyId = policyId ∧
      keeper'.claim? policyId proof.object = some claim ∧
      claim.createdAt = commitment.createdAt ∧
      ∀ previous, keeper.claim? policyId proof.object = some previous →
        commitment.createdAt.height < previous.createdAt.height := by
  obtain ⟨overlay, heffect, -, -⟩ := run_execute_eq_ok_iff.mp hrun
  obtain ⟨commitment, registration, hopened, hregistered, hprovenance, hlater⟩ :=
    heffect.exists_registration hcoherent
  obtain ⟨hfound, -, -, -, hpolicy⟩ := Host.openedCommitment_eq_ok_iff.mp hopened
  rw [hkept.ofStore.commitment?_eq, Except.ok.injEq] at hfound
  have hclaim : keeper'.claim? policyId proof.object = some registration.provenance :=
    claim?_eq_some_iff.mpr ⟨registration, hregistered, rfl⟩
  refine ⟨commitment, registration.provenance, hfound, hpolicy, hclaim, ?_, ?_⟩
  · rw [hprovenance]
  · intro previous hprevious
    obtain ⟨found, hfound, rfl⟩ := claim?_eq_some_iff.mp hprevious
    exact hlater found hfound

/-- A commitment stays what it was but for being marked as expired. -/
theorem eq_of_survives {calls : List Call} {commitment later : Commitment}
    (h : Commitment.expiry.Survives calls commitment later) :
    later.policyId = commitment.policyId ∧ later.createdAt = commitment.createdAt := by
  rcases h with rfl | ⟨-, rfl, -⟩
  · exact ⟨rfl, rfl⟩
  · exact ⟨rfl, rfl⟩

/-- What is left of an opening after some calls: the commitment is in the book, and if the object
has been owned since, the claim to it is not younger than the commitment. -/
theorem exists_commitment_of_reveal (hkeeps : KeepsBook book keeper)
    (hreachable : keeper.host.engine.Reachable)
    (hrun : (execute actor policyId (.revealRegistration commitmentId proof) transaction).run
      keeper = (.ok outcome, keeper')) (calls : List Call) :
    ∃ book' commitment, KeepsBook book' (perform calls keeper').2 ∧
      (perform calls keeper').2.host.engine.Reachable ∧
      book'.commitment? commitmentId = some commitment ∧ commitment.policyId = policyId ∧
      (none ∉ claims policyId proof.object calls keeper' → ∃ last,
        (perform calls keeper').2.claim? policyId proof.object = some last ∧
          last.createdAt.height ≤ commitment.createdAt.height) := by
  obtain ⟨commitment, claim, hfound, hpolicy, hclaim, hsince, -⟩ :=
    commitment_of_reveal hkeeps.kept hreachable.coherent hrun
  have hcall := Call.run_action_execute_eq_ok_iff.mpr hrun
  -- From here on it matters only which keeper the call leads to.
  generalize Call.execute actor policyId (.revealRegistration commitmentId proof) transaction =
    call at hcall
  have hreachable' := preserves_action MemoryEngine.keeps_reachable call _ hreachable
  have hkeeps' := hkeeps.perform (call :: calls)
  obtain ⟨later, hlater, hsurvives⟩ := commitment?_perform hkeeps hfound (call :: calls)
  obtain ⟨hpolicy', hsince'⟩ := eq_of_survives hsurvives
  rw [perform_cons, hcall] at hkeeps' hlater
  rw [hcall] at hreachable'
  refine ⟨_, later, hkeeps', preserves_perform (preserves_action MemoryEngine.keeps_reachable)
    calls hreachable', hlater, hpolicy'.trans hpolicy, fun howned => ?_⟩
  have hlast : (perform calls keeper').2.claim? policyId proof.object ≠ none := by
    intro hnone
    exact howned (hnone ▸ claim?_perform_mem_claims calls keeper')
  obtain ⟨last, hlast⟩ := Option.ne_none_iff_exists'.mp hlast
  have htenure := tenure_of_owned hreachable' howned hclaim hlast
  have hheight := htenure.height_add_le
  rw [hsince, ← hsince'] at hheight
  exact ⟨last, hlast, UInt64.le_iff_toNat_le.mpr (by omega)⟩

/-- **An opening works once as long as the object is owned.** In a run of calls from a new keeper
with an empty store, let a commitment have been opened for an object, and after some other calls let
it have been opened for the object again. Then nobody owned the object at some time in between. -/
theorem none_mem_claims_of_reveals {engine : MemoryEngine} (hengine : engine.Reachable)
    (authenticator : Authenticator) (params : Params)
    {start keeper keeper' : Keeper MemoryStore MemoryEngine}
    (hcreate : create ⟨.empty, engine⟩ authenticator params = .ok start)
    (earlier between : List Call) (commitmentId : UInt64) (actor actor' : Did)
    (policyId policyId' : String) (proof proof' : RegistrationProof)
    (hobject : proof'.object = proof.object) (transaction transaction' : Transaction)
    (outcome outcome' : CommandOutcome)
    (hfirst : (execute actor policyId (.revealRegistration commitmentId proof) transaction).run
      (perform earlier start).2 = (.ok outcome, keeper))
    (hsecond : (execute actor' policyId' (.revealRegistration commitmentId proof')
      transaction').run (perform between keeper).2 = (.ok outcome', keeper')) :
    none ∈ claims policyId proof.object between keeper := by
  have hstart : start.host.engine.Reachable := by
    obtain ⟨-, rfl⟩ := create_eq_ok_iff.mp hcreate
    exact hengine
  have hreachable := preserves_perform (preserves_action MemoryEngine.keeps_reachable) earlier
    hstart
  have hkeeps := (KeepsBook.of_create rfl hcreate).perform earlier
  obtain ⟨book', commitment, hkeeps', hreachable', hfound, hpolicy, hclaimed⟩ :=
    exists_commitment_of_reveal hkeeps hreachable hfirst between
  -- Both times it is the same commitment that is opened.
  obtain ⟨opened, -, hopened, hpolicy', -, -, hyounger⟩ :=
    commitment_of_reveal hkeeps'.kept hreachable'.coherent hsecond
  rw [hfound] at hopened
  obtain rfl := Option.some.inj hopened
  obtain rfl : policyId' = policyId := hpolicy'.symm.trans hpolicy
  by_contra howned
  -- The claim that the second opening finds would have to be younger than the commitment.
  obtain ⟨last, hlast, hle⟩ := hclaimed howned
  have hlt := hyounger last (by rw [hobject]; exact hlast)
  exact UInt64.lt_irrefl _ (UInt64.lt_of_lt_of_le hlt hle)

end Keeper

namespace Keeper

open Ledger

/-- Alice opens her commitment for the report, gives the report up and opens the commitment for it
once more, in four blocks one after the other. -/
theorem reveal_again :
    let calls : List Call :=
      [.execute alice "policy" (commit alice) (transaction 10),
        .execute alice "policy" (reveal 1) (transaction 11),
        .execute alice "policy" (.unregisterObject report) (transaction 12),
        .execute alice "policy" (reveal 1) (transaction 13)]
    (perform calls (created MemoryStore.empty)).1.map Except.isOk = [true, true, true, true] := by
  decide +kernel

/-- In such a run, nobody owns the report after it was given up. -/
theorem none_mem_claims_of_reveals_unregistered :
    let revealed (height : UInt64) := execute alice "policy" (reveal 1) (transaction height)
    let committed := Call.execute alice "policy" (commit alice) (transaction 10)
    let unregistered := Call.execute alice "policy" (.unregisterObject report) (transaction 12)
    let before := (perform [committed] (created MemoryStore.empty)).2
    let opened := ((revealed 11).run before).2
    let given := (perform [unregistered] opened).2
    ((revealed 11).run before).1.isOk = true ∧ ((revealed 13).run given).1.isOk = true ∧
      none ∈ claims "policy" report [unregistered] opened := by
  intro revealed committed unregistered before opened given
  have hfirst : ((revealed 11).run before).1.isOk = true := by decide +kernel
  have hsecond : ((revealed 13).run given).1.isOk = true := by decide +kernel
  obtain ⟨outcome, hfirst'⟩ := Action.exists_run_eq_ok hfirst
  obtain ⟨outcome', hsecond'⟩ := Action.exists_run_eq_ok hsecond
  have hnone := none_mem_claims_of_reveals (.createPolicy "policy" .empty)
    (created MemoryStore.empty).authenticator .default (create_eq_created _) [committed]
    [unregistered] 1 alice alice "policy" "policy" opening opening rfl (transaction 11)
    (transaction 13) outcome outcome' hfirst' hsecond'
  exact ⟨hfirst, hsecond, hnone⟩

end Keeper

end AccessControl
