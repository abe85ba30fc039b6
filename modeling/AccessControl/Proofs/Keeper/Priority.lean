import AccessControl.Proofs.Command.Openable
import AccessControl.Proofs.Keeper.History
import AccessControl.Proofs.Time.Expiry

/-!
# Whoever committed first has priority

An actor that committed itself to objects can open the commitment for each of them as long as it is
valid, whatever calls are made before and after and by whom. Only one thing stands in the way: that
somebody owns the object and registered it no later than the commitment was made
(`Keeper.reveal_decidedByPriority`).

A commitment stays in the book of the run as it was entered until a sweep marks it, and a sweep
marks only what has expired (`Keeper.mem_commitments_perform`). So it can be opened with every proof
that fits its root (`Keeper.openable_of_perform`), and there is such a proof for every object.
-/

namespace AccessControl

open Repository

/-! ### What calls leave in the book -/

theorem CallResult.isSome_amendment? (result : CallResult) :
    result.amendment?.isSome = result.isReveal := by
  rcases result with error | outcome | marked
  · rfl
  · cases outcome <;> rfl
  · rfl

/-- Amendments are counted by the commands that open commitments. -/
theorem Repository.Book.length_amendments_afterResults {book : Book}
    (results : List CallResult) :
    (book.afterResults results).amendments.length =
      book.amendments.length + results.countP CallResult.isReveal := by
  have hids := book.map_id_amendments_afterResults results
  have hlength := congrArg List.length hids
  rw [List.length_append, List.length_map, List.length_map, List.length_map,
    List.length_filterMap_eq_countP] at hlength
  rw [hlength]
  exact congrArg (_ + ·) (List.countP_congr fun result _ => by rw [result.isSome_amendment?])

namespace Keeper

variable {σ ρ : Type} [Store σ] [LawfulStore σ] [RelationshipEngine ρ] {keeper : Keeper σ ρ}
  {book : Book} {commitment : Commitment}

/-- **A commitment that has not expired stays in the book as it was**: a sweep that had marked it
would have found it expired, and then it still would be. -/
theorem mem_commitments_perform (hkeeps : KeepsBook book keeper)
    (hmem : commitment ∈ book.commitments) {calls : List Call} {now : Timestamp}
    (hnow : ∀ call ∈ calls, call.now ≤ now) (hvalid : commitment.isExpiredAt now = false) :
    commitment ∈ (book.afterResults (perform calls keeper).1).commitments := by
  have hfound := hkeeps.kept.sound.commitment?_eq_some_iff.mpr ⟨hmem, rfl⟩
  obtain ⟨later, hlater, hsurvives⟩ := commitment?_perform hkeeps hfound calls
  rcases hsurvives with rfl | ⟨-, -, call, hcall, swept, rfl, hexpired⟩
  · exact ((hkeeps.perform calls).kept.sound.commitment?_eq_some_iff.mp hlater).1
  · have hnever : commitment.isExpiredAt now = true :=
      Timestamp.expiredAt_of_le (hnow _ hcall) hexpired
    rw [hvalid] at hnever
    cases hnever

end Keeper

namespace Keeper

variable {σ : Type} [Store σ] [LawfulStore σ] {start keeper keeper' : Keeper σ MemoryEngine}
  {book : Book} {actor : Did} {policyId : String} {root : Digest} {commitment : Commitment}
  {transaction : Transaction} {command : Command} {outcome : CommandOutcome} {error : HandlerError}

/-! ### From the host to the keeper -/

/-- What has an effect on held-back writes is carried out. -/
theorem exists_run_execute {host' : Host (Overlay σ) MemoryEngine}
    (h : Host.Effect keeper.params actor policyId transaction
      ⟨Overlay.ofStore keeper.host.store, keeper.host.engine⟩ command outcome host') :
    ∃ keeper', (execute actor policyId command transaction).run keeper =
      (.ok outcome, keeper') := by
  obtain ⟨store, hcommit, -⟩ := Overlay.exists_commit host'.store
  exact ⟨{ keeper with host := ⟨store, host'.engine⟩ },
    run_execute_eq_ok_iff.mpr ⟨host'.store, h, hcommit, rfl⟩⟩

omit [LawfulStore σ] in
/-- A command that fails on held-back writes fails in the same way. -/
theorem exists_run_execute_eq_error {host' : Host (Overlay σ) MemoryEngine}
    (h : (Host.dispatch keeper.params actor policyId transaction command).run
      ⟨Overlay.ofStore keeper.host.store, keeper.host.engine⟩ = (.error error, host')) :
    ∃ keeper', (execute actor policyId command transaction).run keeper =
      (.error error, keeper') := by
  rw [execute, Action.run_bind]
  refine ⟨{ keeper with host := ⟨host'.store.backend, host'.engine⟩ }, ?_⟩
  show (onHost (buffered _)).run keeper = _
  rw [onHost, Action.run_within, buffered, Action.run_ofStep, h]

/-- What comes of opening a commitment, made in some block, for an object is decided by who owns the
object. -/
structure DecidedByPriority (actor : Did) (policyId : String) (object : Object)
    (commitmentId : UInt64) (since : Timestamp) (found : Option RelationshipRecord)
    (run : Except HandlerError CommandOutcome × Keeper σ MemoryEngine) : Prop where
  /-- The commitment is opened if nobody owns the object, or somebody that registered it later. -/
  isOk_iff : run.1.isOk = true ↔
    ∀ registration ∈ found, since.height < registration.provenance.createdAt.height
  /-- Then the actor owns the object, as of the block of the commitment. -/
  exists_registration : run.1.isOk = true → ∃ registration,
    run.2.registration? policyId object = .ok (some registration) ∧
      registration.owner = actor ∧ registration.provenance.createdAt = since
  /-- If not, an earlier registration is the reason. -/
  error_eq : ∀ error, run.1 = .error error → ∃ registration ∈ found,
    error = .priorClaim object registration.owner commitmentId since.height
      registration.provenance.createdAt.height

theorem decidedByPriority_of_openable {proof : RegistrationProof}
    {found : Option RelationshipRecord} (hkept : Kept book keeper.host.store)
    (hcoherent : keeper.host.engine.Coherent)
    (hregistration :
      RelationshipEngine.registration? keeper.host.engine policyId proof.object = .ok found)
    (h : Host.Openable book actor policyId commitment proof transaction.now) :
    DecidedByPriority actor policyId proof.object commitment.id commitment.createdAt found
      ((execute actor policyId (.revealRegistration commitment.id proof) transaction).run keeper)
    := by
  have hoverlay := hkept.ofStore
  by_cases hlater : ∀ registration ∈ found,
      commitment.createdAt.height < registration.provenance.createdAt.height
  · obtain ⟨outcome, host', heffect⟩ := h.exists_effect hoverlay hcoherent hregistration hlater
    obtain ⟨keeper', hrun⟩ := exists_run_execute heffect
    obtain ⟨overlay, heffect', -, -⟩ := run_execute_eq_ok_iff.mp hrun
    obtain ⟨registration, hfinal, howner, hsince⟩ :=
      h.exists_registration hoverlay hcoherent heffect'
    rw [hrun]
    refine ⟨iff_of_true rfl hlater, fun _ => ⟨registration, ?_, howner, hsince⟩, ?_⟩
    · rw [registration?, hfinal]
      rfl
    · intro error herror
      cases herror
  · obtain ⟨registration, hmem, hle⟩ : ∃ registration ∈ found,
        registration.provenance.createdAt.height ≤ commitment.createdAt.height := by
      simpa only [not_forall, UInt64.not_lt, exists_prop] using hlater
    obtain rfl : found = some registration := hmem
    obtain ⟨keeper', hrun⟩ := exists_run_execute_eq_error
      (h.run_dispatch_of_le hoverlay hregistration hle)
    rw [hrun]
    refine ⟨iff_of_false Bool.false_ne_true hlater, fun hok => ?_, ?_⟩
    · cases hok
    · intro error herror
      cases herror
      exact ⟨registration, rfl, rfl⟩

/-! ### Runs of calls -/

/-- What is committed is in the book then, and the policy exists. -/
theorem commitment_of_run_execute (hkept : Kept book keeper.host.store)
    (hwhole : keeper.params.commitmentValidity.IsWhole)
    (hrun : (execute actor policyId (.commitRegistrations root.octets) transaction).run keeper =
      (.ok (.commitRegistrations commitment), keeper')) :
    commitment = ⟨commitment.id, policyId, root, false, keeper.params.commitmentValidity,
        transaction.provenance actor⟩ ∧
      (keeper'.host.engine.policies.get? policyId).isSome := by
  obtain ⟨overlay, heffect, -, -⟩ := run_execute_eq_ok_iff.mp hrun
  have hoverlay := hkept.ofStore
  generalize hengine : keeper'.host.engine = engine at heffect ⊢
  cases heffect with
  | commitRegistrations hpolicy hroot hstore =>
    rw [Opening.rootOfOctets_octets] at hroot
    cases hroot
    exact ⟨(hoverlay.of_run_createCommitment hwhole hstore).2.1, Except.ok.inj hpolicy⟩

/-- A commitment that has not expired since it was made is in the book as it was written down, and
the policy exists. -/
theorem commitment_of_perform {calls : List Call} {results : List CallResult} {now : Timestamp}
    (hkept : Kept book start.host.store) (hwhole : start.params.commitmentValidity.IsWhole)
    (hrun : (execute actor policyId (.commitRegistrations root.octets) transaction).run start =
      (.ok (.commitRegistrations commitment), keeper))
    (hperform : perform calls keeper = (results, keeper')) (hnow : ∀ call ∈ calls, call.now ≤ now)
    (hvalid : transaction.now.expiredAt start.params.commitmentValidity now = false) :
    commitment = ⟨commitment.id, policyId, root, false, start.params.commitmentValidity,
        transaction.provenance actor⟩ ∧
      commitment.civil ∈ ((book.addCommitment commitment).afterResults results).commitments ∧
      (keeper'.host.engine.policies.get? policyId).isSome := by
  obtain ⟨hcommitment, hpolicy⟩ := commitment_of_run_execute hkept hwhole hrun
  have hcall := KeepsBook.action ⟨hkept, hwhole⟩
    (.execute actor policyId (.commitRegistrations root.octets) transaction)
  rw [Call.run_action_execute_eq_ok_iff.mpr hrun] at hcall
  have hmem : commitment.civil ∈ (book.addCommitment commitment).commitments :=
    List.mem_append_right _ (List.mem_singleton_self _)
  have hstands : commitment.civil.isExpiredAt now = false := by
    rw [hcommitment]
    exact Timestamp.expiredAt_civil_eq_false hvalid
  have hfinal := mem_commitments_perform hcall hmem hnow hstands
  have hexists := preserves_perform (preserves_action (MemoryEngine.keeps_policy policyId))
    calls hpolicy
  rw [hperform] at hfinal hexists
  exact ⟨hcommitment, hfinal, hexists⟩

/-- In a run, a proof of a committed object opens a commitment that has not expired since. -/
theorem openable_of_perform {earlier later : List Call} {committed : Transaction}
    {results : List CallResult} {proof : RegistrationProof} {now : Timestamp}
    (hkept : Kept book start.host.store) (hwhole : start.params.commitmentValidity.IsWhole)
    (hperform : perform (earlier ++ .execute actor policyId (.commitRegistrations root.octets)
      committed :: later) start = (results, keeper))
    (hroom : (book.afterResults results).amendments.length + 1 < UInt64.size)
    (hcommitted : results[earlier.length]?.bind CallResult.commitment? = some commitment)
    (hnow : ∀ call ∈ later, call.now ≤ now)
    (hvalid : committed.now.expiredAt start.params.commitmentValidity now = false)
    (hverify : Opening.verify root.octets policyId actor proof = .ok true) :
    Host.Openable (book.afterResults results) actor policyId commitment.civil proof now ∧
      commitment.createdAt = committed.now ∧
      (keeper.host.engine.policies.get? policyId).isSome := by
  obtain ⟨before, middle, result, next, after, hbefore, hcall, hafter, hresults, hresult⟩ :=
    exists_of_perform_append hperform
  rw [hresult, Option.bind_some, CallResult.commitment?_eq_some_iff] at hcommitted
  subst hcommitted
  have hmiddle := kept_perform hkept hwhole earlier
  have hparams : (perform earlier start).2.params = start.params :=
    preserves_perform (preserves_action_params start.params) earlier rfl
  rw [hbefore] at hmiddle hparams
  rw [← hparams] at hwhole hvalid
  obtain ⟨hcommitment, hmem, hpolicy⟩ := commitment_of_perform hmiddle hwhole
    (Call.run_action_execute_eq_ok_iff.mp hcall) hafter hnow hvalid
  have hbook : book.afterResults results =
      ((book.afterResults before).addCommitment commitment).afterResults after := by
    rw [hresults, Book.afterResults, List.foldl_append]
    rfl
  rw [← hbook] at hmem
  have hopenable :
      Host.Openable (book.afterResults results) actor policyId commitment.civil proof now :=
    { mem := hmem
      room := hroom
      expired_eq := congrArg Commitment.expired hcommitment
      isExpiredAt_eq := by
        rw [hcommitment]
        exact Timestamp.expiredAt_civil_eq_false hvalid
      policyId_eq := congrArg Commitment.policyId hcommitment
      owner_eq := congrArg Commitment.owner hcommitment
      verify_eq := by
        rw [hcommitment]
        exact hverify }
  exact ⟨hopenable, congrArg Commitment.createdAt hcommitment, hpolicy⟩

/-! ### Priority -/

/-- **Whoever committed first has priority.** In a run of calls from a new keeper with an empty
store, let an actor have committed itself to the root of some objects, and let the commitment not
have expired since. Whatever else was called, before and after, the actor can open it for each of
the objects: that is decided by who owns the object, and by nothing else. Then it owns the object as
of the time at which the commitment was made, as a clock shows it; this is the time itself, unless
no text can write it. The run must have opened fewer commitments than there are numbers for
amendments. -/
theorem reveal_decidedByPriority {engine : MemoryEngine} (hengine : engine.Reachable)
    (authenticator : Authenticator) (params : Params)
    {start keeper : Keeper MemoryStore MemoryEngine}
    (hcreate : create ⟨.empty, engine⟩ authenticator params = .ok start)
    (earlier later : List Call) (actor : Did) (policyId : String) (objects : List Object)
    {root : Digest} (hroot : Opening.root policyId actor objects = .ok root)
    (committed : Transaction) {results : List CallResult}
    (hperform : perform (earlier ++ .execute actor policyId (.commitRegistrations root.octets)
      committed :: later) start = (results, keeper))
    (hreveals : results.countP CallResult.isReveal < UInt64.size - 1)
    {commitment : Commitment}
    (hcommitted : results[earlier.length]?.bind CallResult.commitment? = some commitment)
    (transaction : Transaction) (hnow : ∀ call ∈ later, call.now ≤ transaction.now)
    (hvalid : committed.now.expiredAt params.commitmentValidity transaction.now = false)
    (hcount : objects.length < UInt64.size) (index : Nat) (hindex : index < objects.length)
    {proof : RegistrationProof} (hproof : Opening.proof policyId actor objects index = .ok proof) :
    ∃ found, keeper.registration? policyId objects[index] = .ok found ∧
      DecidedByPriority actor policyId objects[index] commitment.id committed.now.civil found
        ((execute actor policyId (.revealRegistration commitment.id proof) transaction).run
          keeper) := by
  obtain ⟨hvalidate, hstart⟩ := create_eq_ok_iff.mp hcreate
  have hwhole := Params.isWhole_of_validate hvalidate
  have hempty : Kept .empty start.host.store := by
    rw [hstart]
    exact .empty rfl
  have hparams : start.params = params := by rw [hstart]
  have hkept := kept_perform hempty (hparams ▸ hwhole) (earlier ++ .execute actor policyId
    (.commitRegistrations root.octets) committed :: later)
  have hreachable := preserves_perform (preserves_action MemoryEngine.keeps_reachable) (earlier ++
    .execute actor policyId (.commitRegistrations root.octets) committed :: later)
    (show start.host.engine.Reachable by rw [hstart]; exact hengine)
  rw [hperform] at hkept hreachable
  have hroom : (Book.empty.afterResults results).amendments.length + 1 < UInt64.size := by
    rw [Book.length_amendments_afterResults]
    show 0 + _ + 1 < _
    omega
  obtain ⟨opening, hopening, hobject, hverify⟩ := Opening.exists_proof_of_root hroot hcount hindex
  rw [hproof] at hopening
  obtain rfl := Except.ok.inj hopening
  have hverify := hverify root
  rw [decide_eq_true rfl] at hverify
  obtain ⟨hopenable, hsince, hpolicy⟩ := openable_of_perform hempty (hparams ▸ hwhole) hperform
    hroom hcommitted hnow (hparams ▸ hvalid) hverify
  obtain ⟨found, hfound⟩ := MemoryEngine.exists_registration?_eq hpolicy proof.object
  have hdecided := decidedByPriority_of_openable hkept hreachable.coherent hfound hopenable
  rw [show commitment.civil.createdAt = commitment.createdAt.civil from rfl, hsince,
    Commitment.id_civil] at hdecided
  rw [← hobject]
  exact ⟨found, mapError_eq_ok_iff.mpr hfound, hdecided⟩

end Keeper

namespace Keeper

open Ledger

/-- Alice commits herself to the report in block 1, bob registers it in block 2, and in block 3 the
commitment is opened all the same. -/
theorem reveal_decidedByPriority_takeover :
    let start := created MemoryStore.empty
    let calls : List Call :=
      [.execute alice "policy" (commit alice) (transaction 1),
        .execute bob "policy" (.registerObject report) (transaction 2)]
    let run := (execute alice "policy" (reveal 1) (transaction 3)).run (perform calls start).2
    ∃ found, (perform calls start).2.registration? "policy" report = .ok found ∧
      DecidedByPriority alice "policy" report 1 (transaction 1).now found run ∧
      run.1.isOk = true := by
  intro start calls run
  have hroot : Opening.root "policy" alice [report] = .ok (root alice) :=
    Opening.root_eq_ok_iff.mpr ⟨by decide, by simp [Merkle.root?, root, Opening.committedLeaf]⟩
  have hproof : Opening.proof "policy" alice [report] 0 = .ok opening := by
    have hpath : Merkle.path? [root alice] 0 = some [] := by
      rw [Merkle.path?, if_pos (by decide), Merkle.siblings?, dif_neg (by decide)]
    rw [Opening.proof, bind_eq_ok_iff]
    refine ⟨[root alice],
      Opening.leaves_eq_ok_iff.mpr ⟨List.cons_ne_nil _ _, by decide, rfl⟩, ?_⟩
    rw [hpath]
    rfl
  have hmade : ((perform calls start).1[0]?.bind CallResult.commitment?).map Commitment.id =
      some 1 := by
    decide +kernel
  obtain ⟨commitment, hcommitted, hid⟩ := Option.map_eq_some_iff.mp hmade
  have hnow : ∀ call ∈ [Call.execute bob "policy" (.registerObject report) (transaction 2)],
      call.now ≤ (transaction 3).now := by
    intro call hcall
    rw [List.mem_singleton.mp hcall]
    decide +kernel
  have hperform : perform ([] ++ .execute alice "policy" (commit alice) (transaction 1) ::
      [.execute bob "policy" (.registerObject report) (transaction 2)]) start =
      ((perform calls start).1, (perform calls start).2) := (Prod.eta _).symm
  have hreveals : (perform calls start).1.countP CallResult.isReveal < UInt64.size - 1 := by
    decide +kernel
  have hvalid : (transaction 1).now.expiredAt Params.default.commitmentValidity
      (transaction 3).now = false := by
    decide +kernel
  obtain ⟨found, hfound, hdecided⟩ := reveal_decidedByPriority
    (.createPolicy "policy" .empty) start.authenticator .default (create_eq_created _) [] _ alice
    "policy" [report] hroot (transaction 1) hperform hreveals hcommitted (transaction 3) hnow hvalid
    (by decide) 0 (by decide) hproof
  rw [hid, Timestamp.civil_eq_self_iff.mpr (by decide)] at hdecided
  -- The calls are carried out one by one before the last result is computed.
  have hkeeper : (perform calls start).2 = ((Call.execute bob "policy" (.registerObject report)
      (transaction 2)).action.run ((Call.execute alice "policy" (commit alice)
      (transaction 1)).action.run start).2).2 := by
    rw [show calls = [_, _] from rfl, perform_cons, perform_cons, perform]
  have hrun := congrArg (execute alice "policy" (reveal 1) (transaction 3)).run hkeeper
  refine ⟨found, hfound, hdecided, ?_⟩
  rw [show run = _ from hrun]
  decide +kernel

end Keeper

end AccessControl
