import AccessControl.Proofs.Command.Agreement
import AccessControl.Proofs.Keeper.Calls

/-!
# Sweeps cannot be told from what commands return

A host is free to sweep expired commitments after every block, now and then, or never. Take two runs
of calls that make the same commands in the same blocks and differ in the sweeps between them: every
command returns the same in both, the engines are the same in the end, and the stores differ at most
in which commitments are marked as expired (`Keeper.perform_agrees_upToSweeps`).

Both runs are compared with the one without sweeps. `Keeper.AlikeAt` relates keepers whose stores
differ at most in marks, at a time at which all that is marked has expired. A command keeps the
relation whichever of the two it is carried out on (`Keeper.run_execute_alike`), a sweep on one side
keeps it as well (`Keeper.AlikeAt.endBlock`), and it is kept when time passes, because what has
expired stays expired.
-/

namespace AccessControl

open Repository

/-- Whether a call carries out a command. -/
def Call.isExecute : Call → Bool
  | execute _ _ _ _ => true
  | endBlock _ => false

namespace Keeper

variable {σ ρ α : Type} [Store σ]

/-- What the commands of a run return. -/
def commandResults [RelationshipEngine ρ] (calls : List Call) (keeper : Keeper σ ρ) :
    List CallResult :=
  ((calls.zip (perform calls keeper).1).filter fun made => made.1.isExecute).map Prod.snd

variable [LawfulStore σ] {now later : Timestamp} {keeper other : Keeper σ ρ}

/-- Two keepers differ at most in which commitments are marked, and only expired ones are. -/
structure AlikeAt (now : Timestamp) (keeper other : Keeper σ ρ) : Prop where
  hosts : Host.Alike (KeptAlike now) keeper.host other.host
  params_eq : keeper.params = other.params
  isWhole : keeper.params.commitmentValidity.IsWhole

/-- What has expired stays expired. -/
theorem AlikeAt.mono (h : AlikeAt now keeper other) (hle : now ≤ later) :
    AlikeAt later keeper other where
  hosts := by
    obtain ⟨⟨book, book', hkept, hkept', halike⟩, hengine⟩ := h.hosts
    exact ⟨⟨book, book', hkept, hkept', halike.mono hle⟩, hengine⟩
  params_eq := h.params_eq
  isWhole := h.isWhole

/-! ### Commands on both sides -/

/-- Actions that agree on held-back writes agree when the writes are made. -/
theorem agrees_buffered {action : Action (Host (Overlay σ) ρ) HandlerError α}
    (hagrees : action.Agrees (Host.Alike (KeptAlike now)) action)
    (hkeeps : ∀ store : σ,
      action.Preserves (Host.Holds (fun overlay => overlay.backend = store) fun _ => True)) :
    (buffered action).Agrees (Host.Alike (KeptAlike now)) (buffered action) := by
  rintro host other ⟨⟨book, book', hkept, hkept', halike⟩, hengine⟩
  have hbackend := (hkeeps host.store ⟨.ofStore host.store, host.engine⟩ ⟨rfl, trivial⟩).1
  have hbackend' := (hkeeps other.store ⟨.ofStore other.store, other.engine⟩ ⟨rfl, trivial⟩).1
  obtain ⟨hresult, hfinal, hengine'⟩ := hagrees ⟨.ofStore host.store, host.engine⟩
    ⟨.ofStore other.store, other.engine⟩
    ⟨⟨book, book', hkept.ofStore, hkept'.ofStore, halike⟩, hengine⟩
  rcases hrun : action.run ⟨.ofStore host.store, host.engine⟩ with ⟨result, overlay, engine⟩
  rcases hrun' : action.run ⟨.ofStore other.store, other.engine⟩ with ⟨result', overlay', engine'⟩
  rw [hrun] at hresult hfinal hengine' hbackend
  rw [hrun'] at hresult hfinal hengine' hbackend'
  obtain rfl : result = result' := hresult
  cases result with
  | error error =>
    -- The held-back writes are dropped on both sides.
    have hdropped : (buffered action).run host = (.error error, ⟨overlay.backend, engine⟩) := by
      rw [buffered, Action.run_ofStep, hrun]
    have hdropped' : (buffered action).run other = (.error error, ⟨overlay'.backend, engine'⟩) := by
      rw [buffered, Action.run_ofStep, hrun']
    rw [hdropped, hdropped']
    refine ⟨rfl, ⟨book, book', ?_, ?_, halike⟩, hengine'⟩
    · exact (show overlay.backend = host.store from hbackend) ▸ hkept
    · exact (show overlay'.backend = other.store from hbackend') ▸ hkept'
  | ok value =>
    obtain ⟨found, found', hfound, hfound', halike'⟩ := hfinal
    obtain ⟨store, hcommit, -⟩ := Overlay.exists_commit overlay
    obtain ⟨store', hcommit', -⟩ := Overlay.exists_commit overlay'
    have hmade : (buffered action).run host = (.ok value, ⟨store, engine⟩) :=
      run_buffered_eq_ok_iff.mpr ⟨overlay, hrun, hcommit⟩
    have hmade' : (buffered action).run other = (.ok value, ⟨store', engine'⟩) :=
      run_buffered_eq_ok_iff.mpr ⟨overlay', hrun', hcommit'⟩
    rw [hmade, hmade']
    exact ⟨rfl, ⟨found, found', kept_of_commit hfound hcommit, kept_of_commit hfound' hcommit',
      halike'⟩, hengine'⟩

variable [RelationshipEngine ρ]

/-- **A command returns the same on keepers that differ in marks of expired commitments only**, and
they differ in no more afterwards. -/
theorem run_execute_alike (actor : Did) (policyId : String) (command : Command)
    {transaction : Transaction} (h : AlikeAt transaction.now keeper other) :
    ((execute actor policyId command transaction).run keeper).1 =
        ((execute actor policyId command transaction).run other).1 ∧
      AlikeAt transaction.now ((execute actor policyId command transaction).run keeper).2
        ((execute actor policyId command transaction).run other).2 := by
  have hexecute : ∀ keeper : Keeper σ ρ, (execute actor policyId command transaction).run keeper =
      (onHost (buffered (Host.dispatch keeper.params actor policyId transaction command))).run
        keeper := by
    intro keeper
    rw [execute, Action.run_bind]
    rfl
  obtain ⟨hresult, hhosts⟩ := agrees_buffered
    (Host.agrees_dispatch h.isWhole actor policyId transaction command)
    (fun store => Host.preserves_dispatch (keeps_backend store) .always _ _ _ _ _)
    keeper.host other.host h.hosts
  rw [hexecute, hexecute, ← h.params_eq, onHost, Action.run_within, Action.run_within]
  exact ⟨hresult, hhosts, h.params_eq, h.isWhole⟩

/-! ### Sweeps on one side -/

omit [RelationshipEngine ρ] in
/-- **A sweep of one of two keepers can only make a difference in marks.** -/
theorem AlikeAt.endBlock (h : AlikeAt now keeper other) :
    AlikeAt now ((endBlock now).run keeper).2 other := by
  obtain ⟨⟨book, book', hkept, hkept', halike⟩, hengine⟩ := h.hosts
  have hengine' : ((Keeper.endBlock now).run keeper).2.host.engine = keeper.host.engine :=
    @preserves_endBlock σ ρ _ (· = keeper.host.engine) now keeper rfl
  rcases hrun : (Keeper.endBlock now).run keeper with ⟨result, final⟩
  rw [hrun] at hengine'
  have hfinal : ∃ book'', Kept book'' final.host.store ∧ book''.AlikeAt now book' := by
    cases result with
    | error error =>
      rw [store_eq_of_run_endBlock_eq_error hrun]
      exact ⟨book, hkept, halike⟩
    | ok marked =>
      obtain ⟨overlay, hsweep, hcommit, -⟩ := run_endBlock_eq_ok_iff.mp hrun
      obtain ⟨hswept, -, hmarked⟩ := Host.kept_of_run_sweepExpired hkept.ofStore hsweep
      refine ⟨book.afterSweep marked, kept_of_commit hswept hcommit, ?_, ?_, halike.marked_other⟩
      · rw [Book.allExpired_afterSweep, halike.allExpired_eq]
      · -- A number is that of one commitment, which is the one that was found expired.
        refine halike.marked.afterSweep fun commitment hcommitment found hfound hid => ?_
        obtain ⟨swept, hmem, rfl, hexpired⟩ := hmarked commitment hcommitment
        have hstored : book.commitment? swept.id = some found :=
          hkept.sound.commitment?_eq_some_iff.mpr ⟨hfound, hid⟩
        rw [hkept.sound.commitment?_eq_some_iff.mpr ⟨hmem, rfl⟩, Option.some.injEq] at hstored
        rw [← hstored]
        exact hexpired
  have hparams : final.params = keeper.params := by
    have hupdate : ((Keeper.endBlock now).run keeper).2.params = keeper.params := rfl
    rw [hrun] at hupdate
    exact hupdate
  obtain ⟨book'', hkept'', halike''⟩ := hfinal
  exact ⟨⟨⟨book'', book', hkept'', hkept', halike''⟩, hengine'.trans hengine⟩,
    hparams.trans h.params_eq, hparams ▸ h.isWhole⟩

/-! ### Runs -/

variable {calls rest : List Call}

/-- **A run with sweeps and the run of its commands alone**: the commands return the same, and the
keepers differ in marks only. -/
theorem commandResults_eq_perform (h : AlikeAt now keeper other)
    (hnow : ∀ call ∈ calls, now ≤ call.now)
    (horder : calls.Pairwise fun call call' => call.now ≤ call'.now) :
    commandResults calls keeper = (perform (calls.filter Call.isExecute) other).1 ∧
      ∃ later, AlikeAt later (perform calls keeper).2
        (perform (calls.filter Call.isExecute) other).2 := by
  induction calls generalizing now keeper other with
  | nil => exact ⟨rfl, now, h⟩
  | cons call calls ih =>
    obtain ⟨hafter, hrest⟩ := List.pairwise_cons.mp horder
    have hcall := h.mono (hnow call (List.mem_cons_self ..))
    cases call with
    | execute actor policyId command transaction =>
      obtain ⟨hresult, hnext⟩ := run_execute_alike actor policyId command hcall
      have hrun : ∀ keeper : Keeper σ ρ,
          (Call.execute actor policyId command transaction).action.run keeper =
            (((execute actor policyId command transaction).run keeper).1.map .executed,
              ((execute actor policyId command transaction).run keeper).2) :=
        fun _ => Call.run_action_execute ..
      obtain ⟨hresults, hfinal⟩ := ih hnext hafter hrest
      rw [List.filter_cons_of_pos rfl, perform_cons, perform_cons, hrun, hrun]
      refine ⟨?_, hfinal⟩
      rw [commandResults, perform_cons, hrun, List.zip_cons_cons, List.filter_cons_of_pos rfl,
        List.map_cons, ← hresults, ← hresult]
      rfl
    | endBlock time =>
      have hrun : (Call.endBlock time).action.run keeper =
          (((endBlock time).run keeper).1.map .swept, ((endBlock time).run keeper).2) :=
        Call.run_action_endBlock ..
      obtain ⟨hresults, hfinal⟩ := ih hcall.endBlock hafter hrest
      rw [List.filter_cons_of_neg Bool.false_ne_true, perform_cons, hrun]
      refine ⟨?_, hfinal⟩
      rw [commandResults, perform_cons, hrun, List.zip_cons_cons,
        List.filter_cons_of_neg Bool.false_ne_true, ← hresults]
      rfl

/-- **Sweeps cannot be told from what commands return.** Take two runs of a new keeper with an empty
store that carry out the same commands in the same blocks, in the course of time, and differ in
where and how often they sweep, if at all. Every command returns the same in both runs, value or
error; the engines are the same in the end; and the stores differ at most in which commitments are
marked as expired. -/
theorem perform_agrees_upToSweeps (engine : ρ) (authenticator : Authenticator) (params : Params)
    {start : Keeper MemoryStore ρ}
    (hcreate : create ⟨.empty, engine⟩ authenticator params = .ok start)
    {calls calls' : List Call}
    (hcommands : calls.filter Call.isExecute = calls'.filter Call.isExecute)
    (horder : calls.Pairwise fun call later => call.now ≤ later.now)
    (horder' : calls'.Pairwise fun call later => call.now ≤ later.now) :
    commandResults calls start = commandResults calls' start ∧
      (perform calls start).2.host.engine = (perform calls' start).2.host.engine ∧
      DifferInMarks (perform calls start).2.host.store (perform calls' start).2.host.store := by
  have hkeeps := KeepsBook.of_create rfl hcreate
  have hself : ∀ now, AlikeAt now start start := by
    intro now
    have hunmarked : Book.empty.MarkedBy now := fun _ h => by cases h
    exact ⟨⟨⟨.empty, .empty, hkeeps.kept, hkeeps.kept, rfl, hunmarked, hunmarked⟩, rfl⟩, rfl,
      hkeeps.isWhole⟩
  have hplain : ∀ calls : List Call, (calls.Pairwise fun call later => call.now ≤ later.now) →
      commandResults calls start = (perform (calls.filter Call.isExecute) start).1 ∧
        ∃ later, AlikeAt later (perform calls start).2
          (perform (calls.filter Call.isExecute) start).2 := by
    intro calls horder
    cases calls with
    | nil => exact ⟨rfl, ⟨⟨0, 0, by decide, by decide, by decide⟩, 0⟩, hself _⟩
    | cons first calls =>
      refine commandResults_eq_perform (hself first.now) (fun call hcall => ?_) horder
      rcases List.mem_cons.mp hcall with rfl | hcall
      · exact Timestamp.le_refl _
      · exact (List.pairwise_cons.mp horder).1 call hcall
  obtain ⟨hresults, _, hfinal⟩ := hplain calls horder
  obtain ⟨hresults', _, hfinal'⟩ := hplain calls' horder'
  rw [← hcommands] at hresults' hfinal'
  exact ⟨hresults.trans hresults'.symm, hfinal.hosts.2.trans hfinal'.hosts.2.symm,
    hfinal.hosts.1.differInMarks.trans hfinal'.hosts.1.differInMarks.symm⟩

end Keeper

namespace Keeper

open Ledger

/-- A commitment of block 1 that is valid for a block is opened in block 3, in one run after a sweep
that has marked it, and in the other without one. -/
theorem perform_agrees_upToSweeps_expired :
    let start : Keeper MemoryStore MemoryEngine :=
      { created .empty with params := { Params.default with commitmentValidity := .blockCount 1 } }
    let committed := Call.execute alice "policy" (commit alice) (transaction 1)
    let revealed := Call.execute alice "policy" (reveal 1) (transaction 3)
    let swept := [committed, .endBlock (transaction 3).now, revealed]
    let plain := [committed, revealed]
    ((perform swept start).1.map fun result => result.isOk) = [true, true, false] ∧
      (((perform swept start).1[1]?.bind Except.toOption).any fun outcome =>
        match outcome with
        | .swept marked => marked.map Commitment.id = [1]
        | .executed _ => false) ∧
      commandResults swept start = commandResults plain start ∧
      (perform swept start).2.host.engine = (perform plain start).2.host.engine ∧
      DifferInMarks (perform swept start).2.host.store (perform plain start).2.host.store := by
  intro start committed revealed swept plain
  have hvalid : start.params.validate = .ok () :=
    Params.validate_eq_ok_iff.mpr (Option.isNone_iff_eq_none.mp (by decide +kernel))
  have hcreate : create start.host start.authenticator start.params = .ok start :=
    create_eq_ok_iff.mpr ⟨hvalid, rfl⟩
  have horder : swept.Pairwise fun call later => call.now ≤ later.now := by decide +kernel
  have horder' : plain.Pairwise fun call later => call.now ≤ later.now := by decide +kernel
  refine ⟨by decide +kernel, by decide +kernel, ?_⟩
  have hcommands : swept.filter Call.isExecute = plain.filter Call.isExecute := rfl
  exact perform_agrees_upToSweeps _ _ _ hcreate hcommands horder horder'

end Keeper

end AccessControl
