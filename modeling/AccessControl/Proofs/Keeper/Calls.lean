import AccessControl.Proofs.Command.Recorded
import AccessControl.Proofs.Keeper.Run

/-!
# Calls one after the other

A run of the keeper is a list of calls, commands and ends of blocks, each of which may fail. What
they return says all that there is to say of the store: it keeps the book that the results make, one
change after the other (`Keeper.kept_perform`). A call that fails leaves the book as it is.
-/

namespace AccessControl

/-- A call to the keeper. -/
inductive Call where
  /-- To carry out a command of an actor in a policy. -/
  | execute (actor : Did) (policyId : String) (command : Command) (transaction : Transaction)
  /-- To mark expired commitments at the end of a block. -/
  | endBlock (now : Timestamp)

/-- What a call returns that does not fail. -/
inductive CallOutcome where
  | executed (outcome : CommandOutcome)
  | swept (marked : List Commitment)

/-- What a call returns. -/
abbrev CallResult := Except HandlerError CallOutcome

namespace CallResult

/-- The commitment that a call made, if it made one. -/
def commitment? : CallResult → Option Commitment
  | .ok (.executed (.commitRegistrations commitment)) => some commitment
  | _ => none

/-- The amendment that a call made, if it made one. -/
def amendment? : CallResult → Option Amendment
  | .ok (.executed (.revealRegistration _ amendment)) => some amendment
  | _ => none

/-- Whether a call opened a commitment. -/
def isReveal : CallResult → Bool
  | .ok (.executed (.revealRegistration _ _)) => true
  | _ => false

theorem commitment?_eq_some_iff {result : CallResult} {commitment : Commitment} :
    result.commitment? = some commitment ↔
      result = .ok (.executed (.commitRegistrations commitment)) := by
  constructor
  · intro h
    unfold commitment? at h
    split at h
    · cases h
      rfl
    · cases h
  · rintro rfl
    rfl

theorem amendment?_eq_some_iff {result : CallResult} {amendment : Amendment} :
    result.amendment? = some amendment ↔
      ∃ record, result = .ok (.executed (.revealRegistration record amendment)) := by
  constructor
  · intro h
    unfold amendment? at h
    split at h
    · cases h
      exact ⟨_, rfl⟩
    · cases h
  · rintro ⟨record, rfl⟩
    rfl

end CallResult

namespace Call

/-- The block in which a call is made. -/
def now : Call → Timestamp
  | execute _ _ _ transaction => transaction.now
  | endBlock now => now

/-- The policy in which a call acts, if it acts in one. -/
def policyId? : Call → Option String
  | execute _ policyId _ _ => some policyId
  | endBlock _ => none

/-- Whether a call commits an actor to registrations. -/
def isCommit : Call → Bool
  | execute _ _ (.commitRegistrations _) _ => true
  | _ => false

/-- Whether a call opens a commitment. -/
def isReveal : Call → Bool
  | execute _ _ (.revealRegistration _ _) _ => true
  | _ => false

variable {σ ρ : Type} [Store σ] [RelationshipEngine ρ]

/-- What a call does to the keeper. -/
def action : Call → Action (Keeper σ ρ) HandlerError CallOutcome
  | execute actor policyId command transaction => do
    return .executed (← Keeper.execute actor policyId command transaction)
  | endBlock now => do
    return .swept (← Keeper.endBlock now)

variable {keeper keeper' : Keeper σ ρ}

/-- A call does what the operation of the keeper does. -/
theorem run_action_execute (actor : Did) (policyId : String) (command : Command)
    (transaction : Transaction) :
    (execute actor policyId command transaction).action.run keeper =
      let (result, keeper') := (Keeper.execute actor policyId command transaction).run keeper
      (result.map .executed, keeper') := by
  rw [action, Action.run_bind]
  rcases (Keeper.execute actor policyId command transaction).run keeper with ⟨result, keeper'⟩
  cases result <;> rfl

theorem run_action_endBlock (now : Timestamp) :
    (endBlock now).action.run keeper =
      let (result, keeper') := (Keeper.endBlock now).run keeper
      (result.map .swept, keeper') := by
  rw [action, Action.run_bind]
  rcases (Keeper.endBlock now).run keeper with ⟨result, keeper'⟩
  cases result <;> rfl

theorem run_action_execute_eq_ok_iff {actor : Did} {policyId : String} {command : Command}
    {transaction : Transaction} {outcome : CommandOutcome} :
    (execute actor policyId command transaction).action.run keeper =
        (.ok (.executed outcome), keeper') ↔
      (Keeper.execute actor policyId command transaction).run keeper = (.ok outcome, keeper') := by
  simp only [action, Action.run_bind_eq_ok_iff, Action.run_pure_eq_ok_iff]
  constructor
  · rintro ⟨_, _, h, houtcome, rfl⟩
    cases houtcome
    exact h
  · intro h
    exact ⟨_, _, h, rfl, rfl⟩

end Call

namespace Keeper

variable {σ ρ : Type} [Store σ] [RelationshipEngine ρ]

/-- Makes calls one after the other, whether they fail or not, and collects what they return. -/
def perform : List Call → Keeper σ ρ → List CallResult × Keeper σ ρ
  | [], keeper => ([], keeper)
  | call :: rest, keeper =>
    let (result, keeper) := call.action.run keeper
    let (results, keeper) := perform rest keeper
    (result :: results, keeper)

variable {keeper keeper' : Keeper σ ρ} {calls rest : List Call} {call : Call}

theorem perform_cons :
    perform (call :: rest) keeper =
      ((call.action.run keeper).1 :: (perform rest (call.action.run keeper).2).1,
        (perform rest (call.action.run keeper).2).2) :=
  rfl

theorem perform_append :
    perform (calls ++ rest) keeper =
      ((perform calls keeper).1 ++ (perform rest (perform calls keeper).2).1,
        (perform rest (perform calls keeper).2).2) := by
  induction calls generalizing keeper with
  | nil => rfl
  | cons call calls ih =>
    rw [List.cons_append, perform_cons, perform_cons, ih]
    rfl

theorem length_perform : (perform calls keeper).1.length = calls.length := by
  induction calls generalizing keeper with
  | nil => rfl
  | cons call calls ih =>
    rw [perform_cons, List.length_cons, List.length_cons, ih]

/-- A run in which a call is made is a run before it, the call and a run after it. -/
theorem exists_of_perform_append {before after : List Call} {start : Keeper σ ρ}
    {results : List CallResult} (h : perform (before ++ call :: after) start = (results, keeper)) :
    ∃ earlier middle result next later, perform before start = (earlier, middle) ∧
      call.action.run middle = (result, next) ∧ perform after next = (later, keeper) ∧
      results = earlier ++ result :: later ∧ results[before.length]? = some result := by
  rw [perform_append, perform_cons] at h
  obtain ⟨rfl, rfl⟩ := Prod.mk.inj h
  refine ⟨_, _, _, _, _, rfl, rfl, rfl, rfl, ?_⟩
  rw [List.getElem?_append_right (Nat.le_of_eq length_perform), length_perform, Nat.sub_self]
  rfl

/-- What every call keeps, a run keeps. -/
theorem preserves_perform {holds : Keeper σ ρ → Prop}
    (h : ∀ call : Call, call.action.Preserves holds) (calls : List Call) (hkeeper : holds keeper) :
    holds (perform calls keeper).2 := by
  induction calls generalizing keeper with
  | nil => exact hkeeper
  | cons call calls ih =>
    rw [perform_cons]
    exact ih (h call keeper hkeeper)

/-! ### What calls leave alone -/

theorem preserves_action {holds : ρ → Prop} (h : Host.EngineKeeps holds) (call : Call) :
    call.action.Preserves fun keeper : Keeper σ ρ => holds keeper.host.engine := by
  cases call with
  | execute actor policyId command transaction =>
    exact (preserves_execute h _ _ _ _).bind fun _ => Action.preserves_pure _
  | endBlock now => exact (preserves_endBlock now).bind fun _ => Action.preserves_pure _

/-- Calls do not change the parameters. -/
theorem preserves_action_params (params : Params) (call : Call) :
    call.action.Preserves fun keeper : Keeper σ ρ => keeper.params = params := by
  have honHost : ∀ {α : Type} (action : Action (Host σ ρ) HandlerError α),
      (onHost action).Preserves fun keeper : Keeper σ ρ => keeper.params = params :=
    fun _ _ h => h
  cases call with
  | execute actor policyId command transaction =>
    exact ((Action.preserves_read _).bind fun _ => honHost _).bind fun _ => Action.preserves_pure _
  | endBlock now => exact (honHost _).bind fun _ => Action.preserves_pure _

end Keeper

/-! ### The book of a run -/

namespace Repository

/-- The book after a call. -/
def Book.afterResult (book : Book) : CallResult → Book
  | .ok (.executed outcome) => book.afterCommand outcome
  | .ok (.swept marked) => book.afterSweep marked
  | .error _ => book

/-- The book after some calls. -/
def Book.afterResults (book : Book) (results : List CallResult) : Book :=
  results.foldl afterResult book

/-- What a store keeps depends on its contents only. -/
theorem Kept.of_contents_eq {σ τ : Type} [Store σ] [LawfulStore σ] [Store τ] [LawfulStore τ]
    {book : Book} {store : σ} {store' : τ} (h : Kept book store)
    (heq : LawfulStore.contents store' = LawfulStore.contents store) : Kept book store' where
  sound := h.sound
  shows := heq ▸ h.shows

theorem Kept.ofStore {σ : Type} [Store σ] [LawfulStore σ] {book : Book} {store : σ}
    (h : Kept book store) : Kept book (Overlay.ofStore store) :=
  h.of_contents_eq (Overlay.contents_ofStore store)

end Repository

namespace Keeper

open Repository

variable {σ ρ : Type} [Store σ] [LawfulStore σ] [RelationshipEngine ρ] {keeper keeper' : Keeper σ ρ}
  {book : Book}

omit [RelationshipEngine ρ] in
/-- Held-back writes that have been made are in the store. -/
theorem contents_of_commit {store : σ} {overlay : Overlay σ}
    (hcommit : overlay.commit = (.ok (), store)) :
    LawfulStore.contents store = LawfulStore.contents overlay := by
  obtain ⟨final, hfinal, hcontents⟩ := Overlay.exists_commit overlay
  rw [hcommit] at hfinal
  cases hfinal
  exact hcontents

/-- Held-back writes are kept when they have been made. -/
theorem kept_of_commit {store : σ} {overlay : Overlay σ} (h : Kept book overlay)
    (hcommit : overlay.commit = (.ok (), store)) : Kept book store :=
  h.of_contents_eq (contents_of_commit hcommit)

/-- **What a call returns says what it left in the book.** -/
theorem kept_action (hkept : Kept book keeper.host.store)
    (hwhole : keeper.params.commitmentValidity.IsWhole) (call : Call) :
    Kept (book.afterResult (call.action.run keeper).1) (call.action.run keeper).2.host.store := by
  have hoverlay := hkept.ofStore
  cases call with
  | execute actor policyId command transaction =>
    rw [Call.run_action_execute]
    rcases hrun : (execute actor policyId command transaction).run keeper with ⟨result, keeper'⟩
    cases result with
    | error error =>
      show Kept book keeper'.host.store
      rw [store_eq_of_run_execute_eq_error hrun]
      exact hkept
    | ok outcome =>
      obtain ⟨overlay, heffect, hcommit, -⟩ := run_execute_eq_ok_iff.mp hrun
      exact kept_of_commit (heffect.kept hoverlay hwhole) hcommit
  | endBlock now =>
    rw [Call.run_action_endBlock]
    rcases hrun : (endBlock now).run keeper with ⟨result, keeper'⟩
    cases result with
    | error error =>
      show Kept book keeper'.host.store
      rw [store_eq_of_run_endBlock_eq_error hrun]
      exact hkept
    | ok marked =>
      obtain ⟨overlay, hsweep, hcommit, -⟩ := run_endBlock_eq_ok_iff.mp hrun
      exact kept_of_commit (Host.kept_of_run_sweepExpired hoverlay hsweep).1 hcommit

/-- A keeper whose store keeps a book, and that gives commitments a validity that JSON can write, so
that the store will keep a book after every call. -/
structure KeepsBook (book : Book) (keeper : Keeper σ ρ) : Prop where
  kept : Kept book keeper.host.store
  isWhole : keeper.params.commitmentValidity.IsWhole

namespace KeepsBook

omit [RelationshipEngine ρ] in
theorem of_create {store : σ} {engine : ρ} {authenticator : Authenticator} {params : Params}
    (hempty : LawfulStore.contents store = .empty)
    (h : create ⟨store, engine⟩ authenticator params = .ok keeper) : KeepsBook .empty keeper := by
  obtain ⟨hvalidate, rfl⟩ := create_eq_ok_iff.mp h
  exact ⟨.empty hempty, Params.isWhole_of_validate hvalidate⟩

theorem action (h : KeepsBook book keeper) (call : Call) :
    KeepsBook (book.afterResult (call.action.run keeper).1) (call.action.run keeper).2 := by
  have hparams := preserves_action_params keeper.params call keeper rfl
  exact ⟨kept_action h.kept h.isWhole call, by rw [hparams]; exact h.isWhole⟩

/-- **The store keeps the book that the results of the calls make.** -/
theorem perform (h : KeepsBook book keeper) (calls : List Call) :
    KeepsBook (book.afterResults (perform calls keeper).1) (perform calls keeper).2 := by
  induction calls generalizing keeper book with
  | nil => exact h
  | cons call calls ih =>
    rw [perform_cons, Book.afterResults, List.foldl_cons]
    exact ih (h.action call)

end KeepsBook

theorem kept_perform (hkept : Kept book keeper.host.store)
    (hwhole : keeper.params.commitmentValidity.IsWhole) (calls : List Call) :
    Kept (book.afterResults (perform calls keeper).1) (perform calls keeper).2.host.store :=
  (KeepsBook.perform ⟨hkept, hwhole⟩ calls).kept

end Keeper

end AccessControl
