import AccessControl.Proofs.Policy.MemoryEngine
import AccessControl.Store.Faulty

/-!
# Engines that fail cleanly

An action fails cleanly if it changes nothing when it fails. That is not kept by `>>=`: what the
first action has changed stays when the second one fails. What is kept is weaker, that something
holds of the state after a failure (`Action.PreservesOnError`): the first action need only preserve
it, since it has succeeded when the second one fails.

`RelationshipEngine.FailsClean` says of an engine that all its operations fail cleanly. The engine
in memory is one although it works in place and undoes nothing: each of its operations makes all its
checks before its first write, and writes cannot fail (`Action.Total`). An engine that is made to
fail stays one.
-/

namespace AccessControl

namespace Action

variable {σ τ ε δ α β : Type} {holds : σ → Prop}

/-- An action after whose failure something holds of the state if it did before. -/
def PreservesOnError (holds : σ → Prop) (action : Action σ ε α) : Prop :=
  ∀ state error, holds state → (action.run state).1 = .error error → holds (action.run state).2

theorem Preserves.onError {action : Action σ ε α} (h : action.Preserves holds) :
    action.PreservesOnError holds :=
  fun state _ hstate _ => h state hstate

/-- What changes nothing when it fails keeps everything when it fails. -/
theorem FailsClean.preservesOnError {action : Action σ ε α} (h : action.FailsClean) :
    action.PreservesOnError holds := by
  intro state error hstate hrun
  rw [h state error hrun]
  exact hstate

/-- A failure leads to the state from which it started. -/
theorem FailsClean.exists_run_eq {action : Action σ ε α} (h : action.FailsClean) {state : σ}
    (hfailed : (action.run state).1.isOk = false) :
    ∃ error, action.run state = (.error error, state) := by
  rcases hrun : action.run state with ⟨result, final⟩
  rw [hrun] at hfailed
  cases result with
  | error error =>
    have hfinal := h state error (congrArg Prod.fst hrun)
    rw [hrun] at hfinal
    obtain rfl : final = state := hfinal
    exact ⟨error, rfl⟩
  | ok value => cases hfailed

/-- If the second action fails, the first one has succeeded. -/
theorem PreservesOnError.bind {action : Action σ ε β} {next : β → Action σ ε α}
    (h : action.Preserves holds) (hnext : ∀ value, (next value).PreservesOnError holds) :
    (action >>= next).PreservesOnError holds := by
  intro state error hstate hrun
  have hmiddle := h state hstate
  rw [run_bind] at hrun ⊢
  rcases haction : action.run state with ⟨result, middle⟩
  rw [haction] at hmiddle hrun
  cases result with
  | error first => exact hmiddle
  | ok value => exact hnext value middle error hmiddle hrun

/-- An action that cannot fail. -/
def Total (action : Action σ ε α) : Prop :=
  ∀ state, ∃ value final, action.run state = (.ok value, final)

/-- If the second action cannot fail, the first one has failed. -/
theorem PreservesOnError.bind_ok {action : Action σ ε β} {next : β → Action σ ε α}
    (h : action.PreservesOnError holds) (hnext : ∀ first, (next first).Total) :
    (action >>= next).PreservesOnError holds := by
  intro state error hstate hrun
  rw [run_bind] at hrun ⊢
  rcases haction : action.run state with ⟨result, middle⟩
  rw [haction] at hrun
  cases result with
  | error first =>
    have hmiddle := h state first hstate
    rw [haction] at hmiddle
    exact hmiddle rfl
  | ok first =>
    obtain ⟨value, final, hok⟩ := hnext first middle
    simp only [hok] at hrun
    cases hrun

theorem PreservesOnError.mapError {action : Action σ ε α} (h : action.PreservesOnError holds)
    (rename : ε → δ) : (action.mapError rename).PreservesOnError holds := by
  intro state error hstate hrun
  rw [run_mapError] at hrun ⊢
  rcases haction : action.run state with ⟨result, final⟩
  rw [haction] at hrun
  cases result with
  | error first =>
    have hfinal := h state first hstate
    rw [haction] at hfinal
    exact hfinal rfl
  | ok value => cases hrun

theorem PreservesOnError.within {action : Action σ ε α} {part : τ → σ} {update : τ → σ → τ}
    {holds' : τ → Prop} (h : action.PreservesOnError holds)
    (hpart : ∀ state, holds' state → holds (part state))
    (hupdate : ∀ state inner, holds' state → holds inner → holds' (update state inner)) :
    (action.within part update).PreservesOnError holds' := by
  intro state error hstate hrun
  rw [run_within] at hrun ⊢
  exact hupdate _ _ hstate (h _ error (hpart state hstate) hrun)

/-! ### Checks before writes -/

theorem total_pure (value : α) : (pure value : Action σ ε α).Total :=
  fun state => ⟨value, state, rfl⟩

theorem total_change (step : σ → α × σ) : (change step : Action σ ε α).Total :=
  fun state => ⟨(step state).1, (step state).2, rfl⟩

theorem Total.bind {action : Action σ ε β} {next : β → Action σ ε α} (h : action.Total)
    (hnext : ∀ value, (next value).Total) : (action >>= next).Total := by
  intro state
  obtain ⟨first, middle, hfirst⟩ := h state
  obtain ⟨value, final, hvalue⟩ := hnext first middle
  exact ⟨value, final, run_bind_eq_ok_iff.mpr ⟨first, middle, hfirst, hvalue⟩⟩

theorem Total.failsClean {action : Action σ ε α} (h : action.Total) : action.FailsClean := by
  intro state error hrun
  obtain ⟨value, final, hok⟩ := h state
  rw [hok] at hrun
  cases hrun

theorem failsClean_throw (error : ε) : (throw error : Action σ ε α).FailsClean :=
  fun _ _ _ => rfl

/-- What cannot fail may come last. -/
theorem FailsClean.bind_total {action : Action σ ε β} {next : β → Action σ ε α}
    (h : action.FailsClean) (hnext : ∀ value, (next value).Total) :
    (action >>= next).FailsClean := by
  intro state error hrun
  have hkept : (action >>= next).PreservesOnError (· = state) :=
    h.preservesOnError.bind_ok hnext
  exact hkept state error rfl hrun

/-- Looking at the state changes nothing. -/
theorem FailsClean.read_bind {view : σ → Except ε β} {next : β → Action σ ε α}
    (hnext : ∀ value, (next value).FailsClean) : (read view >>= next).FailsClean := by
  intro state error hrun
  rw [run_bind, run_read] at hrun ⊢
  cases hview : view state with
  | error first => rfl
  | ok value =>
    rw [hview] at hrun
    exact hnext value state error hrun

theorem FailsClean.within {action : Action σ ε α} {part : τ → σ} {update : τ → σ → τ}
    (h : action.FailsClean) (hupdate : ∀ state, update state (part state) = state) :
    (action.within part update).FailsClean := by
  intro state error hrun
  rw [run_within] at hrun ⊢
  show update state (action.run (part state)).2 = state
  rw [h (part state) error hrun, hupdate]

/-- What holds after every success holds after every run that changes nothing when it fails. -/
theorem FailsClean.preserves {action : Action σ ε α} (hclean : action.FailsClean)
    (h : ∀ state value final, holds state → action.run state = (.ok value, final) → holds final) :
    action.Preserves holds := by
  intro state hstate
  rcases hrun : action.run state with ⟨result, final⟩
  cases result with
  | error error =>
    have hfinal := hclean state error (congrArg Prod.fst hrun)
    rw [hrun] at hfinal
    obtain rfl : final = state := hfinal
    exact hstate
  | ok value => exact h state value final hstate hrun

end Action

/-- An engine whose operations change nothing when they fail. -/
structure RelationshipEngine.FailsClean (ρ : Type) [RelationshipEngine ρ] : Prop where
  setRelationship : ∀ policyId relationship provenance,
    (setRelationship policyId relationship provenance : Action ρ EngineError _).FailsClean
  deleteRelationship : ∀ policyId relationship actor,
    (deleteRelationship policyId relationship actor : Action ρ EngineError _).FailsClean
  register : ∀ policyId object provenance,
    (register policyId object provenance : Action ρ EngineError _).FailsClean
  unregister : ∀ policyId object actor,
    (unregister policyId object actor : Action ρ EngineError _).FailsClean
  archive : ∀ policyId object actor,
    (archive policyId object actor : Action ρ EngineError _).FailsClean
  unarchive : ∀ policyId object actor,
    (unarchive policyId object actor : Action ρ EngineError _).FailsClean
  amend : ∀ policyId object provenance,
    (amend policyId object provenance : Action ρ EngineError _).FailsClean

namespace MemoryEngine

variable (policyId : String) (relationship : Relationship) (object : Object) (actor : Did)
  (provenance : Provenance)

/-- Records that are put back as they were leave the engine as it was. -/
theorem failsClean_onPolicy {α : Type} {action : Action PolicyRecords EngineError α}
    (h : action.FailsClean) : (onPolicy policyId action).FailsClean := by
  intro engine error hrun
  rcases hrecords : engine.policies.get? policyId with _ | records
  · rw [onPolicy, Action.run_ofStep, hrecords]
  · rw [run_onPolicy hrecords] at hrun ⊢
    have hkept : (action.run records).2 = records := h records error hrun
    dsimp only
    rw [hkept, withPolicy_self hrecords]

theorem failsClean_setRelationship :
    (setRelationship policyId relationship provenance).FailsClean := by
  refine .read_bind fun _ => .read_bind fun found => ?_
  match found with
  | none => exact Action.failsClean_throw _
  | some (_, registration) =>
    dsimp only
    split
    · exact Action.failsClean_throw _
    · refine failsClean_onPolicy policyId (.read_bind fun existing => ?_)
      cases existing with
      | some record => exact (Action.total_pure _).failsClean
      | none => exact ((Action.total_change _).bind fun _ => Action.total_pure _).failsClean

theorem failsClean_deleteRelationship :
    (deleteRelationship policyId relationship actor).FailsClean := by
  refine .read_bind fun _ => .read_bind fun found => ?_
  cases found with
  | none => exact Action.failsClean_throw _
  | some registration =>
    refine failsClean_onPolicy policyId (Action.Total.failsClean ?_)
    exact (Action.total_change _).bind fun _ => Action.total_pure _

/-- Whether somebody else owns the object is seen before the record is set. -/
theorem failsClean_register : (register policyId object provenance).FailsClean := by
  refine .read_bind fun _ => failsClean_onPolicy policyId (.read_bind fun found => ?_)
  match found with
  | none => exact ((Action.total_change _).bind fun _ => Action.total_pure _).failsClean
  | some (_, record) =>
    dsimp only
    split
    · exact Action.failsClean_throw _
    · split
      · exact ((Action.total_change _).bind fun _ => Action.total_pure _).failsClean
      · exact (Action.total_pure _).failsClean

theorem failsClean_unregister : (unregister policyId object actor).FailsClean := by
  refine .read_bind fun found => ?_
  cases found with
  | none => exact (Action.total_pure _).failsClean
  | some registration =>
    refine failsClean_onPolicy policyId (Action.Total.failsClean ?_)
    exact (Action.total_change _).bind fun _ =>
      (Action.total_change _).bind fun _ => Action.total_pure _

theorem failsClean_archive : (archive policyId object actor).FailsClean := by
  refine .read_bind fun found => ?_
  match found with
  | none => exact (Action.total_pure _).failsClean
  | some (_, record) =>
    dsimp only
    split
    · exact (Action.total_pure _).failsClean
    · refine failsClean_onPolicy policyId (Action.Total.failsClean ?_)
      exact (Action.total_change _).bind fun _ =>
        (Action.total_change _).bind fun _ => Action.total_pure _

/-- The policy is looked up a second time, to set the record. -/
theorem failsClean_unarchive : (unarchive policyId object actor).FailsClean := by
  refine .read_bind fun found => ?_
  match found with
  | none => exact Action.failsClean_throw _
  | some (_, record) =>
    dsimp only
    split
    · refine Action.FailsClean.bind_total ?_ fun _ => Action.total_pure _
      exact failsClean_onPolicy policyId (Action.total_change _).failsClean
    · exact (Action.total_pure _).failsClean

/-- Between its two writes the object is nobody's, and nothing is checked there. -/
theorem failsClean_amend : (amend policyId object provenance).FailsClean := by
  refine failsClean_onPolicy policyId (.read_bind fun found => ?_)
  cases found with
  | none => exact Action.failsClean_throw _
  | some previous =>
    exact ((Action.total_change _).bind fun _ =>
      (Action.total_change _).bind fun _ => Action.total_pure _).failsClean

/-- **The engine in memory fails cleanly.** -/
theorem failsClean : RelationshipEngine.FailsClean MemoryEngine where
  setRelationship := failsClean_setRelationship
  deleteRelationship := failsClean_deleteRelationship
  register := failsClean_register
  unregister := failsClean_unregister
  archive := failsClean_archive
  unarchive := failsClean_unarchive
  amend := failsClean_amend

end MemoryEngine

namespace FaultyEngine

variable {ρ α : Type}

theorem failsClean_change {action : Action ρ EngineError α} (h : action.FailsClean) :
    (change action).FailsClean :=
  Action.FailsClean.read_bind fun _ => h.within fun _ => rfl

/-- An engine that is made to fail does so before it changes anything. -/
theorem failsClean [RelationshipEngine ρ] (h : RelationshipEngine.FailsClean ρ) :
    RelationshipEngine.FailsClean (FaultyEngine ρ) where
  setRelationship _ _ _ := failsClean_change (h.setRelationship _ _ _)
  deleteRelationship _ _ _ := failsClean_change (h.deleteRelationship _ _ _)
  register _ _ _ := failsClean_change (h.register _ _ _)
  unregister _ _ _ := failsClean_change (h.unregister _ _ _)
  archive _ _ _ := failsClean_change (h.archive _ _ _)
  unarchive _ _ _ := failsClean_change (h.unarchive _ _ _)
  amend _ _ _ := failsClean_change (h.amend _ _ _)

end FaultyEngine

end AccessControl
