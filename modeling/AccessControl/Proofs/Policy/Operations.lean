import AccessControl.Proofs.Policy.CleanFailure

/-!
# Sequences of operations on the engine in memory

Whatever operations an engine in memory is asked for, of whomever and in whatever order, and whether
they succeed or fail, it stays in order (`MemoryEngine.inOrder_perform`). That its policies are
coherent is kept by every operation. It follows that the engine cannot be in doubt about who owns an
object, although registrations and other relationships are kept in one map and the first owner that
is found is the answer; and that nothing is left of the relationships on an object that was given up
or taken out of use.
-/

namespace AccessControl.MemoryEngine

/-- What an engine in memory can be asked to do. -/
inductive Operation where
  | createPolicy (policyId : String)
  | setRelationship (policyId : String) (relationship : Relationship) (provenance : Provenance)
  | deleteRelationship (policyId : String) (relationship : Relationship) (actor : Did)
  | register (policyId : String) (object : Object) (provenance : Provenance)
  | unregister (policyId : String) (object : Object) (actor : Did)
  | archive (policyId : String) (object : Object) (actor : Did)
  | unarchive (policyId : String) (object : Object) (actor : Did)
  | amend (policyId : String) (object : Object) (provenance : Provenance)

/-- The engine after an operation, which may have failed. -/
def after (engine : MemoryEngine) : Operation → MemoryEngine
  | .createPolicy policyId => (engine.createPolicy policyId).2
  | .setRelationship policyId relationship provenance =>
    ((RelationshipEngine.setRelationship policyId relationship provenance).run engine).2
  | .deleteRelationship policyId relationship actor =>
    ((RelationshipEngine.deleteRelationship policyId relationship actor).run engine).2
  | .register policyId object provenance =>
    ((RelationshipEngine.register policyId object provenance).run engine).2
  | .unregister policyId object actor =>
    ((RelationshipEngine.unregister policyId object actor).run engine).2
  | .archive policyId object actor =>
    ((RelationshipEngine.archive policyId object actor).run engine).2
  | .unarchive policyId object actor =>
    ((RelationshipEngine.unarchive policyId object actor).run engine).2
  | .amend policyId object provenance =>
    ((RelationshipEngine.amend policyId object provenance).run engine).2

/-- The engine after some operations. -/
def perform (operations : List Operation) (engine : MemoryEngine) : MemoryEngine :=
  operations.foldl after engine

variable {engine : MemoryEngine}

theorem Reachable.after (h : Reachable engine) (operation : Operation) :
    Reachable (engine.after operation) := by
  cases operation with
  | createPolicy => exact h.createPolicy _
  | setRelationship => exact (failsClean.setRelationship _ _ _).preserves (fun _ _ _ => .setRelationship) _ h
  | deleteRelationship => exact (failsClean.deleteRelationship _ _ _).preserves (fun _ _ _ => .deleteRelationship) _ h
  | register => exact (failsClean.register _ _ _).preserves (fun _ _ _ => .register) _ h
  | unregister => exact (failsClean.unregister _ _ _).preserves (fun _ _ _ => .unregister) _ h
  | archive => exact (failsClean.archive _ _ _).preserves (fun _ _ _ => .archive) _ h
  | unarchive => exact (failsClean.unarchive _ _ _).preserves (fun _ _ _ => .unarchive) _ h
  | amend => exact (failsClean.amend _ _ _).preserves (fun _ _ _ => .amend) _ h

theorem Reachable.perform (h : Reachable engine) (operations : List Operation) :
    Reachable (perform operations engine) := by
  induction operations generalizing engine with
  | nil => exact h
  | cons operation operations ih => exact ih (h.after operation)

/-- An engine that is in order. -/
structure InOrder (engine : MemoryEngine) : Prop where
  /-- In every policy, each record is kept under its own relationship and names the policy; objects
  and relations have names; an object has one owner at most, who is the actor of the record; and
  other relationships are in use and on objects that are registered and in use. -/
  coherent : engine.Coherent
  /-- The owner that is found is the one that is on record. -/
  registration?_eq_iff : ∀ policyId object registration,
    RelationshipEngine.registration? engine policyId object = .ok (some registration) ↔
      ∃ relationship, relationship.object = object ∧ relationship.isOwnership ∧
        engine.record? policyId relationship = some registration
  /-- An object that is not registered, or is out of use, has no relationships but its ownership. -/
  record?_eq_none : ∀ policyId relationship, relationship.isOwnership = false →
    (∀ registration, RelationshipEngine.registration? engine policyId relationship.object =
      .ok (some registration) → registration.archived = true) →
    engine.record? policyId relationship = none

theorem Coherent.inOrder (h : engine.Coherent) : engine.InOrder where
  coherent := h
  registration?_eq_iff policyId object registration := by
    rw [h.registration?_eq_ok_some_iff]
    constructor
    · intro hrecord
      exact ⟨_, rfl, rfl, hrecord⟩
    · rintro ⟨relationship, rfl, hown, hrecord⟩
      rwa [← h.owner_eq hrecord hown]
  record?_eq_none policyId relationship hown harchived := by
    refine Option.eq_none_iff_forall_ne_some.mpr fun record hrecord => ?_
    obtain ⟨registration, hregistered, huse⟩ := h.registered hrecord hown
    rw [harchived registration (h.registration?_eq_ok_some_iff.mpr hregistered)] at huse
    cases huse

/-- **The engine is in order after every sequence of operations.** -/
theorem inOrder_perform (operations : List Operation) : (perform operations .empty).InOrder :=
  (Reachable.empty.perform operations).coherent.inOrder

end AccessControl.MemoryEngine
