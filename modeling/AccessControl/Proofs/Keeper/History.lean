import AccessControl.Proofs.Keeper.Calls

/-!
# What calls do to records

A record of the book is never lost or changed, except that it may be marked once
(`Marking.Survives`). A commitment is marked at the end of a block, if it has expired then; an
amendment is marked when it is disputed, by whom it took the object from (`Commitment.expiry`,
`Amendment.dispute`). Each call is such a step for each record, and the steps of a run add up
(`Keeper.survives_perform`).

New records are those that the results of the calls name, in this order, so their numbers are known
without looking at the store (`Book.map_id_commitments_afterResults` and its twin for amendments).
-/

namespace AccessControl

open Repository

/-! ### Marks -/

/-- A mark that calls may put on records. -/
structure Marking (α : Type) where
  isMarked : α → Bool
  mark : α → α
  /-- Whether a call may mark a record. -/
  Allows : Call → α → Prop
  isMarked_mark : ∀ record, isMarked (mark record) = true
  mark_eq_self : ∀ record, isMarked record = true → mark record = record

/-- At the end of a block, commitments that have expired may be marked. -/
def Commitment.expiry : Marking Commitment where
  isMarked := Commitment.expired
  mark := Commitment.asExpired
  Allows call commitment := ∃ now, call = .endBlock now ∧ commitment.isExpiredAt now = true
  isMarked_mark _ := rfl
  mark_eq_self commitment h := by rw [asExpired, ← h]

/-- An amendment may be disputed in its policy by whom it took the object from. -/
def Amendment.dispute : Marking Amendment where
  isMarked := Amendment.disputed
  mark := Amendment.asDisputed
  Allows call amendment := ∃ actor transaction, amendment.previousOwner = some actor ∧
    call = .execute actor amendment.policyId (.flagHijackAttempt amendment.id) transaction
  isMarked_mark _ := rfl
  mark_eq_self amendment h := by rw [asDisputed, ← h]

namespace Marking

variable {α : Type} {marking : Marking α} {call : Call} {calls : List Call}
  {record middle later : α}

/-- What may have become of a record after some calls: it is as it was, or it has been marked since,
and one of the calls could do so. -/
def Survives (marking : Marking α) (calls : List Call) (record later : α) : Prop :=
  later = record ∨
    marking.isMarked record = false ∧ later = marking.mark record ∧
      ∃ call ∈ calls, marking.Allows call record

theorem Survives.refl (calls : List Call) (record : α) : marking.Survives calls record record :=
  .inl rfl

/-- A call that may mark a record marks it, or has nothing to mark. -/
theorem Survives.of_allows (h : marking.Allows call record) :
    marking.Survives [call] record (marking.mark record) := by
  cases hmarked : marking.isMarked record with
  | true => exact .inl (marking.mark_eq_self record hmarked)
  | false => exact .inr ⟨hmarked, rfl, call, List.mem_singleton_self _, h⟩

/-- A mark is put on a record once at most. -/
theorem Survives.cons (hcall : marking.Survives [call] record middle)
    (hcalls : marking.Survives calls middle later) :
    marking.Survives (call :: calls) record later := by
  rcases hcall with rfl | ⟨hunmarked, rfl, first, hfirst, hallows⟩
  · rcases hcalls with rfl | ⟨hunmarked, hlater, other, hother, hallows⟩
    · exact .inl rfl
    · exact .inr ⟨hunmarked, hlater, other, List.mem_cons_of_mem _ hother, hallows⟩
  · obtain rfl := List.mem_singleton.mp hfirst
    rcases hcalls with rfl | ⟨hmarked, -⟩
    · exact .inr ⟨hunmarked, rfl, first, List.mem_cons_self .., hallows⟩
    · rw [marking.isMarked_mark] at hmarked
      cases hmarked

end Marking

/-! ### Changes to the book -/

namespace Repository.Book

variable {book : Book} {commitment : Commitment} {amendment : Amendment} {id : UInt64}

/-- A sweep marks the commitments that it returns. -/
theorem commitment?_afterSweep (h : book.commitment? id = some commitment)
    (marked : List Commitment) :
    (book.afterSweep marked).commitment? id =
      some (if marked.any (·.id = id) then commitment.asExpired else commitment) := by
  induction marked generalizing book commitment with
  | nil => exact h
  | cons first rest ih =>
    have hfirst : (book.expire first.id).commitment? id =
        some (if first.id = id then commitment.asExpired else commitment) := by
      rw [commitment?_expire, h]
      by_cases hid : id = first.id <;> simp [hid, eq_comm]
    rw [afterSweep, List.foldl_cons, ← afterSweep, ih hfirst]
    by_cases hid : first.id = id
    · simp [hid, Commitment.asExpired]
    · simp [hid]

/-- A commitment is found where it was when another one is added. -/
theorem commitment?_afterCommand (h : book.commitment? id = some commitment)
    (outcome : CommandOutcome) : (book.afterCommand outcome).commitment? id = some commitment := by
  cases outcome with
  | commitRegistrations added =>
    rw [afterCommand, Book.commitment?, addCommitment, find?, List.find?_append, ← find?,
      ← Book.commitment?, h, Option.some_or]
  | _ => exact h

theorem amendment?_addAmendment_of_eq_some (h : book.amendment? id = some amendment)
    (added : Amendment) : (book.addAmendment added).amendment? id = some amendment := by
  rw [Book.amendment?, addAmendment, find?, List.find?_append, ← find?, ← Book.amendment?, h,
    Option.some_or]

/-! ### Numbers of new records -/

theorem map_id_update {α : Type} (number : α → UInt64) (change : α → α)
    (hkeeps : ∀ record, number (change record) = number record) (id : UInt64) (records : List α) :
    (update number change id records).map number = records.map number := by
  rw [update, List.map_map]
  refine List.map_congr_left fun record _ => ?_
  rw [Function.comp_apply]
  split
  · rw [hkeeps]
  · rfl

theorem map_id_commitments_afterSweep (marked : List Commitment) :
    (book.afterSweep marked).commitments.map Commitment.id =
      book.commitments.map Commitment.id := by
  rw [commitments_afterSweep, List.map_map]
  refine List.map_congr_left fun commitment _ => ?_
  rw [Function.comp_apply]
  split <;> rfl

theorem map_id_commitments_afterResult (result : CallResult) :
    (book.afterResult result).commitments.map Commitment.id =
      book.commitments.map Commitment.id ++ result.commitment?.toList.map Commitment.id := by
  rcases result with error | outcome | marked
  · exact (List.append_nil _).symm
  · cases outcome with
    | commitRegistrations added => exact List.map_append
    | _ => exact (List.append_nil _).symm
  · exact (map_id_commitments_afterSweep marked).trans (List.append_nil _).symm

theorem map_id_amendments_afterResult (result : CallResult) :
    (book.afterResult result).amendments.map Amendment.id =
      book.amendments.map Amendment.id ++ result.amendment?.toList.map Amendment.id := by
  rcases result with error | outcome | marked
  · exact (List.append_nil _).symm
  · cases outcome with
    | revealRegistration record added => exact List.map_append
    | flagHijackAttempt disputed =>
      have hsame := map_id_update Amendment.id Amendment.asDisputed (fun _ => rfl)
        disputed.id book.amendments
      exact hsame.trans (List.append_nil _).symm
    | _ => exact (List.append_nil _).symm
  · exact (congrArg _ (amendments_afterSweep marked)).trans (List.append_nil _).symm

theorem map_id_commitments_afterResults (book : Book) (results : List CallResult) :
    (book.afterResults results).commitments.map Commitment.id =
      book.commitments.map Commitment.id ++
        (results.filterMap CallResult.commitment?).map Commitment.id := by
  induction results generalizing book with
  | nil => exact (List.append_nil _).symm
  | cons result rest ih =>
    rw [afterResults, List.foldl_cons, ← afterResults, ih, map_id_commitments_afterResult,
      List.append_assoc, ← List.map_append]
    cases h : result.commitment? <;> simp [h]

theorem map_id_amendments_afterResults (book : Book) (results : List CallResult) :
    (book.afterResults results).amendments.map Amendment.id =
      book.amendments.map Amendment.id ++
        (results.filterMap CallResult.amendment?).map Amendment.id := by
  induction results generalizing book with
  | nil => exact (List.append_nil _).symm
  | cons result rest ih =>
    rw [afterResults, List.foldl_cons, ← afterResults, ih, map_id_amendments_afterResult,
      List.append_assoc, ← List.map_append]
    cases h : result.amendment? <;> simp [h]

end Repository.Book

namespace Keeper

variable {σ ρ : Type} [Store σ] [LawfulStore σ] [RelationshipEngine ρ] {keeper : Keeper σ ρ}
  {book : Book} {commitment : Commitment} {amendment : Amendment} {id : UInt64}

/-! ### What one call does to a record -/

/-- **A call loses no commitment.** -/
theorem commitment?_action (hkeeps : KeepsBook book keeper)
    (h : book.commitment? id = some commitment) (call : Call) :
    ∃ later, (book.afterResult (call.action.run keeper).1).commitment? id = some later ∧
      Commitment.expiry.Survives [call] commitment later := by
  cases call with
  | execute actor policyId command transaction =>
    rw [Call.run_action_execute]
    rcases (execute actor policyId command transaction).run keeper with ⟨result, keeper'⟩
    cases result with
    | error error => exact ⟨commitment, h, .refl ..⟩
    | ok outcome => exact ⟨commitment, Book.commitment?_afterCommand h outcome, .refl ..⟩
  | endBlock now =>
    rw [Call.run_action_endBlock]
    rcases hrun : (endBlock now).run keeper with ⟨result, keeper'⟩
    cases result with
    | error error => exact ⟨commitment, h, .refl ..⟩
    | ok marked =>
      obtain ⟨overlay, hsweep, -, -⟩ := run_endBlock_eq_ok_iff.mp hrun
      obtain ⟨-, -, hmarked⟩ := Host.kept_of_run_sweepExpired hkeeps.kept.ofStore hsweep
      have hafter := Book.commitment?_afterSweep h marked
      refine ⟨_, hafter, ?_⟩
      split
      · rename_i hany
        obtain ⟨other, hother, hid⟩ := List.any_eq_true.mp hany
        -- What was marked under this number is this commitment.
        obtain ⟨found, hfound, rfl, hexpired⟩ := hmarked other hother
        have hsame := hkeeps.kept.sound.commitment?_eq_some_iff.mpr ⟨hfound, of_decide_eq_true hid⟩
        rw [h] at hsame
        cases hsame
        exact .of_allows ⟨now, rfl, hexpired⟩
      · exact .refl ..

/-- **A call loses no amendment.** -/
theorem amendment?_action (hkeeps : KeepsBook book keeper)
    (h : book.amendment? id = some amendment) (call : Call) :
    ∃ later, (book.afterResult (call.action.run keeper).1).amendment? id = some later ∧
      Amendment.dispute.Survives [call] amendment later := by
  cases call with
  | execute actor policyId command transaction =>
    rw [Call.run_action_execute]
    rcases hrun : (execute actor policyId command transaction).run keeper with ⟨result, keeper'⟩
    cases result with
    | error error => exact ⟨amendment, h, .refl ..⟩
    | ok outcome =>
      obtain ⟨overlay, heffect, -, -⟩ := run_execute_eq_ok_iff.mp hrun
      cases outcome with
      | revealRegistration record added =>
        exact ⟨amendment, Book.amendment?_addAmendment_of_eq_some h added, .refl ..⟩
      | flagHijackAttempt disputed =>
        obtain ⟨rfl, found, hfound, -, rfl, hprevious⟩ := heffect.disputed_eq hkeeps.kept.ofStore
        show ∃ later, (book.dispute disputed.id).amendment? id = some later ∧ _
        rw [Book.amendment?_dispute, h]
        by_cases hid : id = disputed.id
        · -- What was disputed under this number is this amendment.
          rw [if_pos hid]
          rw [← hid, h] at hfound
          cases hfound
          have hnumber := (hkeeps.kept.sound.amendment?_eq_some_iff.mp h).2
          exact ⟨amendment.asDisputed, rfl, .of_allows ⟨actor, transaction, hprevious, by
            rw [hnumber, hid]⟩⟩
        · rw [if_neg hid]
          exact ⟨amendment, rfl, .refl ..⟩
      | _ => exact ⟨amendment, h, .refl ..⟩
  | endBlock now =>
    rw [Call.run_action_endBlock]
    rcases (endBlock now).run keeper with ⟨result, keeper'⟩
    cases result with
    | error error => exact ⟨amendment, h, .refl ..⟩
    | ok marked =>
      refine ⟨amendment, ?_, .refl ..⟩
      rw [← h]
      exact congrArg (find? Amendment.id · id) (Book.amendments_afterSweep marked)

/-- An amendment belongs to the policy of the call that made it. -/
theorem policyId_of_mem_amendments_action (hkeeps : KeepsBook book keeper) {call : Call}
    (h : amendment ∈ (book.afterResult (call.action.run keeper).1).amendments) :
    amendment.policyId ∈ call.policyId? ∨
      ∃ earlier ∈ book.amendments, earlier.policyId = amendment.policyId := by
  cases call with
  | execute actor policyId command transaction =>
    rw [Call.run_action_execute] at h
    rcases hrun : (execute actor policyId command transaction).run keeper with ⟨result, keeper'⟩
    rw [hrun] at h
    cases result with
    | error error => exact .inr ⟨amendment, h, rfl⟩
    | ok outcome =>
      obtain ⟨overlay, heffect, -, -⟩ := run_execute_eq_ok_iff.mp hrun
      cases outcome with
      | revealRegistration record added =>
        obtain ⟨-, _, _, _, -, -, hadded⟩ := heffect.amendment_eq hkeeps.kept.ofStore
        rcases List.mem_append.mp h with hold | hnew
        · exact .inr ⟨amendment, hold, rfl⟩
        · rw [List.mem_singleton.mp hnew, hadded]
          exact .inl rfl
      | flagHijackAttempt disputed =>
        obtain ⟨earlier, hearlier, rfl⟩ := List.mem_map.mp h
        refine .inr ⟨earlier, hearlier, ?_⟩
        split <;> rfl
      | _ => exact .inr ⟨amendment, h, rfl⟩
  | endBlock now =>
    rw [Call.run_action_endBlock] at h
    rcases hrun : (endBlock now).run keeper with ⟨result, keeper'⟩
    rw [hrun] at h
    cases result with
    | error error => exact .inr ⟨amendment, h, rfl⟩
    | ok marked =>
      have hold : amendment ∈ (book.afterSweep marked).amendments := h
      rw [Book.amendments_afterSweep] at hold
      exact .inr ⟨amendment, hold, rfl⟩

/-! ### What runs do to records -/

/-- **What survives every call survives a run.** -/
theorem survives_perform {α : Type} {marking : Marking α} (lookup : Book → Option α)
    (haction : ∀ {keeper : Keeper σ ρ} {book : Book} {record : α}, KeepsBook book keeper →
      lookup book = some record → ∀ call : Call,
      ∃ later, lookup (book.afterResult (call.action.run keeper).1) = some later ∧
        marking.Survives [call] record later)
    {record : α} (hkeeps : KeepsBook book keeper) (h : lookup book = some record)
    (calls : List Call) :
    ∃ later, lookup (book.afterResults (perform calls keeper).1) = some later ∧
      marking.Survives calls record later := by
  induction calls generalizing keeper book record with
  | nil => exact ⟨record, h, .refl ..⟩
  | cons call calls ih =>
    obtain ⟨middle, hmiddle, hcall⟩ := haction hkeeps h call
    obtain ⟨later, hlater, hcalls⟩ := ih (hkeeps.action call) hmiddle
    rw [perform_cons, Book.afterResults, List.foldl_cons]
    exact ⟨later, hlater, hcall.cons hcalls⟩

/-- **No run loses a commitment.** -/
theorem commitment?_perform (hkeeps : KeepsBook book keeper)
    (h : book.commitment? id = some commitment) (calls : List Call) :
    ∃ later, (book.afterResults (perform calls keeper).1).commitment? id = some later ∧
      Commitment.expiry.Survives calls commitment later :=
  survives_perform (Book.commitment? · id) commitment?_action hkeeps h calls

/-- **No run loses an amendment.** -/
theorem amendment?_perform (hkeeps : KeepsBook book keeper)
    (h : book.amendment? id = some amendment) (calls : List Call) :
    ∃ later, (book.afterResults (perform calls keeper).1).amendment? id = some later ∧
      Amendment.dispute.Survives calls amendment later :=
  survives_perform (Book.amendment? · id) amendment?_action hkeeps h calls

/-- The amendments of a run belong to the policies of its calls. -/
theorem policyId_of_mem_amendments_perform (hkeeps : KeepsBook book keeper) {calls : List Call}
    (h : amendment ∈ (book.afterResults (perform calls keeper).1).amendments) :
    (∃ call ∈ calls, amendment.policyId ∈ call.policyId?) ∨
      ∃ earlier ∈ book.amendments, earlier.policyId = amendment.policyId := by
  induction calls generalizing keeper book with
  | nil => exact .inr ⟨amendment, h, rfl⟩
  | cons call calls ih =>
    rw [perform_cons, Book.afterResults, List.foldl_cons] at h
    rcases ih (hkeeps.action call) h with ⟨later, hlater, hpolicy⟩ | ⟨middle, hmiddle, hsame⟩
    · exact .inl ⟨later, List.mem_cons_of_mem _ hlater, hpolicy⟩
    · rw [← hsame]
      rcases policyId_of_mem_amendments_action hkeeps hmiddle with hpolicy | hearlier
      · exact .inl ⟨call, List.mem_cons_self .., hpolicy⟩
      · exact .inr hearlier

end Keeper

end AccessControl
