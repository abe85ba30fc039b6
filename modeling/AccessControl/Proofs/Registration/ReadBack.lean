import AccessControl.Proofs.Keeper.Calls
import AccessControl.Proofs.Registration.Stored
import AccessControl.Proofs.Store.Lawful

/-!
# Which records survive being stored

All that the library keeps, it keeps as JSON text. JSON cuts a validity down to whole seconds
(`Validity.truncate`), writes an instant as a clock shows it (`Instant.civil`) and keeps everything
else. So a commitment is read back as it was exactly if its validity is whole and a clock can show
the time of its creation, and an amendment exactly if a clock can (`records_readBack`). The validity
of a new commitment is that of the parameters, and valid parameters have a whole one. A time that no
clock shows lies within a leap second after another second than the last one of its minute. No text
writes such a time, so it was not read from one (`Instant.isCivil_of_parse?`).

Nothing is assumed of the records beyond their types: any text as the name of a policy or of an
object, any decentralized identifier that can be read, all numbers of 64 bits, and all instants of
the calendar with those within leap seconds.
-/

namespace AccessControl

/-! ### What JSON keeps -/

/-- What JSON keeps of a validity. -/
def Validity.truncate : Validity → Validity
  | .blockCount blocks => .blockCount blocks
  | .wall span => .wall (.ofSeconds span.seconds)

namespace Validity

theorem isWhole_truncate (validity : Validity) : validity.truncate.IsWhole := by
  cases validity with
  | blockCount blocks => trivial
  | wall span => rfl

@[simp] theorem toJson_truncate (validity : Validity) :
    validity.truncate.toJson = validity.toJson := by
  cases validity <;> rfl

theorem truncate_eq_self_iff {validity : Validity} :
    validity.truncate = validity ↔ validity.IsWhole := by
  constructor
  · intro h
    rw [← h]
    exact validity.isWhole_truncate
  · intro h
    cases validity with
    | blockCount blocks => rfl
    | wall span =>
      obtain ⟨seconds, nanos, hnanos⟩ := span
      obtain rfl : nanos = 0 := h
      rfl

end Validity

namespace Commitment

/-- What JSON keeps of a commitment. -/
def truncate (commitment : Commitment) : Commitment :=
  { commitment.civil with validity := commitment.validity.truncate }

theorem truncate_eq_self_iff {commitment : Commitment} :
    commitment.truncate = commitment ↔
      commitment.validity.IsWhole ∧ commitment.createdAt.wall.IsCivil := by
  rw [← Validity.truncate_eq_self_iff, ← civil_eq_self_iff]
  constructor
  · intro h
    have hvalidity : commitment.validity.truncate = commitment.validity := congrArg validity h
    refine ⟨hvalidity, ?_⟩
    rwa [truncate, hvalidity] at h
  · rintro ⟨hvalidity, hcivil⟩
    rw [truncate, hvalidity]
    exact hcivil

/-- The text of a commitment is that of what JSON keeps of it, and this is whole. -/
theorem decodeRecord_render_eq (commitment : Commitment) (key : Bytes) :
    Store.decodeRecord ofJson? key commitment.toJson.render = .ok commitment.truncate := by
  -- The lemma for whole validities applies to the commitment that has the same text.
  let whole : Commitment := { commitment with validity := commitment.validity.truncate }
  have htext : whole.toJson = commitment.toJson := by
    simp [toJson, whole]
  rw [← htext]
  exact decodeRecord_render key commitment.validity.isWhole_truncate

theorem decodeRecord_render_iff {commitment : Commitment} {key : Bytes} :
    Store.decodeRecord ofJson? key commitment.toJson.render = .ok commitment ↔
      commitment.validity.IsWhole ∧ commitment.createdAt.wall.IsCivil := by
  rw [decodeRecord_render_eq, Except.ok.injEq, truncate_eq_self_iff]

end Commitment

theorem Amendment.decodeRecord_render_iff {amendment : Amendment} {key : Bytes} :
    Store.decodeRecord ofJson? key amendment.toJson.render = .ok amendment ↔
      amendment.provenance.createdAt.wall.IsCivil := by
  rw [decodeRecord_render, Except.ok.injEq, civil_eq_self_iff]

/-! ### Writing and reading -/

/-- A record that is written is found at its key, as whatever its text is read as. -/
theorem LawfulStore.exists_run_writeRecord {σ α : Type} [Store σ] [LawfulStore σ]
    (ofJson? : Json → Option α) (store : σ) (key : Bytes) (record : Json) :
    ∃ final, (Store.writeRecord key record).run store = (.ok (), final) ∧
      Store.record? ofJson? final key =
        (Store.decodeRecord ofJson? key record.render).map some := by
  obtain ⟨final, hrun, hcontents⟩ := exists_run_write store key record.render
  refine ⟨final, hrun, ?_⟩
  have hget : Store.get? final key = .ok (some record.render) := by
    rw [get?_eq, hcontents, SortedMap.get?_insert_self]
  rw [Store.record?, hget]
  show (Store.decodeRecord ofJson? key record.render >>= fun value => .ok (some value)) = _
  cases Store.decodeRecord ofJson? key record.render <;> rfl

/-- **Records that JSON can write read back as they were written.** The octets of a commitment decode
to this commitment exactly if its validity is whole and a clock can show the time of its creation,
those of an amendment exactly if a clock can, and so do the records that a store gives after it was
told to keep them. Parameters that pass their check have a whole validity, so they make no
commitment that would come back with another one. -/
theorem records_readBack {σ : Type} [Store σ] [LawfulStore σ] (store : σ) (key : Bytes) :
    (∀ commitment : Commitment,
      (Store.decodeRecord Commitment.ofJson? key commitment.toJson.render = .ok commitment ↔
        commitment.validity.IsWhole ∧ commitment.createdAt.wall.IsCivil) ∧
      ∃ final, (Store.writeRecord key commitment.toJson).run store = (.ok (), final) ∧
        (Store.record? Commitment.ofJson? final key = .ok (some commitment) ↔
          commitment.validity.IsWhole ∧ commitment.createdAt.wall.IsCivil)) ∧
    (∀ amendment : Amendment,
      (Store.decodeRecord Amendment.ofJson? key amendment.toJson.render = .ok amendment ↔
        amendment.provenance.createdAt.wall.IsCivil) ∧
      ∃ final, (Store.writeRecord key amendment.toJson).run store = (.ok (), final) ∧
        (Store.record? Amendment.ofJson? final key = .ok (some amendment) ↔
          amendment.provenance.createdAt.wall.IsCivil)) ∧
    ∀ params : Params, params.validate = .ok () → params.commitmentValidity.IsWhole := by
  refine ⟨?_, ?_, fun params => Params.isWhole_of_validate⟩
  · intro commitment
    obtain ⟨final, hrun, hread⟩ :=
      LawfulStore.exists_run_writeRecord Commitment.ofJson? store key commitment.toJson
    refine ⟨Commitment.decodeRecord_render_iff, final, hrun, ?_⟩
    rw [hread, Commitment.decodeRecord_render_eq, ← Commitment.truncate_eq_self_iff]
    simp [Except.map]
  · intro amendment
    obtain ⟨final, hrun, hread⟩ :=
      LawfulStore.exists_run_writeRecord Amendment.ofJson? store key amendment.toJson
    refine ⟨Amendment.decodeRecord_render_iff, final, hrun, ?_⟩
    rw [hread, Amendment.decodeRecord_render, ← Amendment.civil_eq_self_iff]
    simp [Except.map]

open Ledger

/-- Half a second into a leap second after 14:00:30, a clock shows half a second past 14:00:31. A
commitment of this time is read as one of the later second. -/
theorem decodeRecord_render_leap :
    let created : Timestamp := ⟨⟨1718632830, 1500000000, by decide, by decide, by decide⟩, 1⟩
    let shown : Timestamp := ⟨⟨1718632831, 500000000, by decide, by decide, by decide⟩, 1⟩
    let commitment (createdAt : Timestamp) : Commitment :=
      ⟨1, "policy", root alice, false, .blockCount 100, ⟨createdAt, alice, "source1", none⟩⟩
    (commitment created).validity.IsWhole ∧
      Store.decodeRecord Commitment.ofJson? [] (commitment created).toJson.render =
        .ok (commitment shown) ∧
      commitment shown ≠ commitment created := by
  intro created shown commitment
  have hshown : created.civil = shown := by decide
  refine ⟨trivial, ?_, ?_⟩
  · rw [Commitment.decodeRecord_render_eq, ← hshown]
    rfl
  · intro h
    have hcreated : shown = created := congrArg Commitment.createdAt h
    exact absurd hcreated (by decide)

end AccessControl
