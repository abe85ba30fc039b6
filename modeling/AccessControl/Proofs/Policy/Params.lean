import AccessControl.Policy.Params
import AccessControl.Proofs.Registration.Stored

/-!
# Valid parameters

Parameters are valid if commands and commitments have some time to be valid in, which JSON and
settings documents can write, and if an address can have the human-readable part.
-/

namespace AccessControl.Params

variable {params : Params}

theorem validate_eq_ok_iff : params.validate = .ok () ↔ params.defect? = none := by
  rw [validate]
  cases params.defect? <;> simp

/-- What is demanded of parameters. -/
theorem defect?_eq_none_iff : params.defect? = none ↔
    params.maxExpirationDelta ≠ 0 ∧ params.commitmentValidity.isZero = false ∧
      params.commitmentValidity.IsWhole ∧ isReadable params.addressReadable = true := by
  have hguard : ∀ {p : Prop} [Decidable p] {defect : ParamsDefect} {rest : Option ParamsDefect},
      (if p then some defect else rest) = none ↔ ¬ p ∧ rest = none := by
    intro p _ defect rest
    split <;> simp [*]
  have hreadable : defect?.readableDefect? params = none ↔
      isReadable params.addressReadable = true := by
    simp [defect?.readableDefect?]
  rw [defect?, hguard, hguard, Bool.not_eq_true]
  refine and_congr_right fun _ => and_congr_right fun _ => ?_
  cases params.commitmentValidity with
  | blockCount blocks => simpa [Validity.IsWhole] using hreadable
  | wall span => simp only [hguard, hreadable, Decidable.not_not, Validity.IsWhole]

/-- The default parameters are valid. -/
theorem validate_default : default.validate = .ok () :=
  validate_eq_ok_iff.mpr (Option.isNone_iff_eq_none.mp (by decide +kernel))

/-- Valid parameters give commitments a validity that JSON can write. -/
theorem isWhole_of_validate (h : params.validate = .ok ()) : params.commitmentValidity.IsWhole :=
  (defect?_eq_none_iff.mp (validate_eq_ok_iff.mp h)).2.2.1

/-- Valid parameters have a human-readable part that an address can have. -/
theorem isReadable_of_validate (h : params.validate = .ok ()) :
    isReadable params.addressReadable = true :=
  (defect?_eq_none_iff.mp (validate_eq_ok_iff.mp h)).2.2.2

end AccessControl.Params
