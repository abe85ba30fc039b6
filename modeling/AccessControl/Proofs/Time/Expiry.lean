import AccessControl.Proofs.Time.Text

/-!
# Expiry in the course of time

Time passes when neither the height nor the wall time goes back. What has expired stays expired
(`Timestamp.expiredAt_of_le`). What was created within a leap second that no clock shows counts from
the next second once it has been written down, so it does not expire any earlier
(`Timestamp.expiredAt_of_expiredAt_civil`).
-/

namespace AccessControl

/-- An instant is not after another one. -/
instance : LE Instant where
  le s t := ¬ t < s

/-- A block is not after another one, neither by height nor by wall time. -/
instance : LE Timestamp where
  le s t := s.height ≤ t.height ∧ s.wall ≤ t.wall

instance (s t : Instant) : Decidable (s ≤ t) :=
  inferInstanceAs (Decidable (¬ t < s))

instance (s t : Timestamp) : Decidable (s ≤ t) :=
  inferInstanceAs (Decidable (s.height ≤ t.height ∧ s.wall ≤ t.wall))

theorem Instant.lt_of_lt_of_le {r s t : Instant} (h : r < s) (hle : s ≤ t) : r < t := by
  have hrs : r.second < s.second ∨ (r.second = s.second ∧ r.nano < s.nano) := h
  have hst : ¬ (t.second < s.second ∨ (t.second = s.second ∧ t.nano < s.nano)) := hle
  show r.second < t.second ∨ (r.second = t.second ∧ r.nano < t.nano)
  omega

theorem Instant.lt_of_le_of_lt {r s t : Instant} (hle : r ≤ s) (h : s < t) : r < t := by
  have hrs : ¬ (s.second < r.second ∨ (s.second = r.second ∧ s.nano < r.nano)) := hle
  have hst : s.second < t.second ∨ (s.second = t.second ∧ s.nano < t.nano) := h
  show r.second < t.second ∨ (r.second = t.second ∧ r.nano < t.nano)
  omega

theorem Instant.le_refl (t : Instant) : t ≤ t := by
  show ¬ (t.second < t.second ∨ (t.second = t.second ∧ t.nano < t.nano))
  omega

theorem Timestamp.le_refl (t : Timestamp) : t ≤ t :=
  ⟨UInt64.le_refl t.height, Instant.le_refl t.wall⟩

/-- A sum is not later than the one that starts from what a clock shows. -/
theorem Instant.exists_add?_le_of_civil {t sum : Instant} {span : Span}
    (h : t.civil.add? span = some sum) : ∃ sum', t.add? span = some sum' ∧ sum' ≤ sum := by
  by_cases hcivil : t.IsCivil
  · rw [civil_of_isCivil hcivil] at h
    exact ⟨sum, h, le_refl sum⟩
  · obtain ⟨hnano, -, -⟩ := second_lt_of_not_isCivil hcivil
    have hge := t.second_ge
    have hle := t.second_le
    have hlt := t.nano_lt
    have hleap : t.isLeap = true := decide_eq_true hnano
    -- The clock is past the leap second already, so its sum is one of ordinary seconds.
    rw [add?, isLeap_civil_of_not_isCivil hcivil, Bool.false_and, Bool.false_and,
      if_neg Bool.false_ne_true, second_civil hcivil, nano_civil hcivil, ofParts?] at h
    split at h
    · rename_i hrange
      obtain rfl := Option.some.inj h
      rw [add?, hleap]
      split
      · rename_i hstays
        simp only [Bool.true_and, Bool.and_eq_true, beq_iff_eq, decide_eq_true_eq] at hstays
        rw [ofParts?, dif_pos ⟨hge, hle, hstays.2⟩]
        refine ⟨_, rfl, ?_⟩
        show ¬ (_ ∨ _)
        dsimp only
        omega
      · have hrest : t.nano % 1000000000 = t.nano - 1000000000 := by omega
        rw [hrest, ofParts?, dif_pos (by omega)]
        refine ⟨_, rfl, ?_⟩
        show ¬ (_ ∨ _)
        dsimp only
        omega
    · cases h

namespace Timestamp

variable {created now s t : Timestamp}

theorem expiredAt_blockCount_iff_exists {blocks : UInt64} :
    created.expiredAt (.blockCount blocks) now = true ↔
      ∃ deadline, Word.add? created.height blocks = some deadline ∧ deadline < now.height := by
  rw [expiredAt]
  generalize Word.add? created.height blocks = sum
  cases sum with
  | none => simp
  | some deadline => simp

theorem expiredAt_wall_iff_exists {span : Span} :
    created.expiredAt (.wall span) now = true ↔
      ∃ deadline, span.measured?.bind created.wall.add? = some deadline ∧ deadline < now.wall := by
  rw [expiredAt]
  generalize span.measured?.bind created.wall.add? = sum
  cases sum with
  | none => simp
  | some deadline => simp

/-- **What has expired stays expired.** -/
theorem expiredAt_of_le {validity : Validity} (hle : s ≤ t)
    (h : created.expiredAt validity s = true) : created.expiredAt validity t = true := by
  cases validity with
  | blockCount blocks =>
    obtain ⟨deadline, hdeadline, hlt⟩ := expiredAt_blockCount_iff_exists.mp h
    exact expiredAt_blockCount_iff_exists.mpr
      ⟨deadline, hdeadline, UInt64.lt_of_lt_of_le hlt hle.1⟩
  | wall span =>
    obtain ⟨deadline, hdeadline, hlt⟩ := expiredAt_wall_iff_exists.mp h
    exact expiredAt_wall_iff_exists.mpr ⟨deadline, hdeadline, Instant.lt_of_lt_of_le hlt hle.2⟩

/-- **What has expired as it was written down has expired as it was.** -/
theorem expiredAt_of_expiredAt_civil {validity : Validity}
    (h : created.civil.expiredAt validity now = true) : created.expiredAt validity now = true := by
  cases validity with
  | blockCount blocks => exact h
  | wall span =>
    obtain ⟨deadline, hdeadline, hlt⟩ := expiredAt_wall_iff_exists.mp h
    obtain ⟨measured, hmeasured, hadd⟩ := Option.bind_eq_some_iff.mp hdeadline
    obtain ⟨deadline', hadd', hle⟩ := Instant.exists_add?_le_of_civil hadd
    exact expiredAt_wall_iff_exists.mpr ⟨deadline', Option.bind_eq_some_iff.mpr
      ⟨measured, hmeasured, hadd'⟩, Instant.lt_of_le_of_lt hle hlt⟩

theorem expiredAt_civil_eq_false {validity : Validity}
    (h : created.expiredAt validity now = false) : created.civil.expiredAt validity now = false :=
  Bool.eq_false_iff.mpr fun hexpired =>
    Bool.false_ne_true (h.symm.trans (expiredAt_of_expiredAt_civil hexpired))

end Timestamp

end AccessControl
