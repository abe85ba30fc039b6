import AccessControl.Proofs.Time.Expiry
import AccessControl.Proofs.Token.Signed

/-!
# Expiry in unbounded numbers

The last moment at which something is valid is computed in bounded numbers, and each bound is met in
its own way: a sum of heights that does not fit is never reached, and neither is a span too long to
be measured or a sum beyond the calendar, while the last height of a signed command saturates.

* `Timestamp.expiredAt_blockCount_iff`, `Timestamp.expiredAt_wall_iff` and
  `SignedCommand.lastValidHeight_lt_iff` say that none of this can be seen in the answer.
* `expiry_iff_exact` is their sum: what has expired is what would have expired in unbounded numbers.

For heights the reason is that the present is a word too. For wall time it is that the present is in
the calendar, and that the calendar is shorter than the longest span that is measured.
-/

namespace AccessControl

theorem Span.eq_of_measured? {span measured : Span} (h : span.measured? = some measured) :
    span = measured := by
  rw [measured?] at h
  split at h
  · exact Option.some.inj h
  · cases h

namespace Instant

/-- Nanoseconds since 1970-01-01T00:00:00Z, leap seconds not counted. -/
def toNanos (t : Instant) : Int :=
  t.second * 1000000000 + t.nano

theorem nano_lt_of_isLeap {t : Instant} (h : t.isLeap = false) : t.nano < 1000000000 := by
  have hnano : ¬ 1000000000 ≤ t.nano := of_decide_eq_false h
  omega

/-- Apart from leap seconds, instants are ordered as their nanoseconds. -/
theorem lt_iff_toNanos_lt {s t : Instant} (hs : s.isLeap = false) (ht : t.isLeap = false) :
    s < t ↔ s.toNanos < t.toNanos := by
  have hnanos := nano_lt_of_isLeap hs
  have hnanot := nano_lt_of_isLeap ht
  show s.second < t.second ∨ (s.second = t.second ∧ s.nano < t.nano) ↔ _
  unfold toNanos
  omega

/-- Outside of leap seconds the nanoseconds are carried into the seconds. -/
theorem add?_of_isLeap {t : Instant} (ht : t.isLeap = false) (span : Span) :
    t.add? span = ofParts?
      (t.second + span.seconds.toNat + ((t.nano + span.nanos) / 1000000000 : Nat))
      ((t.nano + span.nanos) % 1000000000) := by
  have hnano := nano_lt_of_isLeap ht
  rw [add?, ht, Bool.false_and, Bool.false_and, if_neg Bool.false_ne_true,
    Nat.mod_eq_of_lt hnano]

/-- A sum is exact, if there is one. -/
theorem toNanos_of_add? {t sum : Instant} {span : Span} (ht : t.isLeap = false)
    (h : t.add? span = some sum) :
    sum.isLeap = false ∧ sum.toNanos = t.toNanos + span.toNanos := by
  rw [add?_of_isLeap ht, ofParts?] at h
  split at h
  · obtain rfl := Option.some.inj h
    constructor
    · refine decide_eq_false ?_
      show ¬ 1000000000 ≤ (t.nano + span.nanos) % 1000000000
      omega
    · simp only [toNanos, Span.toNanos]
      omega
  · cases h

/-- There is a sum below every instant of the calendar. -/
theorem exists_add?_of_lt {t now : Instant} {span : Span} (ht : t.isLeap = false)
    (hnow : now.isLeap = false) (h : t.toNanos + span.toNanos < now.toNanos) :
    ∃ sum, t.add? span = some sum := by
  have hnano := nano_lt_of_isLeap ht
  have hnano' := nano_lt_of_isLeap hnow
  have hge := t.second_ge
  have hle := now.second_le
  simp only [toNanos, Span.toNanos] at h
  rw [add?_of_isLeap ht, ofParts?, dif_pos (by omega)]
  exact ⟨_, rfl⟩

/-- The longest span reaches from any instant beyond the calendar. -/
theorem measured?_of_lt {t now : Instant} {span : Span} (hnow : now.isLeap = false)
    (h : t.toNanos + span.toNanos < now.toNanos) : span.measured? = some span := by
  have hnano := nano_lt_of_isLeap hnow
  have hge := t.second_ge
  have hle := now.second_le
  simp only [toNanos, Span.toNanos] at h
  have hlt : span.seconds.toNat < 9223372036854775 := by omega
  rw [Span.measured?, if_pos (.inl (UInt64.lt_iff_toNat_lt.mpr hlt))]

end Instant

namespace Timestamp

variable {created now : Timestamp}

theorem expiredAt_blockCount_iff {blocks : UInt64} :
    created.expiredAt (.blockCount blocks) now = true ↔
      created.height.toNat + blocks.toNat < now.height.toNat := by
  rw [expiredAt_blockCount_iff_exists]
  constructor
  · rintro ⟨deadline, hdeadline, hlt⟩
    rw [Word.add?_eq_some_iff.mp hdeadline]
    exact UInt64.lt_iff_toNat_lt.mp hlt
  · intro hlt
    -- A sum below the present fits into a word.
    have hfits : created.height.toNat + blocks.toNat < UInt64.size :=
      Nat.lt_trans hlt now.height.toNat_lt
    refine ⟨created.height + blocks, by rw [Word.add?, if_pos hfits], ?_⟩
    rw [UInt64.lt_iff_toNat_lt, UInt64.toNat_add, Nat.mod_eq_of_lt hfits]
    exact hlt

theorem expiredAt_wall_iff {span : Span} (hcreated : created.wall.isLeap = false)
    (hnow : now.wall.isLeap = false) :
    created.expiredAt (.wall span) now = true ↔
      created.wall.toNanos + span.toNanos < now.wall.toNanos := by
  rw [expiredAt_wall_iff_exists]
  constructor
  · rintro ⟨deadline, hdeadline, hlt⟩
    obtain ⟨measured, hmeasured, hadd⟩ := Option.bind_eq_some_iff.mp hdeadline
    obtain rfl := Span.eq_of_measured? hmeasured
    obtain ⟨hleap, hnanos⟩ := Instant.toNanos_of_add? hcreated hadd
    rw [← hnanos]
    exact (Instant.lt_iff_toNanos_lt hleap hnow).mp hlt
  · intro hlt
    -- A span that ends before the present can be measured, and it ends in the calendar.
    obtain ⟨deadline, hadd⟩ := Instant.exists_add?_of_lt hcreated hnow hlt
    obtain ⟨hleap, hnanos⟩ := Instant.toNanos_of_add? hcreated hadd
    rw [← hnanos] at hlt
    refine ⟨deadline, ?_, (Instant.lt_iff_toNanos_lt hleap hnow).mpr hlt⟩
    rw [Instant.measured?_of_lt hnow (hnanos ▸ hlt), Option.bind_some, hadd]

end Timestamp

/-- **Bounded numbers do not change what has expired.** A number of blocks has passed exactly if the
sum of the numbers lies below the present height, for all words. A span of wall time has passed
exactly if the sum of the nanoseconds lies below those of the present, for all spans and all
instants outside of leap seconds. A height is past the last one of a signed command exactly if it is
past the sum of the height at which it was issued and its window. -/
theorem expiry_iff_exact :
    (∀ (created now : Timestamp) (blocks : UInt64),
      created.expiredAt (.blockCount blocks) now = true ↔
        created.height.toNat + blocks.toNat < now.height.toNat) ∧
    (∀ (created now : Timestamp) (span : Span),
      created.wall.isLeap = false → now.wall.isLeap = false →
      (created.expiredAt (.wall span) now = true ↔
        created.wall.toNanos + span.toNanos < now.wall.toNanos)) ∧
    ∀ (signed : SignedCommand) (now : Timestamp),
      signed.lastValidHeight < now.height ↔
        signed.issuedHeight.toNat + signed.expirationDelta.toNat < now.height.toNat :=
  ⟨fun _ _ _ => Timestamp.expiredAt_blockCount_iff,
    fun _ _ _ hcreated hnow => Timestamp.expiredAt_wall_iff hcreated hnow,
    fun _ _ => SignedCommand.lastValidHeight_lt_iff⟩

/-- From the first instant of the calendar to the last one, a nanosecond has passed, and the longest
span there is has not. -/
theorem expiry_iff_exact_first_last :
    let first : Instant := ⟨-8334601228800, 0, by decide, by decide, by decide⟩
    let last : Instant :=
      ⟨8210266876799, 999999999, by decide, by decide, by decide⟩
    let shortest : Span := ⟨0, 1, by decide⟩
    let longest : Span := ⟨Word.max, 999999999, by decide⟩
    let created : Timestamp := ⟨first, 0⟩
    let now : Timestamp := ⟨last, Word.max⟩
    (first.isLeap = false ∧ last.isLeap = false) ∧
    (created.expiredAt (.wall shortest) now = true ↔
      first.toNanos + shortest.toNanos < last.toNanos) ∧
    first.toNanos + shortest.toNanos < last.toNanos ∧
    (created.expiredAt (.wall longest) now = true ↔
      first.toNanos + longest.toNanos < last.toNanos) ∧
    ¬ first.toNanos + longest.toNanos < last.toNanos := by
  intro first last shortest longest created now
  have hfirst : first.isLeap = false := rfl
  have hlast : last.isLeap = false := rfl
  exact ⟨⟨hfirst, hlast⟩, expiry_iff_exact.2.1 created now shortest hfirst hlast, by decide,
    expiry_iff_exact.2.1 created now longest hfirst hlast, by decide⟩

end AccessControl
