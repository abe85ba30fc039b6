import AccessControl.Proofs.Store.Lawful
import AccessControl.Store.Sequence

/-!
# Sequences in stores that are maps

In a lawful store, the next number of a sequence is one more than the last one, and handing it out
fails only if the last one was the largest word.
-/

namespace AccessControl.Sequence

variable {σ : Type} [Store σ] [LawfulStore σ] {sequence : Sequence} {store final : σ}
  {last number : UInt64}

open LawfulStore

theorem length_octets (number : UInt64) : (octets number).length = 8 :=
  Bytes.length_bigEndian ..

theorem current_eq_of_get?_eq_none (h : (contents store).get? sequence.key = none) :
    sequence.current store = .ok 0 := by
  rw [current, get?_eq, h]
  rfl

theorem current_eq_of_get?_eq_some (h : (contents store).get? sequence.key = some (octets last)) :
    sequence.current store = .ok last := by
  have hlength := length_octets last
  rw [current, get?_eq, h, bind_eq_ok_iff]
  refine ⟨_, rfl, ?_⟩
  simp only [if_pos hlength, ofOctets_octets]
  rfl

/-- A number that was handed out follows the last one and is the last one then. -/
theorem of_run_next (hcurrent : sequence.current store = .ok last)
    (h : sequence.next.run store = (.ok number, final)) :
    last.toNat + 1 = number.toNat ∧
      contents final = (contents store).insert sequence.key (octets number) := by
  simp only [next, Action.run_bind_eq_ok_iff, Action.run_read_eq_ok_iff] at h
  obtain ⟨last', _, ⟨hlast, rfl⟩, h⟩ := h
  rw [hcurrent] at hlast
  cases hlast
  cases hadd : Word.add? last 1 with
  | none =>
    rw [hadd] at h
    exact absurd h Action.run_throw_ne_ok
  | some sum =>
    rw [hadd] at h
    simp only [Action.run_bind_eq_ok_iff, Action.run_pure_eq_ok_iff] at h
    obtain ⟨_, _, hwrite, rfl, rfl⟩ := h
    exact ⟨Word.add?_eq_some_iff.mp hadd, contents_of_run_write hwrite⟩

/-- A number that follows the last one is handed out. -/
theorem exists_run_next (hcurrent : sequence.current store = .ok last)
    (hnumber : last.toNat + 1 = number.toNat) :
    ∃ final, sequence.next.run store = (.ok number, final) := by
  obtain ⟨final, hwrite, -⟩ := exists_run_write store sequence.key (octets number)
  have hadd : Word.add? last 1 = some number := Word.add?_eq_some_iff.mpr hnumber
  refine ⟨final, ?_⟩
  rw [next, Action.run_bind_eq_ok_iff]
  refine ⟨last, store, Action.run_read_eq_ok_iff.mpr ⟨hcurrent, rfl⟩, ?_⟩
  rw [hadd]
  exact Action.run_bind_eq_ok_iff.mpr ⟨(), final, hwrite, rfl⟩

omit [LawfulStore σ] in
/-- After the largest word there is no number, and nothing is written. -/
theorem run_next_eq_error (hcurrent : sequence.current store = .ok last)
    (hfull : UInt64.size ≤ last.toNat + 1) :
    sequence.next.run store = (.error .sequenceExhausted, store) := by
  have hadd : Word.add? last 1 = none := if_neg (Nat.not_lt.mpr hfull)
  have hread : (Action.read sequence.current).run store = (.ok last, store) :=
    Action.run_read_eq_ok_iff.mpr ⟨hcurrent, rfl⟩
  rw [next, Action.run_bind, hread]
  simp only [hadd]
  rfl

end AccessControl.Sequence
