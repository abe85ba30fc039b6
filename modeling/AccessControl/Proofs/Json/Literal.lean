import AccessControl.Json.Parser
import AccessControl.Json.Printer

/-!
# String literals are read back

An escaped octet is one piece of a literal, `Literal.piece`, and stands for the octet again. So the
pieces of a literal are read up to its closing mark and denote the text that was written.
-/

namespace AccessControl.Json

namespace Literal

/-- How an octet is read in a literal that the printer has written: octets below `0x20` without a
letter of their own are written by number. -/
def piece (b : UInt8) : Piece :=
  if b < 0x20 ∧ b ≠ 0x08 ∧ b ≠ 0x0c ∧ b ≠ 0x0a ∧ b ≠ 0x0d ∧ b ≠ 0x09 then .unit b.toNat
  else .octet b

theorem unit?_hexDigit : ∀ n < 32,
    unit? 0x30 0x30 (hexDigit (n / 16)) (hexDigit (n % 16)) = some n := by
  decide

theorem ofText_unit : ∀ n < 32, Bytes.ofText (Char.ofNat n).toString = [UInt8.ofNat n] := by
  decide +kernel

/-- A short escape is one piece. -/
theorem scan?_shortEscape {e b : UInt8} (h : shortEscape? e = some b) (he : e ≠ 0x75)
    (rest : Bytes) :
    scan? (0x5c :: e :: rest) = (scan? rest).map fun found => (.octet b :: found.1, found.2) := by
  rw [scan?]
  · rw [h]
    cases scan? rest <;> rfl
  · rintro a b c d rest' rfl rfl
    exact he rfl

/-- An octet that needs no escape is one piece. -/
theorem scan?_cons {b : UInt8} (hb : ¬ b < 0x20) (hmark : b ≠ 0x22) (hslash : b ≠ 0x5c)
    (rest : Bytes) :
    scan? (b :: rest) = (scan? rest).map fun found => (.octet b :: found.1, found.2) := by
  rw [scan?]
  · rw [if_neg (by simp [hb, hslash])]
    cases scan? rest <;> rfl
  · exact hmark
  · rintro a b c d rest' rfl
    exact absurd rfl hslash
  · rintro e rest' rfl
    exact absurd rfl hslash

/-- An escape by number is one piece. -/
theorem scan?_unit {n : Nat} (h : n < 32) (rest : Bytes) :
    scan? (0x5c :: 0x75 :: 0x30 :: 0x30 :: hexDigit (n / 16) :: hexDigit (n % 16) :: rest) =
      (scan? rest).map fun found => (.unit n :: found.1, found.2) := by
  rw [scan?, unit?_hexDigit n h]
  cases scan? rest <;> rfl

/-- An escaped octet is one piece. -/
theorem scan?_escape (b : UInt8) (rest : Bytes) :
    scan? (escape b ++ rest) = (scan? rest).map fun found => (piece b :: found.1, found.2) := by
  unfold escape
  split
  · rename_i h
    rcases h with rfl | rfl
    · exact scan?_shortEscape rfl (by decide) rest
    · exact scan?_shortEscape rfl (by decide) rest
  · rename_i h
    rw [not_or] at h
    split
    · rename_i hge
      have hlt : ¬ b < 0x20 := UInt8.not_lt.mpr hge
      rw [piece, if_neg fun hcontrol => hlt hcontrol.1]
      exact scan?_cons hlt h.1 h.2 rest
    · rename_i hge
      have hlt : b < 0x20 := UInt8.not_le.mp hge
      -- Five octets have a letter of their own, and the others are written by number.
      repeat'
        split
        · rename_i hletter
          subst hletter
          exact scan?_shortEscape rfl (by decide) rest
      rename_i h08 h0c h0a h0d h09
      rw [piece, if_pos ⟨hlt, h08, h0c, h0a, h0d, h09⟩]
      exact scan?_unit (UInt8.lt_iff_toNat_lt.mp hlt) rest

/-- A code unit that is no half of a pair stands for a character. -/
theorem octets?_unit {u : Nat} (h : u < 0xd800) (pieces : List Piece) :
    octets? (.unit u :: pieces) =
      (octets? pieces).map (Bytes.ofText (Char.ofNat u).toString ++ ·) := by
  have hfirst : ¬ (0xd800 ≤ u ∧ u < 0xdc00) := by omega
  have hsecond : ¬ (0xdc00 ≤ u ∧ u < 0xe000) := by omega
  have hunit : octets? (.unit u :: pieces) =
      (octets? pieces).bind fun octets =>
        some (Bytes.ofText (Char.ofNat u).toString ++ octets) := by
    cases pieces with
    | nil => simp [octets?, hfirst, hsecond]
    | cons first rest => cases first <;> simp [octets?, hfirst, hsecond]
  rw [hunit]
  cases octets? pieces <;> rfl

theorem octets?_piece (b : UInt8) (pieces : List Piece) :
    octets? (piece b :: pieces) = (octets? pieces).map (b :: ·) := by
  rw [piece]
  split
  · rename_i h
    have hlt : b.toNat < 32 := UInt8.lt_iff_toNat_lt.mp h.1
    rw [octets?_unit (by omega), ofText_unit _ hlt, UInt8.ofNat_toNat]
    rfl
  · rw [octets?]
    cases octets? pieces <;> rfl

/-- Escaped octets are read up to the closing mark. -/
theorem scan?_flatMap_escape (octets rest : Bytes) :
    scan? (octets.flatMap escape ++ 0x22 :: rest) = some (octets.map piece, rest) := by
  induction octets with
  | nil => rfl
  | cons b octets ih =>
    rw [List.flatMap_cons, List.append_assoc, scan?_escape, ih]
    rfl

theorem octets?_map_piece (octets : Bytes) : octets? (octets.map piece) = some octets := by
  induction octets with
  | nil => rfl
  | cons b octets ih =>
    rw [List.map_cons, octets?_piece, ih]
    rfl

/-- The pieces of a written text denote it. -/
theorem text?_map_piece (text : String) : text? ((Bytes.ofText text).map piece) = some text := by
  rw [text?, octets?_map_piece, Option.bind_some, Bytes.toText?_ofText]

/-- **A literal is read back** in front of any rest, whether it denotes a text or not. -/
theorem exists_scan?_literal (text : Option String) (rest : Bytes) :
    ∃ tail pieces, literal text ++ rest = 0x22 :: tail ∧ scan? tail = some (pieces, rest) ∧
      text? pieces = text := by
  cases text with
  | some text =>
    refine ⟨_, _, ?_, scan?_flatMap_escape (Bytes.ofText text) rest, text?_map_piece text⟩
    simp [literal]
  | none => exact ⟨_, [.unit 0xd800], rfl, rfl, rfl⟩

end Literal

end AccessControl.Json
