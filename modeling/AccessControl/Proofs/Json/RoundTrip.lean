import AccessControl.Proofs.Json.Literal
import AccessControl.Proofs.Json.Number

/-!
# Documents are read back

`parse?_render` says that reading undoes writing for every document, without exception: texts with
any characters, literals that denote no text, integers of any size, numbers with exponents and `-0`.

The reader is followed through the three functions that call each other, by structural recursion
over the document. `value?` needs two steps of fuel for each octet that a value is written with, the
two others one step more.
-/

namespace AccessControl.Json

/-! ### First octets -/

theorem skipBlanks_cons {first : UInt8} (h : isBlank first = false) (tail : Bytes) :
    skipBlanks (first :: tail) = first :: tail :=
  List.dropWhile_cons_of_neg (by simp [h])

/-- Octets that begin neither with a blank nor with a closing bracket. -/
def Opens (bytes : Bytes) : Prop :=
  ∃ first tail, bytes = first :: tail ∧ isBlank first = false ∧ first ≠ 0x5d

theorem Opens.append {bytes : Bytes} (h : Opens bytes) (rest : Bytes) : Opens (bytes ++ rest) := by
  obtain ⟨first, tail, rfl, hblank, hbracket⟩ := h
  exact ⟨first, tail ++ rest, rfl, hblank, hbracket⟩

/-- What a number begins with is neither a blank nor a bracket. -/
theorem opens_of_isDigit {first : UInt8} (h : isDigit first = true ∨ first = 0x2d) (tail : Bytes) :
    Opens (first :: tail) := by
  refine ⟨first, tail, rfl, ?_, ?_⟩
  · have hne : ∀ b : UInt8, isBlank b = true → ¬ (isDigit b = true ∨ b = 0x2d) := by
      intro b hb
      simp only [isBlank, Bool.or_eq_true, beq_iff_eq] at hb
      rcases hb with ((rfl | rfl) | rfl) | rfl <;> decide
    exact Bool.eq_false_iff.mpr fun hblank => hne first hblank h
  · rintro rfl
    rcases h with h | h <;> cases h

/-- A number begins with a digit or a sign. -/
theorem exists_digits_append (n : Nat) (rest : Bytes) :
    ∃ first tail, digits n ++ rest = first :: tail ∧ (isDigit first = true ∨ first = 0x2d) := by
  obtain ⟨first, others, hdigits⟩ := List.exists_cons_of_ne_nil (digits_ne_nil n)
  refine ⟨first, others ++ rest, by rw [hdigits, List.cons_append], .inl ?_⟩
  refine isDigit_of_mem_digits (n := n) ?_
  rw [hdigits]
  exact List.mem_cons_self ..

theorem exists_signed_append (negative : Bool) (n : Nat) (rest : Bytes) :
    ∃ first tail, (if negative then [0x2d] else []) ++ digits n ++ rest = first :: tail ∧
      (isDigit first = true ∨ first = 0x2d) := by
  cases negative with
  | true => exact ⟨0x2d, digits n ++ rest, rfl, .inr rfl⟩
  | false => exact exists_digits_append n rest

theorem signedDigits_eq (n : Int) :
    signedDigits n = (if decide (n < 0) then [0x2d] else []) ++ digits n.natAbs := by
  rw [signedDigits]
  by_cases h : n < 0 <;> simp [h]

/-! ### Values without parts -/

/-- What begins with a digit or a sign is read as a number. -/
theorem value?_of_isDigit {fuel : Nat} {bytes : Bytes}
    (h : ∃ first tail, bytes = first :: tail ∧ (isDigit first = true ∨ first = 0x2d)) :
    value? (fuel + 1) bytes = number? bytes := by
  obtain ⟨first, tail, rfl, h⟩ := h
  obtain ⟨_, _, ⟨⟩, hblank, -⟩ := opens_of_isDigit h tail
  rw [value?, skipBlanks_cons hblank]
  split
  case h_7 => rfl
  all_goals
    rename_i heq
    cases heq
    rcases h with h | h <;> cases h

theorem value?_literal (fuel : Nat) (text : Option String) (rest : Bytes) :
    value? (fuel + 1) (literal text ++ rest) = some (.string text, rest) := by
  obtain ⟨tail, pieces, htail, hscan, htext⟩ := Literal.exists_scan?_literal text rest
  rw [htail, value?, skipBlanks_cons rfl]
  simp [hscan, htext]

theorem opens_literal (text : Option String) : Opens (literal text) := by
  obtain ⟨tail, pieces, htail, -, -⟩ := Literal.exists_scan?_literal text []
  rw [List.append_nil] at htail
  exact ⟨_, tail, htail, rfl, by decide⟩

/-- Every document opens. -/
theorem opens_render (json : Json) : Opens (render json) := by
  cases json with
  | null => exact ⟨_, _, rfl, rfl, by decide⟩
  | bool value => cases value <;> exact ⟨_, _, rfl, rfl, by decide⟩
  | integer value =>
    obtain ⟨first, tail, heq, h⟩ := exists_signed_append (decide (value < 0)) value.natAbs []
    rw [List.append_nil, ← signedDigits_eq] at heq
    rw [render, heq]
    exact opens_of_isDigit h tail
  | decimal negative significand exponent =>
    obtain ⟨first, tail, heq, h⟩ :=
      exists_signed_append negative significand (0x65 :: signedDigits exponent)
    rw [render, heq]
    exact opens_of_isDigit h tail
  | string text => exact opens_literal text
  | array items => exact ⟨_, _, rfl, rfl, by decide⟩
  | object members => exact ⟨_, _, rfl, rfl, by decide⟩

theorem opens_renderItems {items : List Json} (h : items ≠ []) : Opens (renderItems items) := by
  match items, h with
  | [item], _ =>
    rw [renderItems]
    exact opens_render item
  | item :: next :: rest, _ =>
    rw [renderItems]
    exact (opens_render item).append _

/-- Members begin with a key. -/
theorem exists_renderMembers_append {members : List (Option String × Json)} (h : members ≠ [])
    (rest : Bytes) : ∃ tail, renderMembers members ++ rest = 0x22 :: tail := by
  match members, h with
  | [(key, item)], _ =>
    obtain ⟨tail, pieces, htail, -, -⟩ :=
      Literal.exists_scan?_literal key (0x3a :: render item ++ rest)
    exact ⟨tail, by rw [renderMembers, List.append_assoc, htail]⟩
  | (key, item) :: next :: others, _ =>
    obtain ⟨tail, pieces, htail, -, -⟩ := Literal.exists_scan?_literal key
      (0x3a :: render item ++ 0x2c :: renderMembers (next :: others) ++ rest)
    refine ⟨tail, ?_⟩
    rw [renderMembers, List.append_assoc, List.append_assoc, ← List.append_assoc _ _ rest, htail]

/-! ### Values with parts -/

mutual

/-- A value is read back in front of what does not continue a number. -/
theorem value?_render (json : Json) {fuel : Nat} {rest : Bytes}
    (hfuel : 2 * (render json).length ≤ fuel) (hrest : Settles rest) :
    value? fuel (render json ++ rest) = some (json, rest) := by
  obtain ⟨fuel, rfl⟩ : ∃ below, fuel = below + 1 := by
    obtain ⟨first, tail, heq, -⟩ := opens_render json
    rw [heq, List.length_cons] at hfuel
    exact ⟨fuel - 1, by omega⟩
  match json with
  | .null => rfl
  | .bool true => rfl
  | .bool false => rfl
  | .integer value =>
    have hfirst := exists_signed_append (decide (value < 0)) value.natAbs rest
    rw [← signedDigits_eq] at hfirst
    rw [render, value?_of_isDigit hfirst, number?_signedDigits hrest]
  | .decimal negative significand exponent =>
    have hfirst := exists_signed_append negative significand
      (0x65 :: signedDigits exponent ++ rest)
    rw [← List.append_assoc] at hfirst
    rw [render, value?_of_isDigit hfirst, number?_decimal hrest]
  | .string text => rw [render, value?_literal]
  | .array [] => rfl
  | .array (item :: items) =>
    rw [render, List.length_append, List.length_cons, List.length_singleton] at hfuel
    have hitems : items? fuel (renderItems (item :: items) ++ 0x5d :: rest) =
        some (item :: items, rest) := items?_renderItems _ (by simp) (by omega)
    obtain ⟨first, tail, heq, hblank, hbracket⟩ :=
      (opens_renderItems (List.cons_ne_nil item items)).append (0x5d :: rest)
    have hrender : render (.array (item :: items)) ++ rest =
        0x5b :: (renderItems (item :: items) ++ 0x5d :: rest) := by
      simp [render]
    rw [hrender, value?, skipBlanks_cons rfl]
    rw [heq] at hitems ⊢
    simp only [skipBlanks_cons hblank]
    split
    · rename_i htail
      cases htail
      exact absurd rfl hbracket
    · rw [hitems]
      rfl
  | .object [] => rfl
  | .object (member :: members) =>
    rw [render, List.length_append, List.length_cons, List.length_singleton] at hfuel
    have hmembers : members? fuel (renderMembers (member :: members) ++ 0x7d :: rest) =
        some (member :: members, rest) := members?_renderMembers _ (by simp) (by omega)
    have hrender : render (.object (member :: members)) ++ rest =
        0x7b :: (renderMembers (member :: members) ++ 0x7d :: rest) := by
      simp [render]
    obtain ⟨tail, heq⟩ := exists_renderMembers_append (List.cons_ne_nil member members)
      (0x7d :: rest)
    rw [hrender, value?, skipBlanks_cons rfl]
    rw [heq] at hmembers ⊢
    simp only [skipBlanks_cons (show isBlank 0x22 = false from rfl)]
    show (members? fuel (0x22 :: tail) >>= fun found => pure (object found.1, found.2)) = _
    rw [hmembers]
    rfl

/-- Items are read back up to their closing bracket. -/
theorem items?_renderItems (items : List Json) {fuel : Nat} {rest : Bytes} (hne : items ≠ [])
    (hfuel : 2 * (renderItems items).length + 1 ≤ fuel) :
    items? fuel (renderItems items ++ 0x5d :: rest) = some (items, rest) := by
  obtain ⟨fuel, rfl⟩ : ∃ below, fuel = below + 1 := ⟨fuel - 1, by omega⟩
  match items, hne with
  | [item], _ =>
    rw [renderItems] at hfuel ⊢
    have hitem : value? fuel (render item ++ 0x5d :: rest) = some (item, 0x5d :: rest) :=
      value?_render item (by omega) (settles_cons (by decide))
    rw [items?, hitem]
    rfl
  | item :: next :: others, _ =>
    rw [renderItems, List.length_append, List.length_cons] at hfuel
    have hitem : value? fuel
        (render item ++ 0x2c :: (renderItems (next :: others) ++ 0x5d :: rest)) =
        some (item, 0x2c :: (renderItems (next :: others) ++ 0x5d :: rest)) :=
      value?_render item (by omega) (settles_cons (by decide))
    have hitems : items? fuel (renderItems (next :: others) ++ 0x5d :: rest) =
        some (next :: others, rest) := items?_renderItems _ (by simp) (by omega)
    rw [renderItems, List.append_assoc, List.cons_append, items?, hitem]
    simp only [Option.bind_eq_bind, Option.bind_some,
      skipBlanks_cons (show isBlank 0x2c = false from rfl), hitems]
    rfl

/-- Members are read back up to their closing brace. -/
theorem members?_renderMembers (members : List (Option String × Json)) {fuel : Nat} {rest : Bytes}
    (hne : members ≠ []) (hfuel : 2 * (renderMembers members).length + 1 ≤ fuel) :
    members? fuel (renderMembers members ++ 0x7d :: rest) = some (members, rest) := by
  obtain ⟨fuel, rfl⟩ : ∃ below, fuel = below + 1 := ⟨fuel - 1, by omega⟩
  match members, hne with
  | [(key, item)], _ =>
    obtain ⟨tail, pieces, htail, hscan, htext⟩ :=
      Literal.exists_scan?_literal key (0x3a :: (render item ++ 0x7d :: rest))
    rw [renderMembers, List.length_append, List.length_cons] at hfuel
    have hitem : value? fuel (render item ++ 0x7d :: rest) = some (item, 0x7d :: rest) :=
      value?_render item (by omega) (settles_cons (by decide))
    rw [renderMembers, List.append_assoc, List.cons_append, htail, members?, skipBlanks_cons rfl]
    simp only [hscan, Option.bind_eq_bind, Option.bind_some,
      skipBlanks_cons (show isBlank 0x3a = false from rfl), hitem, htext]
    rfl
  | (key, item) :: next :: others, _ =>
    obtain ⟨tail, pieces, htail, hscan, htext⟩ := Literal.exists_scan?_literal key
      (0x3a :: (render item ++ 0x2c :: (renderMembers (next :: others) ++ 0x7d :: rest)))
    rw [renderMembers, List.length_append, List.length_append, List.length_cons,
      List.length_cons] at hfuel
    have hitem : value? fuel
        (render item ++ 0x2c :: (renderMembers (next :: others) ++ 0x7d :: rest)) =
        some (item, 0x2c :: (renderMembers (next :: others) ++ 0x7d :: rest)) :=
      value?_render item (by omega) (settles_cons (by decide))
    have hmembers : members? fuel (renderMembers (next :: others) ++ 0x7d :: rest) =
        some (next :: others, rest) := members?_renderMembers _ (by simp) (by omega)
    rw [renderMembers, List.append_assoc, List.append_assoc, List.cons_append, List.cons_append,
      htail, members?, skipBlanks_cons rfl]
    simp only [hscan, Option.bind_eq_bind, Option.bind_some,
      skipBlanks_cons (show isBlank 0x3a = false from rfl), hitem, htext,
      skipBlanks_cons (show isBlank 0x2c = false from rfl), hmembers]
    rfl

end

/-- **Reading undoes writing**, for every document. -/
theorem parse?_render (json : Json) : parse? (render json) = some json := by
  have hvalue : value? (2 * (render json).length + 1) (render json ++ []) = some (json, []) :=
    value?_render json (by omega) settles_nil
  rw [List.append_nil] at hvalue
  rw [parse?, hvalue]
  rfl

end AccessControl.Json
