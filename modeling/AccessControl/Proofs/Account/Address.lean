import AccessControl.Account.Address
import AccessControl.Proofs.Action
import AccessControl.Proofs.Encoding.Bech32
import Mathlib

/-!
# An address has one text

An address is made from a human-readable part and octets, or read from a text. Either way it is
canonical (`Address.IsCanonical`): its text is in lower case and is the Bech32 of its human-readable
part and of the digits that its octets are regrouped to. Exactly the canonical addresses are made
(`Address.ofOctets_eq_ok_iff`) and read (`Address.ofText_eq_ok_iff`), so reading and making are
inverse to each other, up to the case of the text. As both the digits of the octets and the checksum
are determined, no other text is read as the same address: `Address.ofText_ofOctets_inverse`.

The separator is the last `1` of a text. A human-readable part may hold more of them, but no digit
is one.
-/

namespace AccessControl.Address

/-! ### Letters -/

theorem toList_lowerCase (text : String) :
    (lowerCase text).toList = text.toList.map Char.toLower :=
  String.toList_ofList

/-- The text in upper case; only letters of ASCII have one. -/
def upperCase (text : String) : String :=
  String.ofList (text.toList.map Char.toUpper)

theorem toList_upperCase (text : String) :
    (upperCase text).toList = text.toList.map Char.toUpper :=
  String.toList_ofList

/-- Whether a text has letters of both cases. -/
def isMixed (text : String) : Bool :=
  text.toList.any Char.isLower && text.toList.any Char.isUpper

@[simp] theorem lowerCase_lowerCase (text : String) :
    lowerCase (lowerCase text) = lowerCase text := by
  rw [← String.toList_inj]
  simp [toList_lowerCase, Function.comp_def]

@[simp] theorem lowerCase_upperCase (text : String) :
    lowerCase (upperCase text) = lowerCase text := by
  rw [← String.toList_inj]
  simp [toList_lowerCase, toList_upperCase, Function.comp_def]

theorem isMixed_lowerCase (text : String) : isMixed (lowerCase text) = false := by
  simp [isMixed, toList_lowerCase, List.any_map, Function.comp_def]

theorem isMixed_upperCase (text : String) : isMixed (upperCase text) = false := by
  simp [isMixed, toList_upperCase, List.any_map, Function.comp_def]

theorem utf8Size_eq_one {c : Char} (h : c.toNat ≤ 127) : c.utf8Size = 1 := by
  have hval : c.val ≤ 0x7f := UInt32.le_iff_toNat_le.mpr h
  simp [Char.utf8Size, hval]

theorem utf8Size_toLower (c : Char) : c.toLower.utf8Size = c.utf8Size := by
  by_cases hupper : c.isUpper
  · have hle : c.toNat ≤ 90 := by
      have hrange : 65 ≤ c.toNat ∧ c.toNat ≤ 90 := by
        simpa [Char.isUpper, UInt32.le_iff_toNat_le] using hupper
      exact hrange.2
    have hlower : c.toLower.toNat ≤ 127 := by
      rw [Char.toLower_eq_of_isUpper hupper, Char.toNat_ofNat]
      split <;> omega
    rw [utf8Size_eq_one hlower, utf8Size_eq_one (by omega)]
  · rw [Char.toLower_eq_of_not_isUpper hupper]

theorem utf8ByteSize_lowerCase (text : String) :
    (lowerCase text).utf8ByteSize = text.utf8ByteSize := by
  have hchars : ∀ chars : List Char, String.utf8Len (chars.map Char.toLower) =
      String.utf8Len chars := by
    intro chars
    induction chars with
    | nil => rfl
    | cons c chars ih => simp [ih, utf8Size_toLower]
  conv_rhs => rw [← String.ofList_toList (s := text)]
  rw [lowerCase, String.utf8ByteSize_ofList, String.utf8ByteSize_ofList, hchars]

/-! ### Parts of a text -/

theorem splitLast?_eq_some_iff {chars front back : List Char} :
    splitLast? chars = some (front, back) ↔ chars = front ++ '1' :: back ∧ '1' ∉ back := by
  constructor
  · intro h
    have hparts := List.takeWhile_append_dropWhile (p := (· != '1')) (l := chars.reverse)
    unfold splitLast? at h
    simp only at h
    split at h
    · cases h
    · rename_i c rest hrest
      cases h
      have hone : c = '1' := by
        have hhead := List.head?_dropWhile_not (· != '1') chars.reverse
        rw [hrest] at hhead
        simpa using hhead
      have hback : '1' ∉ (chars.reverse.takeWhile (· != '1')).reverse := by
        intro hmem
        have := List.mem_takeWhile_imp (List.mem_reverse.mp hmem)
        simp at this
      refine ⟨?_, hback⟩
      rw [hrest, hone] at hparts
      have hreverse := congrArg List.reverse hparts
      simpa using hreverse.symm
  · rintro ⟨rfl, hback⟩
    have hall : ∀ c ∈ back.reverse, (c != '1') = true := by
      intro c hc
      rw [bne_iff_ne]
      rintro rfl
      exact hback (List.mem_reverse.mp hc)
    have hreverse : (front ++ '1' :: back).reverse = back.reverse ++ '1' :: front.reverse := by simp
    simp only [splitLast?, hreverse, List.takeWhile_append_of_pos hall,
      List.dropWhile_append_of_pos hall]
    simp

theorem digits_eq_ok_iff {chars : List Char} {values : List UInt8} :
    digits chars = .ok values ↔ chars = values.map Bech32.digit ∧ Regroup.Fit 5 values := by
  induction chars generalizing values with
  | nil =>
    rw [digits, Except.ok.injEq]
    constructor
    · rintro rfl
      exact ⟨rfl, Regroup.fit_nil _⟩
    · rintro ⟨h, -⟩
      exact (List.map_eq_nil_iff.mp h.symm).symm
  | cons c rest ih =>
    rw [digits]
    split
    · rename_i hnone
      constructor
      · intro h
        cases h
      · rintro ⟨h, hfit⟩
        cases values with
        | nil => cases h
        | cons value values =>
          rw [Regroup.fit_cons_iff] at hfit
          rw [(List.cons.inj h).1, Bech32.digitValue?_digit hfit.1] at hnone
          cases hnone
    · rename_i value hvalue
      rw [Bech32.digitValue?_eq_some_iff] at hvalue
      simp only [bind_eq_ok_iff, ih, pure_eq_ok_iff]
      constructor
      · rintro ⟨values, ⟨rfl, hfit⟩, rfl⟩
        exact ⟨congrArg (· :: _) hvalue.1, Regroup.fit_cons_iff.mpr ⟨hvalue.2, hfit⟩⟩
      · rintro ⟨h, hfit⟩
        cases values with
        | nil => cases h
        | cons value' values =>
          obtain ⟨hfirst, hrest⟩ := List.cons.inj h
          rw [Regroup.fit_cons_iff] at hfit
          have hsome := Bech32.digitValue?_digit hfit.1
          rw [← hfirst, hvalue.1, Bech32.digitValue?_digit hvalue.2] at hsome
          cases hsome
          exact ⟨values, ⟨hrest, hfit.2⟩, rfl⟩

theorem one_not_mem_map_digit (values : List UInt8) : '1' ∉ values.map Bech32.digit := by
  intro hmem
  obtain ⟨value, -, hvalue⟩ := List.mem_map.mp hmem
  exact Bech32.digit_ne_one value hvalue

theorem utf8ByteSize_map_digit (values : List UInt8) :
    (String.ofList (values.map Bech32.digit)).utf8ByteSize = values.length := by
  rw [String.utf8ByteSize_ofList]
  induction values with
  | nil => rfl
  | cons value values ih =>
    rw [List.map_cons, String.utf8Len_cons, ih, Bech32.utf8Size_digit, List.length_cons]

/-! ### Texts in form -/

/-- The text has the form of an address: a human-readable part, the separator, and digits enough for
a checksum, all in one case. -/
structure IsFormed (source readable : String) (values : List UInt8) : Prop where
  size_le : source.utf8ByteSize ≤ Bech32.maxLength
  isMixed_eq : isMixed source = false
  toList_eq : (lowerCase source).toList = readable.toList ++ '1' :: values.map Bech32.digit
  readable_ne_nil : readable.toList ≠ []
  readable_isReadable : ∀ c ∈ readable.toList, isReadable c = true
  values_fit : Regroup.Fit 5 values
  checksumLength_le : Bech32.checksumLength ≤ values.length

/-- Of a text in form only the remainder and the bits that fill up the last octet are examined. -/
theorem IsFormed.ofText_eq {source readable : String} {values : List UInt8}
    (h : IsFormed source readable values) :
    ofText source =
      if Bech32.remainder (Bech32.expand readable ++ values) ≠ 1 then .error .invalidChecksum
      else
        match Regroup.regroup? 5 8 false (values.take (values.length - Bech32.checksumLength)) with
        | none => .error .invalidPadding
        | some octets => .ok ⟨readable, octets, lowerCase source⟩ := by
  have hcase : ¬ (source.toList.any Char.isLower && source.toList.any Char.isUpper) = true :=
    Bool.eq_false_iff.mp h.isMixed_eq
  have hsplit : splitLast? (lowerCase source).toList =
      some (readable.toList, values.map Bech32.digit) :=
    splitLast?_eq_some_iff.mpr ⟨h.toList_eq, one_not_mem_map_digit _⟩
  have hparts : ¬ (readable.toList.isEmpty || decide
      ((String.ofList (values.map Bech32.digit)).utf8ByteSize < Bech32.checksumLength)) = true := by
    rw [Bool.or_eq_true, not_or, List.isEmpty_iff, decide_eq_true_eq, utf8ByteSize_map_digit]
    exact ⟨h.readable_ne_nil, Nat.not_lt.mpr h.checksumLength_le⟩
  have hreadable : readable.toList.find? (fun c => !isReadable c) = none := by
    rw [List.find?_eq_none]
    intro c hc
    simp [h.readable_isReadable c hc]
  have hdigits : digits (values.map Bech32.digit) = .ok values :=
    digits_eq_ok_iff.mpr ⟨rfl, h.values_fit⟩
  unfold ofText
  rw [if_neg (Nat.not_lt.mpr h.size_le), if_neg hcase]
  simp only [hsplit]
  rw [if_neg hparts, hreadable, hdigits, String.ofList_toList]
  rfl

/-! ### Canonical addresses -/

/-- The text of the address is the Bech32 of what it is made of. -/
structure IsCanonical (address : Address) : Prop where
  readable_ne_nil : address.readable.toList ≠ []
  readable_isReadable : ∀ c ∈ address.readable.toList, isReadable c = true
  lowerCase_readable : lowerCase address.readable = address.readable
  exists_payload : ∃ payload, Regroup.Regroups 8 5 address.octets payload ∧
    address.text = Bech32.encode address.readable payload
  size_le : address.text.utf8ByteSize ≤ Bech32.maxLength

/-- The characters of a text in Bech32. -/
theorem toList_encode (readable : String) (payload : List UInt8) :
    (Bech32.encode readable payload).toList = readable.toList ++
      '1' :: (payload ++ Bech32.checksum readable payload).map Bech32.digit := by
  simp [Bech32.encode]

theorem isValid_readable_iff {readable : String} :
    ¬ (readable.isEmpty || !readable.toList.all isReadable) = true ↔
      readable.toList ≠ [] ∧ ∀ c ∈ readable.toList, isReadable c = true := by
  rw [Bool.or_eq_true, not_or, String.isEmpty_iff, ← String.toList_eq_nil_iff, Bool.not_eq_true,
    Bool.not_eq_false', List.all_eq_true]

/-- **Exactly the canonical addresses are made.** -/
theorem ofOctets_eq_ok_iff {readable : String} {octets : Bytes} {address : Address} :
    ofOctets readable octets = .ok address ↔
      address.readable = lowerCase readable ∧ address.octets = octets ∧ address.IsCanonical := by
  unfold ofOctets
  simp only
  constructor
  · intro h
    split at h
    case isTrue => cases h
    rename_i hreadable
    split at h
    case h_2 => cases h
    rename_i payload hpayload
    split at h
    case isTrue => cases h
    rename_i hsize
    cases h
    obtain ⟨hne, hall⟩ := isValid_readable_iff.mp hreadable
    rw [Regroup.regroup?_true_eq_some_iff (by decide) (by decide) (by decide)] at hpayload
    exact ⟨rfl, rfl, hne, hall, lowerCase_lowerCase _, ⟨payload, hpayload, rfl⟩,
      Nat.not_lt.mp hsize⟩
  · rintro ⟨hreadable, rfl, hcanonical⟩
    obtain ⟨payload, hpayload, htext⟩ := hcanonical.exists_payload
    have hsize := hcanonical.size_le
    have hvalid := isValid_readable_iff.mpr
      ⟨hcanonical.readable_ne_nil, hcanonical.readable_isReadable⟩
    rw [htext] at hsize
    rw [← Regroup.regroup?_true_eq_some_iff (by decide) (by decide) (by decide)] at hpayload
    rw [← hreadable, if_neg hvalid, hpayload]
    simp only
    rw [if_neg (Nat.not_lt.mpr hsize), ← htext]

/-- A canonical text is in lower case. -/
theorem IsCanonical.lowerCase_text {address : Address} (h : address.IsCanonical) :
    lowerCase address.text = address.text := by
  obtain ⟨payload, -, htext⟩ := h.exists_payload
  have hreadable : address.readable.toList.map Char.toLower = address.readable.toList := by
    rw [← toList_lowerCase, h.lowerCase_readable]
  rw [← String.toList_inj, toList_lowerCase, htext, toList_encode, List.map_append, hreadable]
  simp [Bech32.toLower_digit, Function.comp_def]

/-- A text that is cut into the parts of a canonical one is in canonical form, but for its case. -/
theorem isCanonical_lowerCase {source : String} {front : List Char} {octets : Bytes}
    {payload : List UInt8} (hfront : front ≠ []) (hreadable : ∀ c ∈ front, isReadable c = true)
    (hsource : (lowerCase source).toList = front ++
      '1' :: (payload ++ Bech32.checksum (String.ofList front) payload).map Bech32.digit)
    (hpayload : Regroup.Regroups 8 5 octets payload)
    (hsize : source.utf8ByteSize ≤ Bech32.maxLength) :
    IsCanonical ⟨String.ofList front, octets, lowerCase source⟩ where
  readable_ne_nil := by rwa [String.toList_ofList]
  readable_isReadable := by rwa [String.toList_ofList]
  lowerCase_readable := by
    rw [← String.toList_inj, toList_lowerCase, String.toList_ofList]
    refine (List.map_congr_left fun c hc => ?_).trans (List.map_id front)
    have hmem : c ∈ (lowerCase source).toList := by
      rw [hsource]
      exact List.mem_append_left _ hc
    rw [toList_lowerCase] at hmem
    obtain ⟨d, -, rfl⟩ := List.mem_map.mp hmem
    exact d.toLower_toLower_eq_toLower
  exists_payload := by
    refine ⟨payload, hpayload, ?_⟩
    rw [← String.toList_inj, hsource, toList_encode, String.toList_ofList]
  size_le := by rwa [utf8ByteSize_lowerCase]

/-- What is read is canonical. -/
theorem of_ofText {source : String} {address : Address} (h : ofText source = .ok address) :
    isMixed source = false ∧ address.text = lowerCase source ∧ address.IsCanonical := by
  unfold ofText at h
  simp only at h
  split at h
  case isTrue => cases h
  rename_i hlength
  split at h
  case isTrue => cases h
  rename_i hmixed
  split at h
  case h_2 => cases h
  rename_i front back hsplit
  split at h
  case isTrue => cases h
  rename_i hparts
  split at h
  case h_1 => cases h
  rename_i hreadable
  rw [bind_eq_ok_iff] at h
  obtain ⟨values, hvalues, h⟩ := h
  split at h
  case isTrue => cases h
  rename_i hremainder
  split at h
  case h_1 => cases h
  rename_i octets hoctets
  cases h
  obtain ⟨hsource, -⟩ := splitLast?_eq_some_iff.mp hsplit
  obtain ⟨rfl, hfit⟩ := digits_eq_ok_iff.mp hvalues
  rw [Bool.or_eq_true, not_or, List.isEmpty_iff, decide_eq_true_eq, Nat.not_lt,
    utf8ByteSize_map_digit] at hparts
  rw [not_not, Bech32.remainder_eq_one_iff hparts.2 hfit] at hremainder
  rw [Regroup.regroup?_false_eq_some_iff (by decide) (by decide) (by decide)] at hoctets
  have hchars : ∀ c ∈ front, isReadable c = true := by
    intro c hc
    simpa using List.find?_eq_none.mp hreadable c hc
  rw [hremainder] at hsource
  exact ⟨Bool.eq_false_iff.mpr hmixed, rfl,
    isCanonical_lowerCase hparts.1 hchars hsource hoctets (Nat.not_lt.mp hlength)⟩

/-- The text of a canonical address is in form, in either case. -/
theorem IsCanonical.exists_isFormed {source : String} {address : Address}
    (hcanonical : address.IsCanonical) (hmixed : isMixed source = false)
    (hsource : address.text = lowerCase source) :
    ∃ payload, Regroup.Regroups 8 5 address.octets payload ∧
      IsFormed source address.readable
        (payload ++ Bech32.checksum address.readable payload) := by
  obtain ⟨payload, hpayload, htext⟩ := hcanonical.exists_payload
  refine ⟨payload, hpayload, ?_, hmixed, ?_, hcanonical.readable_ne_nil,
    hcanonical.readable_isReadable, ?_, ?_⟩
  · rw [← utf8ByteSize_lowerCase, ← hsource]
    exact hcanonical.size_le
  · rw [← hsource, htext, toList_encode]
  · exact Regroup.fit_append_iff.mpr ⟨hpayload.groups_fit, Bech32.fit_checksum _ _⟩
  · rw [List.length_append, Bech32.length_checksum]
    omega

/-- A canonical address is read from a text that is its own but for the case. -/
theorem IsCanonical.ofText_eq_ok {source : String} {address : Address}
    (hcanonical : address.IsCanonical) (hmixed : isMixed source = false)
    (hsource : address.text = lowerCase source) : ofText source = .ok address := by
  obtain ⟨payload, hpayload, hformed⟩ := hcanonical.exists_isFormed hmixed hsource
  have hcheck := Bech32.length_checksum address.readable payload
  have hremainder : Bech32.remainder (Bech32.expand address.readable ++
      (payload ++ Bech32.checksum address.readable payload)) = 1 :=
    (Bech32.remainder_append_eq_one_iff hcheck (Bech32.fit_checksum _ _)).mpr rfl
  rw [← Regroup.regroup?_false_eq_some_iff (by decide) (by decide) (by decide)] at hpayload
  rw [hformed.ofText_eq, if_neg (not_not.mpr hremainder), List.length_append, hcheck,
    Nat.add_sub_cancel, List.take_left, hpayload, ← hsource]

/-- **Exactly the canonical addresses are read**, each from the spellings of its text in one
case. -/
theorem ofText_eq_ok_iff {source : String} {address : Address} :
    ofText source = .ok address ↔
      isMixed source = false ∧ address.text = lowerCase source ∧ address.IsCanonical := by
  constructor
  · exact of_ofText
  · rintro ⟨hmixed, hsource, hcanonical⟩
    exact hcanonical.ofText_eq_ok hmixed hsource

/-! ### Making and reading -/

/-- A canonical address is read from its text, in either case. -/
theorem IsCanonical.ofText_text {address : Address} (h : address.IsCanonical) :
    ofText address.text = .ok address ∧ ofText (upperCase address.text) = .ok address := by
  have hlower := h.lowerCase_text
  rw [ofText_eq_ok_iff, ofText_eq_ok_iff, lowerCase_upperCase, hlower]
  refine ⟨⟨?_, rfl, h⟩, isMixed_upperCase _, rfl, h⟩
  rw [← hlower]
  exact isMixed_lowerCase _

/-- A canonical address is made again from its parts. -/
theorem IsCanonical.ofOctets_octets {address : Address} (h : address.IsCanonical) :
    ofOctets address.readable address.octets = .ok address :=
  ofOctets_eq_ok_iff.mpr ⟨h.lowerCase_readable.symm, rfl, h⟩

/-- The address was made from a human-readable part and octets, or read from a text. -/
inductive IsObtained (address : Address) : Prop where
  | made {readable : String} {octets : Bytes} :
    ofOctets readable octets = .ok address → IsObtained address
  | read {source : String} : ofText source = .ok address → IsObtained address

theorem isObtained_iff {address : Address} : address.IsObtained ↔ address.IsCanonical := by
  constructor
  · rintro (h | h)
    · exact (ofOctets_eq_ok_iff.mp h).2.2
    · exact (ofText_eq_ok_iff.mp h).2.2
  · intro h
    exact .made h.ofOctets_octets

/-- **Making and reading are inverse**: what is made is read back from its text, in lower and in
upper case; what is read is made again from its parts, and its text is the one that was read, in
lower case. So neither the text nor the parts of an address leave anything open. -/
theorem ofText_ofOctets_inverse :
    (∀ readable octets address, ofOctets readable octets = .ok address →
      ofText address.text = .ok address ∧ ofText (upperCase address.text) = .ok address) ∧
    (∀ source address, ofText source = .ok address →
      ofOctets address.readable address.octets = .ok address ∧
        address.text = lowerCase source) ∧
    ∀ first second : Address, first.IsObtained → second.IsObtained →
      (first.text = second.text ↔ first = second) ∧
      (first.readable = second.readable ∧ first.octets = second.octets ↔ first = second) := by
  refine ⟨?_, ?_, ?_⟩
  · intro readable octets address h
    exact (ofOctets_eq_ok_iff.mp h).2.2.ofText_text
  · intro source address h
    obtain ⟨-, htext, hcanonical⟩ := ofText_eq_ok_iff.mp h
    exact ⟨hcanonical.ofOctets_octets, htext⟩
  · intro first second hfirst hsecond
    rw [isObtained_iff] at hfirst hsecond
    constructor
    · constructor
      · intro htext
        have hread := hfirst.ofText_text.1
        rw [htext, hsecond.ofText_text.1] at hread
        exact (Except.ok.inj hread).symm
      · exact congrArg text
    · constructor
      · rintro ⟨hreadable, hoctets⟩
        have hmade := hfirst.ofOctets_octets
        rw [hreadable, hoctets, hsecond.ofOctets_octets] at hmade
        exact (Except.ok.inj hmade).symm
      · rintro rfl
        exact ⟨rfl, rfl⟩

/-- An address whose human-readable part holds the separator, and one without octets. -/
theorem ofText_ofOctets_inverse_separator :
    let address : Address := ⟨"a1", [0, 255, 7], "a11qrlswv4xnzk"⟩
    let empty : Address := ⟨"a", [], "a12uel5l"⟩
    (ofOctets "A1" [0, 255, 7] = .ok address ∧ ofText address.text = .ok address ∧
      ofText (upperCase address.text) = .ok address) ∧
    (ofText "A12UEL5L" = .ok empty ∧ ofOctets empty.readable empty.octets = .ok empty ∧
      empty.text = lowerCase "A12UEL5L") ∧
    address.IsObtained ∧ empty.IsObtained ∧ (address.text = empty.text ↔ address = empty) := by
  intro address empty
  have hmade : ofOctets "A1" [0, 255, 7] = .ok address := by decide +kernel
  have hread : ofText "A12UEL5L" = .ok empty := by decide +kernel
  obtain ⟨hofOctets, hofText, hsame⟩ := ofText_ofOctets_inverse
  exact ⟨⟨hmade, hofOctets _ _ _ hmade⟩, ⟨hread, hofText _ _ hread⟩, .made hmade, .read hread,
    (hsame _ _ (.made hmade) (.read hread)).1⟩

end AccessControl.Address
