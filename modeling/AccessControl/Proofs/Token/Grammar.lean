import AccessControl.Proofs.Token.Jws

/-!
# The grammar of tokens

Which texts are tokens is told by their characters: what stands between blanks has three parts with
dots between them, each in canonical Base64, and the first is the JSON of a header
(`Jws.writes_iff`). What a token says and what is signed of it are these parts again, so a text can
be put together from the text that is signed and the signature, and from nothing else. Nobody who
passes on a token can change it, not even the way in which it is written, unless the signature or
what it is over changes too: `Jws.ofText_iff_grammar`.
-/

namespace AccessControl

theorem Base64.IsCanonical.dot_not_mem {chars : List Char} (h : IsCanonical urlUnpadded chars) :
    '.' ∉ chars := by
  obtain ⟨bytes, rfl⟩ := isCanonical_iff.mp h
  intro hmem
  exact (ne_of_mem_encodeChars hmem).1 rfl

namespace Jws

variable {source : String} {token : Jws}

/-- Three parts without dots are told apart by the dots between them. -/
theorem splitOn_eq_iff {chars header payload signature : List Char}
    (h : ∀ part ∈ [header, payload, signature], '.' ∉ part) :
    chars.splitOn '.' = [header, payload, signature] ↔
      chars = header ++ '.' :: payload ++ '.' :: signature := by
  have hparts : ['.'].intercalate [header, payload, signature] =
      header ++ '.' :: payload ++ '.' :: signature := by
    simp [List.intercalate]
  constructor
  · intro hsplit
    rw [← @List.intercalate_splitOn _ chars _ _ '.', hsplit, hparts]
  · rintro rfl
    rw [← hparts]
    exact List.splitOn_intercalate '.' h (List.cons_ne_nil _ _)

/-- **A text writes a token exactly if its parts do**: the first writes the header, the others the
payload and the signature, and the text of the first two is what is signed. -/
theorem writes_iff :
    Writes source token ↔ ∃ header payload signature octets,
      (Text.trim source.toList).splitOn '.' = [header, payload, signature] ∧
      Base64.urlUnpadded.decodeChars? header = some octets ∧
      (Json.parse? octets).bind JwsHeader.ofJson? = some token.header ∧
      Base64.urlUnpadded.decodeChars? payload = some token.payload ∧
      Base64.urlUnpadded.decodeChars? signature = some token.signature ∧
      token.signingInput = String.ofList (header ++ '.' :: payload) := by
  have hdots : ∀ {octets payload signature : Bytes},
      ∀ part ∈ [Base64.urlUnpadded.encodeChars octets, Base64.urlUnpadded.encodeChars payload,
        Base64.urlUnpadded.encodeChars signature], '.' ∉ part := by
    intro octets payload signature
    simp only [List.forall_mem_cons]
    exact ⟨(Base64.isCanonical_encodeChars _).dot_not_mem,
      (Base64.isCanonical_encodeChars _).dot_not_mem,
      (Base64.isCanonical_encodeChars _).dot_not_mem, List.forall_mem_nil _⟩
  simp only [Base64.decodeChars?_eq_some_iff]
  constructor
  · rintro ⟨hsource, hjson, hheader⟩
    exact ⟨_, _, _, _, (splitOn_eq_iff hdots).mpr hsource, rfl,
      Option.bind_eq_some_iff.mpr ⟨_, hjson, hheader⟩, rfl, rfl, rfl⟩
  · rintro ⟨_, _, _, octets, hsplit, rfl, hheader, rfl, rfl, hinput⟩
    obtain ⟨json, hjson, hheader⟩ := Option.bind_eq_some_iff.mp hheader
    have hwrites := Writes.parts ((splitOn_eq_iff hdots).mp hsplit) hjson hheader
    rwa [← hinput] at hwrites

/-- A text is put together from what is signed and the signature. -/
theorem Writes.trim_eq (h : Writes source token) :
    Text.trim source.toList =
      token.signingInput.toList ++ '.' :: Base64.urlUnpadded.encodeChars token.signature := by
  obtain ⟨hsource, -, -⟩ := h
  rw [hsource, String.toList_ofList]

/-- Canonical parts are read, whatever they say. -/
theorem exists_ofText_iff :
    (∃ token, ofText source = .ok token) ↔
      (Text.trim source.toList).head? ≠ some '{' ∧
      ∃ header payload signature octets,
        (Text.trim source.toList).splitOn '.' = [header, payload, signature] ∧
        (∀ part ∈ [header, payload, signature], Base64.IsCanonical .urlUnpadded part) ∧
        Base64.urlUnpadded.decodeChars? header = some octets ∧
        ((Json.parse? octets).bind JwsHeader.ofJson?).isSome := by
  simp only [ofText_eq_ok_iff]
  constructor
  · rintro ⟨token, hwrites⟩
    obtain ⟨header, payload, signature, octets, hsplit, hoctets, hheader, hpayload, hsignature,
      -⟩ := writes_iff.mp hwrites
    have hcanonical : ∀ part ∈ [header, payload, signature],
        Base64.IsCanonical .urlUnpadded part := by
      simp only [List.forall_mem_cons, Base64.isCanonical_iff, ← Base64.decodeChars?_eq_some_iff]
      exact ⟨⟨_, hoctets⟩, ⟨_, hpayload⟩, ⟨_, hsignature⟩, List.forall_mem_nil _⟩
    refine ⟨?_, header, payload, signature, octets, hsplit, hcanonical, hoctets, ?_⟩
    · obtain ⟨hsource, -, -⟩ := hwrites
      rw [hsource, List.append_assoc]
      exact head?_encodeChars_append_ne _ _
    · rw [hheader]
      rfl
  · rintro ⟨-, header, payload, signature, octets, hsplit, hcanonical, hoctets, hheader⟩
    simp only [List.forall_mem_cons] at hcanonical
    obtain ⟨-, hpayload, hsignature, -⟩ := hcanonical
    obtain ⟨payloadOctets, hpayload⟩ := hpayload.exists_decodeChars?
    obtain ⟨signatureOctets, hsignature⟩ := hsignature.exists_decodeChars?
    obtain ⟨parsed, hparsed⟩ := Option.isSome_iff_exists.mp hheader
    exact ⟨⟨parsed, _, payloadOctets, signatureOctets⟩, writes_iff.mpr
      ⟨header, payload, signature, octets, hsplit, hoctets, hparsed, hpayload, hsignature, rfl⟩⟩

/-- **A token has one text**, up to blanks around it. A text is read exactly if, between blanks, it
is not the other form of tokens and has three parts with dots between them, all in canonical Base64
and the first the header. Then the text that is signed is that of the first two parts, the payload
and the signature are the octets of the second and the third, and the text is put together from what
is signed and the signature. So two tokens with the same text signed and the same signature are
written alike. What a key signs is read as the claims under the name of the key's algorithm. -/
theorem ofText_iff_grammar [SignatureSuite] :
    (∀ source : String, (∃ token, ofText source = .ok token) ↔
      (Text.trim source.toList).head? ≠ some '{' ∧
      ∃ header payload signature octets,
        (Text.trim source.toList).splitOn '.' = [header, payload, signature] ∧
        (∀ part ∈ [header, payload, signature], Base64.IsCanonical .urlUnpadded part) ∧
        Base64.urlUnpadded.decodeChars? header = some octets ∧
        ((Json.parse? octets).bind JwsHeader.ofJson?).isSome) ∧
    (∀ (source : String) (token : Jws), ofText source = .ok token →
      (∃ header payload signature,
        (Text.trim source.toList).splitOn '.' = [header, payload, signature] ∧
        token.signingInput = String.ofList (header ++ '.' :: payload) ∧
        Base64.urlUnpadded.decodeChars? payload = some token.payload ∧
        Base64.urlUnpadded.decodeChars? signature = some token.signature) ∧
      String.ofList (Text.trim source.toList) =
        token.signingInput ++ "." ++ Base64.urlUnpadded.encode token.signature) ∧
    (∀ (first second : String) (token other : Jws), ofText first = .ok token →
      ofText second = .ok other → token.signingInput = other.signingInput →
      token.signature = other.signature → Text.trim first.toList = Text.trim second.toList) ∧
    ∀ (claims : Json) (key : SigningKey), ∃ token, ofText (sign claims key) = .ok token ∧
      token.payload = claims.render ∧ token.header.alg = key.type.algorithm := by
  refine ⟨fun source => exists_ofText_iff, ?_, ?_, ?_⟩
  · intro source token h
    rw [ofText_eq_ok_iff] at h
    obtain ⟨header, payload, signature, octets, hsplit, -, -, hpayload, hsignature, hinput⟩ :=
      writes_iff.mp h
    refine ⟨⟨header, payload, signature, hsplit, hinput, hpayload, hsignature⟩, ?_⟩
    rw [h.trim_eq, ← String.toList_inj]
    simp [Base64.encode]
  · intro first second token other hfirst hsecond hinput hsignature
    rw [ofText_eq_ok_iff] at hfirst hsecond
    rw [hfirst.trim_eq, hsecond.trim_eq, hinput, hsignature]
  · intro claims key
    exact ⟨_, ofText_eq_ok_iff.mpr (writes_sign claims key), rfl, rfl⟩

/-- A token with blanks around it and one without, and what becomes of it if an unused bit of the
signature is set. -/
theorem ofText_iff_grammar_unsecured :
    let token : Jws := ⟨⟨"none", none⟩, "eyJhbGciOiJub25lIn0.e30", [0x7b, 0x7d], [0]⟩
    let first := " eyJhbGciOiJub25lIn0.e30.AA\n"
    let second := "eyJhbGciOiJub25lIn0.e30.AA"
    ofText first = .ok token ∧ ofText second = .ok token ∧
      Text.trim first.toList = Text.trim second.toList ∧
      String.ofList (Text.trim first.toList) = token.signingInput ++ "." ++
        Base64.urlUnpadded.encode token.signature ∧
      ¬ ∃ token, ofText "eyJhbGciOiJub25lIn0.e30.AB" = .ok token := by
  intro token first second
  have hfirst : ofText first = .ok token := toOption_eq_some_iff.mp (by decide +kernel)
  have hsecond : ofText second = .ok token := toOption_eq_some_iff.mp (by decide +kernel)
  have hnone : (ofText "eyJhbGciOiJub25lIn0.e30.AB").toOption = none := by decide +kernel
  obtain ⟨-, hparts, hsame, -⟩ := ofText_iff_grammar
  refine ⟨hfirst, hsecond, hsame _ _ _ _ hfirst hsecond rfl rfl, (hparts _ _ hfirst).2, ?_⟩
  rintro ⟨token, h⟩
  rw [h] at hnone
  cases hnone

end Jws

end AccessControl
