import AccessControl.Proofs.Action
import AccessControl.Proofs.Encoding.Base64
import AccessControl.Proofs.Json.RoundTrip
import AccessControl.Token.Jws

/-!
# What a token is

A text writes a token if, between blanks, it is the Base64 of a header, of a payload and of a
signature, with dots between them: `Jws.Writes`, and `Jws.ofText_eq_ok_iff`. No digit of Base64 is a
dot or a brace, so the dots part the text in one way only, and no such text is taken for the other
form of tokens.

`Jws.SignedBy` says what it is for the signature to hold: it verifies under the first key of the
signer's document, whatever the header says (`Jws.verify_eq_ok_iff`). What a key signs is written as
a token that carries the claims (`Jws.writes_sign`).
-/

namespace AccessControl

/-- A digit is neither the mark between the parts of a token nor the beginning of an object. -/
theorem Base64.digit_urlUnpadded_ne {n : Nat} (h : n < 64) :
    urlUnpadded.digit n ≠ '.' ∧ urlUnpadded.digit n ≠ '{' := by
  have hall : ∀ n : Fin 64, urlUnpadded.digit n ≠ '.' ∧ urlUnpadded.digit n ≠ '{' := by decide
  exact hall ⟨n, h⟩

theorem Base64.isBlank_digit_urlUnpadded {n : Nat} (h : n < 64) :
    Text.isBlank (urlUnpadded.digit n) = false := by
  have hall : ∀ n : Fin 64, Text.isBlank (urlUnpadded.digit n) = false := by decide
  exact hall ⟨n, h⟩

/-- What holds of the digits holds of the characters of every text. -/
theorem Base64.of_mem_encodeChars {P : Char → Prop} (hdigit : ∀ n < 64, P (urlUnpadded.digit n))
    {bytes : Bytes} {c : Char} (h : c ∈ urlUnpadded.encodeChars bytes) : P c := by
  have hof : ∀ c n, n < 64 → c = urlUnpadded.digit n → P c := by
    rintro c n hn rfl
    exact hdigit n hn
  induction bytes using encodeChars.induct with
  | case1 => cases h
  | case2 a =>
    have ha := a.toNat_lt
    simp only [encodeChars, padding, padded, Bool.false_eq_true, if_false, List.mem_cons,
      List.not_mem_nil, or_false] at h
    rcases h with h | h
    all_goals exact hof _ _ (by omega) h
  | case3 a b =>
    have ha := a.toNat_lt
    have hb := b.toNat_lt
    simp only [encodeChars, padding, padded, Bool.false_eq_true, if_false, List.mem_cons,
      List.not_mem_nil, or_false] at h
    rcases h with h | h | h
    all_goals exact hof _ _ (by omega) h
  | case4 a b d rest ih =>
    have ha := a.toNat_lt
    have hb := b.toNat_lt
    have hd := d.toNat_lt
    simp only [encodeChars, List.mem_cons] at h
    rcases h with h | h | h | h | h
    · exact hof _ _ (by omega) h
    · exact hof _ _ (by omega) h
    · exact hof _ _ (by omega) h
    · exact hof _ _ (by omega) h
    · exact ih h

theorem Base64.ne_of_mem_encodeChars {bytes : Bytes} {c : Char}
    (h : c ∈ urlUnpadded.encodeChars bytes) : c ≠ '.' ∧ c ≠ '{' := by
  apply of_mem_encodeChars (P := fun c => c ≠ '.' ∧ c ≠ '{') _ h
  intro n hn
  exact digit_urlUnpadded_ne hn

/-- There is nothing to trim off a text without blanks. -/
theorem Text.trim_eq_self {chars : List Char} (h : ∀ c ∈ chars, isBlank c = false) :
    trim chars = chars := by
  have hstart : ∀ chars : List Char, (∀ c ∈ chars, isBlank c = false) →
      trimStart chars = chars := by
    intro chars h
    cases chars with
    | nil => rfl
    | cons c rest =>
      have hc : ¬ isBlank c = true := by
        rw [h c List.mem_cons_self]
        exact Bool.false_ne_true
      rw [trimStart, List.dropWhile_cons_of_neg hc]
  have hreverse : ∀ c ∈ chars.reverse, isBlank c = false := by
    intro c hc
    exact h c (List.mem_reverse.mp hc)
  rw [trim, hstart chars h, hstart chars.reverse hreverse, List.reverse_reverse]

theorem JwsHeader.ofJson?_toJson (header : JwsHeader) : ofJson? header.toJson = some header := by
  obtain ⟨alg, typ⟩ := header
  cases typ with
  | none => rfl
  | some typ => rfl

namespace Jws

/-! ### Parts between dots -/

theorem segments_ne_nil (chars : List Char) : segments chars ≠ [] := by
  cases chars with
  | nil => exact List.cons_ne_nil _ _
  | cons c rest =>
    rw [segments]
    split
    · exact List.cons_ne_nil _ _
    · split
      all_goals exact List.cons_ne_nil _ _

theorem segments_of_not_mem {chars : List Char} (h : '.' ∉ chars) : segments chars = [chars] := by
  induction chars with
  | nil => rfl
  | cons c rest ih =>
    rw [List.mem_cons, not_or] at h
    rw [segments, ih h.2]
    exact if_neg (Ne.symm h.1)

/-- The first dot ends the first part. -/
theorem segments_append {first : List Char} (h : '.' ∉ first) (rest : List Char) :
    segments (first ++ '.' :: rest) = first :: segments rest := by
  induction first with
  | nil =>
    obtain ⟨part, parts, hparts⟩ := List.exists_cons_of_ne_nil (segments_ne_nil rest)
    rw [List.nil_append, segments, hparts]
    exact if_pos rfl
  | cons c first ih =>
    rw [List.mem_cons, not_or] at h
    rw [List.cons_append, segments, ih h.2]
    exact if_neg (Ne.symm h.1)

/-- The parts make up the text. -/
theorem intercalate_segments (chars : List Char) : ['.'].intercalate (segments chars) = chars := by
  induction chars with
  | nil => rfl
  | cons c rest ih =>
    obtain ⟨part, parts, hparts⟩ := List.exists_cons_of_ne_nil (segments_ne_nil rest)
    rw [segments, hparts]
    rw [hparts] at ih
    simp only
    split
    · rename_i hdot
      rw [List.intercalate_cons_cons, ih, hdot]
      rfl
    · cases parts with
      | nil =>
        rw [List.intercalate_singleton] at ih ⊢
        rw [ih]
      | cons next parts =>
        rw [List.intercalate_cons_cons] at ih ⊢
        rw [List.cons_append, List.cons_append, ih]

theorem eq_of_segments_eq {chars header payload signature : List Char}
    (h : segments chars = [header, payload, signature]) :
    chars = header ++ '.' :: payload ++ '.' :: signature := by
  rw [← intercalate_segments chars, h]
  simp [List.intercalate]

/-! ### Texts of tokens -/

/-- A text writes a token. The text that is signed is that of the first two parts with the dot
between them. -/
inductive Writes (source : String) : Jws → Prop where
  | parts {headerOctets payload signature : Bytes} {json : Json} {header : JwsHeader} :
    Text.trim source.toList = Base64.urlUnpadded.encodeChars headerOctets ++
      '.' :: Base64.urlUnpadded.encodeChars payload ++
      '.' :: Base64.urlUnpadded.encodeChars signature →
    Json.parse? headerOctets = some json →
    JwsHeader.ofJson? json = some header →
    Writes source {
      header := header
      signingInput := String.ofList (Base64.urlUnpadded.encodeChars headerOctets ++
        '.' :: Base64.urlUnpadded.encodeChars payload)
      payload := payload
      signature := signature }

theorem segmentOctets_eq_ok_iff {segment : JwsSegment} {chars : List Char} {octets : Bytes} :
    segmentOctets segment chars = .ok octets ↔
      chars = Base64.urlUnpadded.encodeChars octets := by
  rw [← Base64.decodeChars?_eq_some_iff, segmentOctets]
  cases Base64.urlUnpadded.decodeChars? chars <;> simp

/-- What starts with a part in Base64 and a dot does not start with a brace. -/
theorem head?_encodeChars_append_ne (octets : Bytes) (rest : List Char) :
    (Base64.urlUnpadded.encodeChars octets ++ '.' :: rest).head? ≠ some '{' := by
  cases hchars : Base64.urlUnpadded.encodeChars octets with
  | nil =>
    intro h
    cases h
  | cons first others =>
    intro h
    have hfirst : first = '{' := Option.some.inj h
    have hmem : first ∈ Base64.urlUnpadded.encodeChars octets := by
      rw [hchars]
      exact List.mem_cons_self ..
    exact (Base64.ne_of_mem_encodeChars hmem).2 hfirst

/-- **A text is read as the token that it writes, and as nothing else.** -/
theorem ofText_eq_ok_iff {source : String} {token : Jws} :
    ofText source = .ok token ↔ Writes source token := by
  unfold ofText
  simp only
  constructor
  · intro h
    split at h
    · cases h
    · split at h
      · rename_i header payload signature hsegments
        simp only [bind_eq_ok_iff, segmentOctets_eq_ok_iff] at h
        obtain ⟨headerOctets, rfl, payloadOctets, rfl, signatureOctets, rfl, h⟩ := h
        split at h
        · rename_i parsed hparsed
          obtain ⟨json, hjson, hheader⟩ := Option.bind_eq_some_iff.mp hparsed
          cases h
          exact .parts (eq_of_segments_eq hsegments) hjson hheader
        · cases h
      · cases h
  · rintro ⟨hsource, hjson, hheader⟩
    rename_i headerOctets payload signature json header
    have hdot : ∀ octets, '.' ∉ Base64.urlUnpadded.encodeChars octets := by
      intro octets hmem
      exact (Base64.ne_of_mem_encodeChars hmem).1 rfl
    have hbrace : (Text.trim source.toList).head? ≠ some '{' := by
      rw [hsource, List.append_assoc]
      exact head?_encodeChars_append_ne _ _
    have hsegments : segments (Text.trim source.toList) =
        [Base64.urlUnpadded.encodeChars headerOctets, Base64.urlUnpadded.encodeChars payload,
          Base64.urlUnpadded.encodeChars signature] := by
      rw [hsource, List.append_assoc, List.cons_append, segments_append (hdot _),
        segments_append (hdot _), segments_of_not_mem (hdot _)]
    rw [if_neg hbrace, hsegments]
    simp only [bind_eq_ok_iff, segmentOctets_eq_ok_iff]
    refine ⟨_, rfl, _, rfl, _, rfl, ?_⟩
    rw [hjson, Option.bind_some, hheader]

/-! ### Signatures -/

variable [SignatureSuite]

/-- What a key signs is written as the token that carries the claims. -/
theorem writes_sign (claims : Json) (key : SigningKey) :
    Writes (sign claims key) {
      header := ⟨key.type.algorithm, some "JWT"⟩
      signingInput := signingInputOf claims key.type
      payload := claims.render
      signature := key.sign (.ofText (signingInputOf claims key.type)) } := by
  have hblank : ∀ octets, ∀ c ∈ Base64.urlUnpadded.encodeChars octets, Text.isBlank c = false := by
    intro octets c hc
    apply Base64.of_mem_encodeChars (P := fun c => Text.isBlank c = false) _ hc
    intro n hn
    exact Base64.isBlank_digit_urlUnpadded hn
  have hinput : signingInputOf claims key.type = String.ofList
      (Base64.urlUnpadded.encodeChars (JwsHeader.toJson ⟨key.type.algorithm, some "JWT"⟩).render ++
        '.' :: Base64.urlUnpadded.encodeChars claims.render) := by
    rw [← String.toList_inj]
    simp [signingInputOf, Base64.encode]
  have hchars : (sign claims key).toList =
      Base64.urlUnpadded.encodeChars (JwsHeader.toJson ⟨key.type.algorithm, some "JWT"⟩).render ++
        '.' :: Base64.urlUnpadded.encodeChars claims.render ++
        '.' :: Base64.urlUnpadded.encodeChars
          (key.sign (.ofText (signingInputOf claims key.type))) := by
    simp [sign, hinput, Base64.encode]
  have htrim : Text.trim (sign claims key).toList = (sign claims key).toList := by
    apply Text.trim_eq_self
    intro c hc
    simp only [hchars, List.mem_append, List.mem_cons] at hc
    rcases hc with (hc | rfl | hc) | rfl | hc
    · exact hblank _ c hc
    · decide
    · exact hblank _ c hc
    · decide
    · exact hblank _ c hc
  have hwrites := Writes.parts (htrim.trans hchars) (Json.parse?_render _)
    (JwsHeader.ofJson?_toJson _)
  rwa [← hinput] at hwrites

/-- The signature holds under the first key of the document of a signer. -/
def SignedBy (token : Jws) (signer : Did) (resolver : Resolver) : Prop :=
  ∃ document method others, resolver.resolve signer = .ok document ∧
    document.methods = method :: others ∧
    method.key.verify (.ofText token.signingInput) token.signature = true

omit [SignatureSuite] in
theorem firstMethod_eq_ok_iff {document : DidDocument} {method : VerificationMethod} :
    document.firstMethod = .ok method ↔ ∃ others, document.methods = method :: others := by
  rw [DidDocument.firstMethod]
  cases document.methods <;> simp

/-- **A token is accepted for a signer exactly if the signer's first key signed it.** -/
theorem verify_eq_ok_iff {token : Jws} {signer : Did} {resolver : Resolver} :
    token.verify signer resolver = .ok () ↔ token.SignedBy signer resolver := by
  simp only [verify, bind_eq_ok_iff, mapError_eq_ok_iff, firstMethod_eq_ok_iff]
  constructor
  · rintro ⟨document, hdocument, method, ⟨others, hmethods⟩, h⟩
    split at h
    · rename_i hverify
      exact ⟨document, method, others, hdocument, hmethods, hverify⟩
    · cases h
  · rintro ⟨document, method, others, hdocument, hmethods, hverify⟩
    exact ⟨document, hdocument, method, ⟨others, hmethods⟩, if_pos hverify⟩

end Jws

end AccessControl
