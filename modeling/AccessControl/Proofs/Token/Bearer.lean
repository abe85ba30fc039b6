import AccessControl.Proofs.Time.Expiry
import AccessControl.Proofs.Token.Jws
import AccessControl.Token.Bearer

/-!
# Whom a bearer token lets act

`BearerToken.Grants` lists what must hold of a text for an account to act with it in the name of an
actor: the text is a token, its claims are all made and no others, the actor signed it, it is for
this account, and it has not expired. `BearerToken.authenticate_eq_ok_iff` says that nothing less
and nothing more is checked.

A claim that is left out and one that is `null` are read alike, as missing, so what is demanded of
each claim is that its field is there and holds a value of the right kind.
-/

namespace AccessControl

namespace Json.Record

variable {α : Type} {record : Record} {name : String} {read? : Json → Option α} {value : α}

/-- A field that may be left out has a value exactly if it would be read as one that may not. -/
theorem optional?_eq_some_some_iff (hnull : read? .null = none) :
    record.optional? name read? = some (some value) ↔ record.field? name read? = some value := by
  unfold optional? fieldOr? field?
  cases record.lookup name with
  | none => simp
  | some json => cases json <;> simp [option?, hnull]

end Json.Record

theorem Did.ofText_eq_ok_iff {text : String} {did : Did} :
    ofText text = .ok did ↔ text = did.text := by
  constructor
  · intro h
    unfold ofText at h
    split at h
    · cases h
      rfl
    · cases h
  · rintro rfl
    exact did.ofText_text

/-- Seconds are ordered as numbers. -/
theorem Instant.not_lt_iff_of_ofSecond? {first second : Int} {s t : Instant}
    (hs : ofSecond? first = some s) (ht : ofSecond? second = some t) :
    ¬ t < s ↔ first ≤ second := by
  have hparts : ∀ {number : Int} {instant : Instant}, ofSecond? number = some instant →
      instant.second = number ∧ instant.nano = 0 := by
    intro number instant h
    unfold ofSecond? ofParts? at h
    split at h
    · cases h
      exact ⟨rfl, rfl⟩
    · cases h
  obtain ⟨rfl, hs⟩ := hparts hs
  obtain ⟨rfl, ht⟩ := hparts ht
  show ¬ (t.second < s.second ∨ (t.second = s.second ∧ t.nano < s.nano)) ↔ _
  omega

namespace BearerClaims

variable {issuer account : String} {iat exp : Int} {claims : BearerClaims} {params : Params}
  {token : BearerToken}

/-- The names of the claims. -/
def names : List String := ["iss", "authorized_account", "iat", "exp"]

/-- All claims are made if the fields of the payload are there, and no others. -/
theorem ofJson?_eq_some_iff {json : Json} :
    ofJson? json = some ⟨some issuer, some account, some iat, some exp⟩ ↔
      ∃ record, json.record? names .refuse = some record ∧
        record.field? "iss" Json.text? = some issuer ∧
        record.field? "authorized_account" Json.text? = some account ∧
        record.field? "iat" Json.int64? = some iat ∧
        record.field? "exp" Json.int64? = some exp := by
  simp only [ofJson?, Option.bind_eq_bind, Option.bind_eq_some_iff, Option.pure_def,
    Option.some.injEq, mk.injEq]
  constructor
  · rintro ⟨record, hrecord, _, hissuer, _, haccount, _, hiat, _, hexp, rfl, rfl, rfl, rfl⟩
    exact ⟨record, hrecord, (Json.Record.optional?_eq_some_some_iff rfl).mp hissuer,
      (Json.Record.optional?_eq_some_some_iff rfl).mp haccount,
      (Json.Record.optional?_eq_some_some_iff rfl).mp hiat,
      (Json.Record.optional?_eq_some_some_iff rfl).mp hexp⟩
  · rintro ⟨record, hrecord, hissuer, haccount, hiat, hexp⟩
    exact ⟨record, hrecord, _, (Json.Record.optional?_eq_some_some_iff rfl).mpr hissuer,
      _, (Json.Record.optional?_eq_some_some_iff rfl).mpr haccount,
      _, (Json.Record.optional?_eq_some_some_iff rfl).mpr hiat,
      _, (Json.Record.optional?_eq_some_some_iff rfl).mpr hexp, rfl, rfl, rfl, rfl⟩

theorem require_eq_ok_iff {α : Type} {claim : BearerClaim} {found : Option α} {value : α} :
    require claim found = .ok value ↔ found = some value := by
  cases found <;> simp [require]

theorem instant_eq_ok_iff {claim : BearerClaim} {seconds : Int} {t : Instant} :
    instant claim seconds = .ok t ↔ Instant.ofSecond? seconds = some t := by
  rw [instant]
  cases Instant.ofSecond? seconds <;> simp

/-- What claims say, if they say anything. -/
theorem token_eq_ok_iff :
    claims.token params = .ok token ↔ ∃ account iat exp,
      claims = ⟨some token.issuer.text, some account, some iat, some exp⟩ ∧
      Address.ofTextUnder params.addressReadable account = .ok token.authorizedAccount ∧
      Instant.ofSecond? iat = some token.issuedAt ∧
      Instant.ofSecond? exp = some token.expiresAt ∧ iat ≤ exp := by
  simp only [BearerClaims.token, bind_eq_ok_iff, mapError_eq_ok_iff, require_eq_ok_iff,
    instant_eq_ok_iff, Did.ofText_eq_ok_iff]
  constructor
  · rintro ⟨issuer, hissuer, account, haccount, iat, hiat, exp, hexp, did, rfl, address, haddress,
      issuedAt, hissued, expiresAt, hexpires, h⟩
    split at h
    · cases h
    · rename_i horder
      cases h
      obtain ⟨_, _, _, _⟩ := claims
      cases hissuer
      cases haccount
      cases hiat
      cases hexp
      exact ⟨account, iat, exp, rfl, haddress, hissued, hexpires,
        (Instant.not_lt_iff_of_ofSecond? hissued hexpires).mp horder⟩
  · rintro ⟨account, iat, exp, rfl, haddress, hissued, hexpires, horder⟩
    refine ⟨_, rfl, account, rfl, iat, rfl, exp, rfl, _, rfl, _, haddress, _, hissued, _, hexpires,
      if_neg ?_⟩
    exact (Instant.not_lt_iff_of_ofSecond? hissued hexpires).mpr horder

end BearerClaims

namespace BearerToken

variable [SignatureSuite]

/-- What a text must be for an account, the signer, to act with it in the name of an actor. -/
inductive Grants (source : String) (resolver : Resolver) (signer : Address) (now : Instant)
    (params : Params) (actor : Did) : Prop where
  | intro {token : Jws} {json : Json} {record : Json.Record} {account : String} {iat exp : Int}
      {issuedAt expiresAt : Instant}
      (written : Jws.Writes source token)
      (payload : Json.parse? token.payload = some json)
      (strict : json.record? BearerClaims.names .refuse = some record)
      (issuer : record.field? "iss" Json.text? = some actor.text)
      (authorizedAccount : record.field? "authorized_account" Json.text? = some account)
      (issued : record.field? "iat" Json.int64? = some iat)
      (expires : record.field? "exp" Json.int64? = some exp)
      -- The token is for this account.
      (address : Address.ofTextUnder params.addressReadable account = .ok signer)
      -- Both times lie in the calendar.
      (issuedAt_eq : Instant.ofSecond? iat = some issuedAt)
      (expiresAt_eq : Instant.ofSecond? exp = some expiresAt)
      (iat_le_exp : iat ≤ exp)
      -- The token has not expired.
      (now_le : now ≤ expiresAt)
      (signed : token.SignedBy actor resolver)

/-- **An account may act in the name of an actor exactly if the actor granted it.** -/
theorem authenticate_eq_ok_iff {source : String} {resolver : Resolver} {signer : Address}
    {now : Instant} {params : Params} {actor : Did} :
    authenticate source resolver signer now params = .ok actor ↔
      Grants source resolver signer now params actor := by
  simp only [authenticate, bind_eq_ok_iff, mapError_eq_ok_iff, Jws.ofText_eq_ok_iff]
  constructor
  · rintro ⟨jws, hwritten, h⟩
    split at h
    · rename_i claims hclaims
      simp only [bind_eq_ok_iff, mapError_eq_ok_iff, BearerClaims.token_eq_ok_iff] at h
      obtain ⟨token, hclaimed, ⟨⟩, hverify, h⟩ := h
      obtain ⟨account, iat, exp, rfl, haddress, hissued, hexpires, horder⟩ := hclaimed
      split at h
      · cases h
      · rename_i hnow
        split at h
        · cases h
        · rename_i hsigner
          cases h
          obtain ⟨json, hjson, hclaims⟩ := Option.bind_eq_some_iff.mp hclaims
          obtain ⟨record, hrecord, hissuer, haccount, hiat, hexp⟩ :=
            BearerClaims.ofJson?_eq_some_iff.mp hclaims
          rw [← Decidable.not_not.mp hsigner] at haddress
          exact .intro hwritten hjson hrecord hissuer haccount hiat hexp haddress hissued hexpires
            horder hnow (Jws.verify_eq_ok_iff.mp hverify)
    · cases h
  · rintro ⟨hwritten, hjson, hrecord, hissuer, haccount, hiat, hexp, haddress, hissued, hexpires,
      horder, hnow, hsigned⟩
    rename_i jws json record account iat exp issuedAt expiresAt
    have hclaims : jws.claims? BearerClaims.ofJson? =
        some ⟨some actor.text, some account, some iat, some exp⟩ := by
      rw [Jws.claims?, hjson, Option.bind_some, BearerClaims.ofJson?_eq_some_iff]
      exact ⟨record, hrecord, hissuer, haccount, hiat, hexp⟩
    refine ⟨jws, hwritten, ?_⟩
    rw [hclaims]
    simp only [bind_eq_ok_iff, mapError_eq_ok_iff, BearerClaims.token_eq_ok_iff]
    refine ⟨⟨actor, signer, issuedAt, expiresAt⟩, ⟨account, iat, exp, rfl, haddress, hissued,
      hexpires, horder⟩, (), Jws.verify_eq_ok_iff.mpr hsigned, ?_⟩
    rw [if_neg hnow, if_neg (by simp)]

end BearerToken

end AccessControl
