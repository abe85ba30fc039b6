import AccessControl.Identity.Key

/-!
# The text of issued identifiers

An identifier issued from a key is `did:key:z` and Base58 digits, none of which is a colon. So its
last colon stands where the method ends, and an issued identifier at the end of a text can be told
from what stands before it: `append_text_inj` says that two texts that end with issued identifiers
are equal only if both their parts are.
-/

namespace AccessControl.PublicKey

theorem digit_ne_colon (n : Nat) : Base58.digit n ≠ ':' := by
  have hall : (Base58.alphabet.all fun c => c != ':') = true := by decide
  unfold Base58.digit
  rw [List.getD_eq_getElem?_getD]
  cases h : Base58.alphabet[n]? with
  | none => decide
  | some c => simpa using List.all_eq_true.mp hall c (List.mem_of_getElem? h)

/-- What follows the last colon of an issued identifier. -/
def afterColon (key : PublicKey) : List Char :=
  'z' :: (Base58.encode key.tagged).toList

theorem toList_text_did (key : PublicKey) :
    key.did.text.toList = "did:key".toList ++ ':' :: key.afterColon := by
  simp [did, didText, afterColon]

theorem colon_not_mem_afterColon (key : PublicKey) : ':' ∉ key.afterColon := by
  simp only [afterColon, Base58.encode, String.toList_ofList, List.mem_cons, List.mem_append,
    List.mem_map, not_or, not_exists, not_and]
  refine ⟨by decide, fun _ _ => by decide, fun n _ => digit_ne_colon n⟩

/-- Texts are cut in one way at their last colon. -/
theorem append_colon_inj {front front' back back' : List Char} (hback : ':' ∉ back)
    (hback' : ':' ∉ back') (h : front ++ ':' :: back = front' ++ ':' :: back') :
    front = front' ∧ back = back' := by
  rcases List.append_eq_append_iff.mp h with ⟨middle, hfront, hrest⟩ | ⟨middle, hfront, hrest⟩
  · cases middle with
    | nil =>
      rw [List.append_nil] at hfront
      exact ⟨hfront.symm, (List.cons.inj hrest).2⟩
    | cons first middle =>
      have : ':' ∈ back := by
        rw [(List.cons.inj hrest).2]
        simp
      exact absurd this hback
  · cases middle with
    | nil =>
      rw [List.append_nil] at hfront
      exact ⟨hfront, (List.cons.inj hrest).2.symm⟩
    | cons first middle =>
      have : ':' ∈ back' := by
        rw [(List.cons.inj hrest).2]
        simp
      exact absurd this hback'

/-- No issued identifier ends another one: at the end of a text it is told from what stands
before. -/
theorem append_text_inj {front front' : String} {key key' : PublicKey}
    (h : front ++ key.did.text = front' ++ key'.did.text) :
    front = front' ∧ key.did = key'.did := by
  have hchars := congrArg String.toList h
  rw [String.toList_append, String.toList_append, toList_text_did, toList_text_did,
    ← List.append_assoc, ← List.append_assoc] at hchars
  obtain ⟨hfront, hback⟩ :=
    append_colon_inj key.colon_not_mem_afterColon key'.colon_not_mem_afterColon hchars
  have hfront := List.append_cancel_right hfront
  refine ⟨String.toList_inj.mp hfront, Did.text_inj (String.toList_inj.mp ?_)⟩
  rw [toList_text_did, toList_text_did, hback]

end AccessControl.PublicKey
