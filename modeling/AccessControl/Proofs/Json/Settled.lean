import AccessControl.Json.Settled
import AccessControl.Proofs.Json.Record
import AccessControl.Proofs.Store.SortedMap

/-!
# Records that are settled are read

A record that is written, and then settles, stands in the order of its keys, so a reader finds each
field in another place than the writer put it. As no key stands twice, it still finds every field,
with the value that the field settled into (`Record.field?_settled`).

That a type is read back is written as `(settle? depth value.toJson).bind ofJson? = some value`:
what is written settles within a depth, and the reader takes back the value. Texts and words settle
at any depth into what they are, a record or a variant one level above its parts
(`settle?_ofMembers`, `settle?_ofVariant`).
-/

namespace AccessControl

/-! ### Maps of lists without repeated keys -/

namespace SortedMap

variable {κ ν : Type} [Ord κ] [Std.LawfulEqOrd κ] [BEq κ] [LawfulBEq κ]

/-- Looking up a key by its order is looking it up by equality. -/
theorem lookup_eq_listLookup (key : κ) (entries : List (κ × ν)) :
    lookup key entries = entries.lookup key := by
  induction entries with
  | nil => rfl
  | cons first rest ih =>
    rw [lookup_cons, List.lookup_cons, ih]
    by_cases h : key = first.1
    · rw [if_pos (by rw [h]; exact Std.ReflOrd.compare_self), beq_iff_eq.mpr h]
    · rw [if_neg (mt Std.LawfulEqOrd.eq_of_compare h), beq_eq_false_iff_ne.mpr h]

variable [Std.TransOrd κ]

theorem get?_foldl_insert {entries : List (κ × ν)} (hnodup : (entries.map (·.1)).Nodup)
    (map : SortedMap κ ν) (key : κ) :
    (entries.foldl (fun map entry => map.insert entry.1 entry.2) map).get? key =
      (entries.lookup key).or (map.get? key) := by
  induction entries generalizing map with
  | nil => rfl
  | cons first rest ih =>
    rw [List.map_cons, List.nodup_cons] at hnodup
    rw [List.foldl_cons, ih hnodup.2, List.lookup_cons]
    by_cases h : key = first.1
    · have hrest : rest.lookup key = none := by
        rw [List.lookup_eq_none_iff]
        intro entry hentry
        rw [bne_iff_ne]
        rintro rfl
        exact hnodup.1 (h ▸ List.mem_map_of_mem hentry)
      rw [beq_iff_eq.mpr h, hrest, h, get?_insert_self]
      rfl
    · rw [beq_eq_false_iff_ne.mpr h, get?_insert_of_ne h]

/-- The map of a list in which no key stands twice has the entries of the list. -/
theorem lookup_entries_ofList {entries : List (κ × ν)} (hnodup : (entries.map (·.1)).Nodup)
    (key : κ) : (ofList entries).entries.lookup key = entries.lookup key := by
  rw [← lookup_eq_listLookup]
  show (ofList entries).get? key = _
  rw [ofList, get?_foldl_insert hnodup, get?_empty, Option.or_none]

omit [BEq κ] [LawfulBEq κ] [Std.TransOrd κ] in
theorem nodup_keys (map : SortedMap κ ν) : (map.entries.map (·.1)).Nodup := by
  rw [List.nodup_iff_pairwise_ne, List.pairwise_map]
  refine map.sorted.imp fun {first second} hlt heq => ?_
  rw [heq, Std.ReflOrd.compare_self] at hlt
  cases hlt

end SortedMap

namespace Json

/-! ### Values without parts -/

theorem settle?_ofText (depth : Nat) (text : String) :
    settle? depth (ofText text) = some (ofText text) := by
  rw [ofText, settle?]
  rfl

end Json

/-- Rounding does not double a number. -/
theorem Binary64.nearest_le_two_mul (n : Nat) : nearest n ≤ 2 * n := by
  rcases Nat.eq_zero_or_pos n with rfl | hpos
  · exact Nat.le_of_eq (nearest_of_lt (by decide))
  · rw [nearest]
    generalize hunit : 1 <<< (n.log2 - 52) = unit
    rw [Nat.one_shiftLeft] at hunit
    have hpositive : 0 < unit := hunit ▸ Nat.two_pow_pos _
    have hle : unit ≤ n := by
      rw [← hunit]
      exact Nat.le_trans (Nat.pow_le_pow_right Nat.two_pos (Nat.sub_le ..))
        (Nat.log2_self_le (Nat.ne_of_gt hpos))
    have hdist := (two_mul_dist_roundTo_le hpositive n).2
    omega

namespace Json

/-- The numbers of words are far below the largest binary64. -/
theorem isFinite_of_lt {n : Nat} (h : n < UInt64.size) : isFinite n 0 = true := by
  have hleading : leading n 0 = (n, 0) := by rw [leading, if_pos h]
  have hone : Binary64.nearest (Nat.pow 10 (0 : Int).toNat) = 1 :=
    Binary64.nearest_of_lt (by decide)
  have hnearest := Binary64.nearest_le_two_mul n
  have htwice := Binary64.nearest_le_two_mul (Binary64.nearest n)
  have hbound : 4 * UInt64.size < 1 <<< 1024 := by decide +kernel
  have hfits : Binary64.fits (Binary64.nearest n * 1) = true := by
    rw [Nat.mul_one, Binary64.fits, decide_eq_true_eq]
    omega
  rw [isFinite, hleading]
  simp only [hone, hfits]
  simp [maxExponent]

theorem settle?_ofUInt64 (depth : Nat) (value : UInt64) :
    settle? depth (ofUInt64 value) = some (ofUInt64 value) := by
  rw [ofUInt64, settle?, if_pos]
  exact isFinite_of_lt value.toNat_lt

/-! ### Records -/

/-- The members of an object after each of them has settled. -/
def Record.settled (depth : Nat) (members : Record) : Record :=
  (SortedMap.ofList (members.map fun member =>
    (member.1, (settle? depth member.2).getD .null))).entries

variable {depth : Nat} {members : Record} {fields : List String} {unknown : Unknown} {name : String}
  {json final : Json} {α : Type}

theorem settleMembers?_eq (hsettles : ∀ member ∈ members, (settle? depth member.2).isSome) :
    settleMembers? depth (members.map fun member => (some member.1, member.2)) =
      some (members.map fun member => (member.1, (settle? depth member.2).getD .null)) := by
  induction members with
  | nil => rfl
  | cons first rest ih =>
    rw [List.forall_mem_cons] at hsettles
    obtain ⟨final, hfinal⟩ := Option.isSome_iff_exists.mp hsettles.1
    rw [List.map_cons, List.map_cons, settleMembers?, ih hsettles.2, hfinal]
    rfl

/-- An object whose members settle settles, one level deeper. -/
theorem settle?_ofMembers (hsettles : ∀ member ∈ members, (settle? depth member.2).isSome) :
    settle? (depth + 1) (ofMembers members) = some (ofMembers (Record.settled depth members)) := by
  rw [ofMembers, settle?, settleMembers?_eq hsettles]
  rfl

/-- A variant whose content settles settles, one level deeper. -/
theorem settle?_ofVariant {tag : String} (h : settle? depth json = some final) :
    settle? (depth + 1) (ofVariant tag json) = some (ofVariant tag final) := by
  have hsettles : ∀ member ∈ [(tag, json)], (settle? depth member.2).isSome := by
    intro member hmember
    rw [List.mem_singleton.mp hmember, h]
    rfl
  rw [show ofVariant tag json = ofMembers [(tag, json)] from rfl, settle?_ofMembers hsettles,
    Record.settled, List.map_singleton, h]
  rfl

namespace Record

theorem nodup_settled : ((settled depth members).map (·.1)).Nodup :=
  SortedMap.nodup_keys _

/-- **Every field is found with the value that it settled into**, wherever it stands then. -/
theorem lookup_settled (hnodup : (members.map (·.1)).Nodup) :
    (settled depth members).lookup name =
      (members.lookup name).map fun json => (settle? depth json).getD .null := by
  have hkeys : ((members.map fun member =>
      (member.1, (settle? depth member.2).getD .null)).map (·.1)).Nodup := by
    rwa [List.map_map]
  rw [settled, SortedMap.lookup_entries_ofList hkeys]
  clear hnodup hkeys
  induction members with
  | nil => rfl
  | cons first rest ih =>
    rw [List.map_cons, List.lookup_cons, List.lookup_cons]
    split
    · rfl
    · exact ih

/-- Settling does not add fields. -/
theorem mem_of_mem_settled (hnodup : (members.map (·.1)).Nodup) {member : String × Json}
    (h : member ∈ settled depth members) : member.1 ∈ members.map (·.1) := by
  have hlookup : (settled depth members).lookup member.1 = some member.2 := by
    rw [← SortedMap.lookup_eq_listLookup]
    exact (SortedMap.lookup_eq_some_iff (SortedMap.sorted _)).mpr h
  rw [lookup_settled hnodup, Option.map_eq_some_iff] at hlookup
  obtain ⟨json, hjson, -⟩ := hlookup
  obtain ⟨before, after, rfl, -⟩ := List.lookup_eq_some_iff.mp hjson
  simp

/-- A settled object is read as the record of its settled members. -/
theorem record?_settled (hknown : ∀ member ∈ members, member.1 ∈ fields)
    (hnodup : (members.map (·.1)).Nodup) :
    (ofMembers (settled depth members)).record? fields unknown =
      some (settled depth members) := by
  refine record?_ofMembers (fun member hmember => ?_) nodup_settled
  obtain ⟨other, hother, hkey⟩ := List.mem_map.mp (mem_of_mem_settled hnodup hmember)
  exact hkey ▸ hknown other hother

end Record

/-- A field is read from what it settled into. -/
theorem Record.field?_settled (hnodup : (members.map (·.1)).Nodup)
    (hsettles : ∀ member ∈ members, (settle? depth member.2).isSome) (name : String)
    (read? : Json → Option α) :
    (Record.settled depth members).field? name read? =
      (members.lookup name).bind fun json => (settle? depth json).bind read? := by
  rw [Record.field?, Record.lookup_settled hnodup]
  cases hlookup : members.lookup name with
  | none => rfl
  | some json =>
    obtain ⟨before, after, hmembers, -⟩ := List.lookup_eq_some_iff.mp hlookup
    have hmem : (name, json) ∈ members := by
      rw [hmembers]
      exact List.mem_append_right _ (List.mem_cons_self ..)
    obtain ⟨final, hfinal⟩ : ∃ final, settle? depth json = some final :=
      Option.isSome_iff_exists.mp (hsettles _ hmem)
    rw [Option.map_some, Option.bind_some, Option.bind_some, hfinal, Option.getD_some,
      Option.bind_some]

/-- What is read after it has settled has settled. -/
theorem isSome_settle? {read? : Json → Option α} {value : α}
    (h : (settle? depth json).bind read? = some value) : (settle? depth json).isSome := by
  obtain ⟨final, hfinal, -⟩ := Option.bind_eq_some_iff.mp h
  rw [hfinal]
  rfl

@[simp] theorem bind_settle?_ofText (depth : Nat) (text : String) :
    (settle? depth (ofText text)).bind text? = some text := by
  rw [settle?_ofText, Option.bind_some, text?_ofText]

@[simp] theorem bind_settle?_ofUInt64 (depth : Nat) (value : UInt64) :
    (settle? depth (ofUInt64 value)).bind uint64? = some value := by
  rw [settle?_ofUInt64, Option.bind_some, uint64?_ofUInt64]

@[simp] theorem isSome_settle?_ofText (depth : Nat) (text : String) :
    (settle? depth (ofText text)).isSome :=
  isSome_settle? (bind_settle?_ofText depth text)

@[simp] theorem isSome_settle?_ofUInt64 (depth : Nat) (value : UInt64) :
    (settle? depth (ofUInt64 value)).isSome :=
  isSome_settle? (bind_settle?_ofUInt64 depth value)

end Json

end AccessControl
