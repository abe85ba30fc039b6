import AccessControl.Json.Record

/-!
# Records that are written are read

An object that is written with some members has these members as its fields
(`Json.record?_ofMembers`), if all of them are fields and none stands twice. The lemmas about
`Json.Record.field?` then find each field by its name.
-/

namespace AccessControl

namespace Json

/-- A field that was read is passed on. The proof is no `rfl`, so that its uses do not make the
kernel run the readers. -/
theorem some_bind {α β : Type} (value : α) (read? : α → Option β) :
    (some value >>= read?) = read? value := by
  rw [Option.bind_eq_bind, Option.bind_some]

/-- The record that is written with the given members has these members as its fields. -/
theorem record?_ofMembers {fields : List String} {members : Record} {unknown : Unknown}
    (hknown : ∀ member ∈ members, member.1 ∈ fields) (hnodup : (members.map (·.1)).Nodup) :
    (ofMembers members).record? fields unknown = some members := by
  have htexts : texts? (members.map fun member => (some member.1, member.2)) = some members := by
    rw [texts?, List.mapM_map]
    have hpure := List.mapM_pure (m := Option) (l := members) (f := fun member => member)
    rwa [List.map_id'] at hpure
  have hfilter : members.filter (fun member => fields.contains member.1) = members := by
    rw [List.filter_eq_self]
    intro member hmember
    exact List.contains_iff_mem.mpr (hknown member hmember)
  rw [ofMembers, record?, htexts]
  simp only [Option.bind_eq_bind, Option.bind_some, hfilter]
  rw [if_pos ⟨hnodup, .inr trivial⟩]

namespace Record

variable {α : Type} {key name : String} {json : Json} {rest : Record} {read? : Json → Option α}

theorem lookup_cons_of_ne (h : name ≠ key) :
    List.lookup name ((key, json) :: rest) = List.lookup name rest := by
  rw [List.lookup_cons, beq_eq_false_iff_ne.mpr h]

@[simp] theorem field?_cons_self : field? ((name, json) :: rest) name read? = read? json := by
  rw [field?, List.lookup_cons_self, Option.bind_some]

@[simp] theorem field?_cons_of_ne (h : name ≠ key) :
    field? ((key, json) :: rest) name read? = field? rest name read? := by
  rw [field?, lookup_cons_of_ne h, field?]

@[simp] theorem optional?_nil : optional? [] name read? = some none :=
  rfl

@[simp] theorem optional?_cons_self :
    optional? ((name, json) :: rest) name read? = option? read? json := by
  rw [optional?, fieldOr?, List.lookup_cons_self]

@[simp] theorem optional?_cons_of_ne (h : name ≠ key) :
    optional? ((key, json) :: rest) name read? = optional? rest name read? := by
  rw [optional?, fieldOr?, lookup_cons_of_ne h, optional?, fieldOr?]

end Record

end Json

end AccessControl
