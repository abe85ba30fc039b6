import AccessControl.Proofs.Registration.Opening

/-!
# A root binds the whole list

* `Merkle.eq_of_root?_eq`: without collisions, messages whose leaves have the same root are the
  same messages, in the same order.
* `Opening.root_eq_root_iff`: two commitments have the same root exactly if they have the same
  leaves, one by one.

Lists of different lengths have trees of different shapes, so the recursion on one of them says
little about the other. `Merkle.Joins` forgets where the lists were split: it says that a digest was
made from some messages by any tree over them. What such a digest was made from can be read off it
(`Merkle.Joins.unique`), and the split points come out equal.
-/

namespace AccessControl

namespace Merkle

variable {known : List Bytes}

/-- A digest was made from some messages, in their order, by a tree of some shape, and each message
that was hashed for it is known. -/
inductive Joins (known : List Bytes) : List Bytes → Digest → Prop
  | leaf {message : Bytes} (hknown : leafMessage message ∈ known) :
      Joins known [message] (.ofMessage (leafMessage message))
  | node {left right : List Bytes} {leftRoot rightRoot : Digest} (hleft : Joins known left leftRoot)
      (hright : Joins known right rightRoot) (hknown : nodeMessage leftRoot rightRoot ∈ known) :
      Joins known (left ++ right) (.ofMessage (nodeMessage leftRoot rightRoot))

/-- **A digest determines what it was made from**, whatever the shapes of the two trees. -/
theorem Joins.unique (hfree : Digest.CollisionFree known) {first second : List Bytes}
    {root root' : Digest} (hfirst : Joins known first root) (hsecond : Joins known second root')
    (heq : root = root') : first = second := by
  induction hfirst generalizing second root' with
  | @leaf message hknown =>
    cases hsecond with
    | @leaf message' hknown' =>
      have hmessage := hfree _ hknown _ hknown' heq
      rw [leafMessage_inj hmessage]
    | node hleft hright hknown' =>
      have hmessage := hfree _ hknown _ hknown' heq
      exact absurd hmessage (leafMessage_ne_nodeMessage _ _ _)
  | node hleft hright hknown ihleft ihright =>
    cases hsecond with
    | leaf hknown' =>
      have hmessage := hfree _ hknown _ hknown' heq
      exact absurd hmessage.symm (leafMessage_ne_nodeMessage _ _ _)
    | node hleft' hright' hknown' =>
      have hmessage := hfree _ hknown _ hknown' heq
      obtain ⟨hleftRoot, hrightRoot⟩ := nodeMessage_inj hmessage
      rw [ihleft hleft' hleftRoot, ihright hright' hrightRoot]

/-! ### The tree of a list -/

theorem messages_take_subset {list : List Bytes} (h : 2 ≤ list.length) :
    messages (list.take (leftSize list.length)) ⊆ messages list := by
  have hsize : 2 ≤ (list.map leaf).length := by rwa [List.length_map]
  intro message hmessage
  rcases List.mem_append.mp hmessage with hleaf | hnode
  · rw [List.map_take] at hleaf
    exact List.mem_append_left _ (List.mem_of_mem_take hleaf)
  · refine List.mem_append_right _ ((mem_rootMessages_iff hsize).mpr (.inl ?_))
    rwa [List.length_map, ← List.map_take]

theorem messages_drop_subset {list : List Bytes} (h : 2 ≤ list.length) :
    messages (list.drop (leftSize list.length)) ⊆ messages list := by
  have hsize : 2 ≤ (list.map leaf).length := by rwa [List.length_map]
  intro message hmessage
  rcases List.mem_append.mp hmessage with hleaf | hnode
  · rw [List.map_drop] at hleaf
    exact List.mem_append_left _ (List.mem_of_mem_drop hleaf)
  · refine List.mem_append_right _ ((mem_rootMessages_iff hsize).mpr (.inr (.inl ?_)))
    rwa [List.length_map, ← List.map_drop]

/-- The root over some messages was made from them. -/
theorem joins_of_root? {list : List Bytes} {root : Digest} (hknown : messages list ⊆ known)
    (h : root? (list.map leaf) = some root) : Joins known list root := by
  induction hn : list.length using Nat.strongRecOn generalizing list root with
  | ind n ih =>
    subst hn
    rw [root?] at h
    split at h
    case isTrue hsize =>
      obtain ⟨left, hleft, h⟩ := Option.bind_eq_some_iff.mp h
      obtain ⟨right, hright, h⟩ := Option.bind_eq_some_iff.mp h
      obtain rfl := Option.some.inj h
      have hnode : nodeMessage left right ∈ messages list :=
        List.mem_append_right _ ((mem_rootMessages_iff hsize).mpr
          (.inr (.inr ⟨left, right, hleft, hright, rfl⟩)))
      have hlt := length_take_leftSize_lt hsize
      have hlt' := length_drop_leftSize_lt hsize
      rw [List.length_map] at hsize hleft hright hlt hlt'
      rw [← List.map_take] at hleft hlt
      rw [← List.map_drop] at hright hlt'
      rw [List.length_map] at hlt hlt'
      have hjoins := Joins.node
        (ih _ hlt (List.Subset.trans (messages_take_subset hsize) hknown) hleft rfl)
        (ih _ hlt' (List.Subset.trans (messages_drop_subset hsize) hknown) hright rfl)
        (hknown hnode)
      rwa [List.take_append_drop, ← node_eq_ofMessage] at hjoins
    case isFalse hsize =>
      obtain ⟨rest, hlist⟩ := List.head?_eq_some_iff.mp h
      obtain ⟨message, tail, rfl, rfl, htail⟩ := List.map_eq_cons_iff.mp hlist
      obtain rfl : tail = [] := by
        rw [List.map_cons, List.length_cons, List.length_map] at hsize
        exact List.length_eq_zero_iff.mp (by omega)
      rw [leaf_eq_ofMessage]
      exact .leaf (hknown (List.mem_append_left _ (List.mem_singleton_self _)))

/-- **Equal roots have equal leaves**, as many and in the same order. -/
theorem eq_of_root?_eq {first second : List Bytes} {root : Digest}
    (hfree : Digest.CollisionFree (messages first ++ messages second))
    (hfirst : root? (first.map leaf) = some root)
    (hsecond : root? (second.map leaf) = some root) : first = second := by
  have hjoins := joins_of_root? (List.subset_append_left _ (messages second)) hfirst
  have hjoins' := joins_of_root? (List.subset_append_right (messages first) _) hsecond
  exact hjoins.unique hfree hjoins' rfl

end Merkle

namespace Opening

/-- The root of some objects is the root over their leaves. -/
theorem root?_of_root_eq_ok {policyId : String} {actor : Did} {objects : List Object}
    {root : Digest} (h : Opening.root policyId actor objects = .ok root) :
    Merkle.root? ((objects.map (leafData policyId actor)).map Merkle.leaf) = some root := by
  obtain ⟨-, hroot⟩ := root_eq_ok_iff.mp h
  rw [List.map_map]
  exact hroot

/-- **A root commits to the whole list.** Let two lists of objects, of any lengths, have roots, each
for its own actor in its own policy. If no two of the messages hashed for the two roots collide,
the roots are equal exactly if the two lists of leaves are: the same octets at each position, and
equally many. -/
theorem root_eq_root_iff (policyId policyId' : String) (actor actor' : Did)
    (objects objects' : List Object) (root root' : Digest)
    (hroot : Opening.root policyId actor objects = .ok root)
    (hroot' : Opening.root policyId' actor' objects' = .ok root')
    (hfree : Digest.CollisionFree
      (rootMessages policyId actor objects ++ rootMessages policyId' actor' objects')) :
    root = root' ↔
      objects.map (leafData policyId actor) = objects'.map (leafData policyId' actor') := by
  have hleaves := root?_of_root_eq_ok hroot
  have hleaves' := root?_of_root_eq_ok hroot'
  constructor
  · rintro rfl
    exact Merkle.eq_of_root?_eq hfree hleaves hleaves'
  · intro heq
    rw [heq] at hleaves
    exact Option.some.inj (hleaves.symm.trans hleaves')

/-- The letters of a leaf are not marked: under another policy, whose name takes a letter from the
resources, two objects have the root that two others have. -/
theorem root_eq_root_iff_moved :
    let actor := PublicKey.did ⟨.ed25519, List.replicate 32 7⟩
    let objects : List Object := [⟨"file", "a"⟩, ⟨"file", "b"⟩]
    let objects' : List Object := [⟨"ile", "a"⟩, ⟨"il", "eb"⟩]
    let root := Merkle.node (committedLeaf "policy" actor ⟨"file", "a"⟩)
      (committedLeaf "policy" actor ⟨"file", "b"⟩)
    (Opening.root "policy" actor objects = .ok root ∧
      Opening.root "policyf" actor objects' = .ok root ∧
      Digest.CollisionFree
        (rootMessages "policy" actor objects ++ rootMessages "policyf" actor objects')) ∧
    (root = root ↔ objects.map (leafData "policy" actor) =
      objects'.map (leafData "policyf" actor)) := by
  intro actor objects objects' root
  have hroot : Opening.root "policy" actor objects = .ok root :=
    root_eq_ok_iff.mpr ⟨by decide, Merkle.root?_of_two_le (by decide)
      (Merkle.root?_singleton _) (Merkle.root?_singleton _)⟩
  have hmoved : committedLeaf "policyf" actor ⟨"ile", "a"⟩ =
      committedLeaf "policy" actor ⟨"file", "a"⟩ := by
    simp only [committedLeaf, leafData_eq_ofText]
    rfl
  have hmoved' : committedLeaf "policyf" actor ⟨"il", "eb"⟩ =
      committedLeaf "policy" actor ⟨"file", "b"⟩ := by
    simp only [committedLeaf, leafData_eq_ofText]
    rfl
  have hroot' : Opening.root "policyf" actor objects' = .ok root := by
    refine root_eq_ok_iff.mpr ⟨by decide, Merkle.root?_of_two_le (by decide) ?_ ?_⟩
    · rw [← hmoved]
      exact Merkle.root?_singleton _
    · rw [← hmoved']
      exact Merkle.root?_singleton _
  have hfree : Digest.CollisionFree
      (rootMessages "policy" actor objects ++ rootMessages "policyf" actor objects') := by
    decide +kernel
  exact ⟨⟨hroot, hroot', hfree⟩,
    root_eq_root_iff "policy" "policyf" actor actor objects objects' root root hroot hroot' hfree⟩

end Opening

end AccessControl
