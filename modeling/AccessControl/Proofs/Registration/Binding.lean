import AccessControl.Proofs.Registration.Merkle

/-!
# A root binds its leaves

`Merkle.rootMessages` and `Merkle.climbMessages` list the messages that are hashed while a root is
computed and while a path is climbed. As long as no two of the listed messages have the same digest
(`Digest.CollisionFree`), a path leads to the root only from a message that was hashed for it
(`mem_of_climb_eq_root`): the last node of the path is the root, so it was hashed from the two
digests that the root was hashed from, and so on downwards. The first octets keep leaves and nodes
apart.

The position and the number of leaves that the path claims play no part in this. They only choose
the sides of the siblings, and the argument holds for either side.
-/

namespace AccessControl

/-- No two of some messages have the same digest. -/
def Digest.CollisionFree (messages : List Bytes) : Prop :=
  ∀ first ∈ messages, ∀ second ∈ messages,
    Digest.ofMessage first = Digest.ofMessage second → first = second

instance (messages : List Bytes) : Decidable (Digest.CollisionFree messages) :=
  inferInstanceAs (Decidable (∀ first ∈ messages, ∀ second ∈ messages,
    Digest.ofMessage first = Digest.ofMessage second → first = second))

namespace Merkle

/-! ### The hashed messages -/

/-- The message that is hashed for a leaf. -/
def leafMessage (message : Bytes) : Bytes :=
  0x00 :: message

/-- The message that is hashed for a node. -/
def nodeMessage (left right : Digest) : Bytes :=
  0x01 :: (left.octets ++ right.octets)

theorem leaf_eq_ofMessage (message : Bytes) : leaf message = .ofMessage (leafMessage message) := by
  simp [leaf, Digest.ofParts, leafMessage]

theorem node_eq_ofMessage (left right : Digest) :
    node left right = .ofMessage (nodeMessage left right) := by
  simp [node, Digest.ofParts, nodeMessage]

theorem leafMessage_inj {first second : Bytes} (h : leafMessage first = leafMessage second) :
    first = second :=
  (List.cons.inj h).2

theorem nodeMessage_inj {left right left' right' : Digest}
    (h : nodeMessage left right = nodeMessage left' right') : left = left' ∧ right = right' := by
  have hoctets : left.octets ++ right.octets = left'.octets ++ right'.octets := (List.cons.inj h).2
  have hlength : left.octets.length = left'.octets.length := by
    rw [left.length_octets, left'.length_octets]
  obtain ⟨hleft, hright⟩ := List.append_inj hoctets hlength
  constructor
  · cases left; cases left'; cases hleft; rfl
  · cases right; cases right'; cases hright; rfl

theorem leafMessage_ne_nodeMessage (message : Bytes) (left right : Digest) :
    leafMessage message ≠ nodeMessage left right := by
  intro h
  cases (List.cons.inj h).1

/-- The messages that are hashed to join some leaves to their root. -/
def rootMessages (leaves : List Digest) : List Bytes :=
  if _ : 2 ≤ leaves.length then
    let left := leaves.take (leftSize leaves.length)
    let right := leaves.drop (leftSize leaves.length)
    rootMessages left ++ rootMessages right ++
      match root? left, root? right with
      | some left, some right => [nodeMessage left right]
      | _, _ => []
  else []
termination_by leaves.length
decreasing_by
  · exact length_take_leftSize_lt ‹_›
  · exact length_drop_leftSize_lt ‹_›

/-- The messages that are hashed on the way up a path. -/
def climbMessages (position last : Nat) (digest : Digest) : List Digest → List Bytes
  | [] => []
  | sibling :: rest =>
    if last = 0 then []
    else if position % 2 = 1 ∨ position = last then
      let level := skipLonely position last
      nodeMessage sibling digest ::
        climbMessages (level.1 / 2) (level.2 / 2) (node sibling digest) rest
    else
      nodeMessage digest sibling ::
        climbMessages (position / 2) (last / 2) (node digest sibling) rest

/-! ### What a root was hashed from -/

/-- Whether a digest stands in the tree of some leaves. -/
def Occurs (leaves : List Digest) (digest : Digest) : Prop :=
  digest ∈ leaves ∨ ∃ message ∈ rootMessages leaves, digest = .ofMessage message

theorem mem_rootMessages_iff {leaves : List Digest} (h : 2 ≤ leaves.length) {message : Bytes} :
    message ∈ rootMessages leaves ↔
      message ∈ rootMessages (leaves.take (leftSize leaves.length)) ∨
      message ∈ rootMessages (leaves.drop (leftSize leaves.length)) ∨
      ∃ left right, root? (leaves.take (leftSize leaves.length)) = some left ∧
        root? (leaves.drop (leftSize leaves.length)) = some right ∧
        message = nodeMessage left right := by
  rw [rootMessages, dif_pos h]
  simp only [List.mem_append, or_assoc]
  refine or_congr_right (or_congr_right ?_)
  cases root? (leaves.take (leftSize leaves.length)) <;>
    cases root? (leaves.drop (leftSize leaves.length)) <;> simp

theorem occurs_of_take {leaves : List Digest} (h : 2 ≤ leaves.length) {digest : Digest}
    (hdigest : Occurs (leaves.take (leftSize leaves.length)) digest) : Occurs leaves digest := by
  rcases hdigest with hmem | ⟨message, hmessage, rfl⟩
  · exact .inl (List.mem_of_mem_take hmem)
  · exact .inr ⟨message, (mem_rootMessages_iff h).mpr (.inl hmessage), rfl⟩

theorem occurs_of_drop {leaves : List Digest} (h : 2 ≤ leaves.length) {digest : Digest}
    (hdigest : Occurs (leaves.drop (leftSize leaves.length)) digest) : Occurs leaves digest := by
  rcases hdigest with hmem | ⟨message, hmessage, rfl⟩
  · exact .inl (List.mem_of_mem_drop hmem)
  · exact .inr ⟨message, (mem_rootMessages_iff h).mpr (.inr (.inl hmessage)), rfl⟩

theorem occurs_root {leaves : List Digest} {root : Digest} (h : root? leaves = some root) :
    Occurs leaves root := by
  rw [root?] at h
  split at h
  case isTrue hsize =>
    obtain ⟨left, hleft, h⟩ := Option.bind_eq_some_iff.mp h
    obtain ⟨right, hright, h⟩ := Option.bind_eq_some_iff.mp h
    obtain rfl := Option.some.inj h
    refine .inr ⟨nodeMessage left right, ?_, node_eq_ofMessage left right⟩
    exact (mem_rootMessages_iff hsize).mpr (.inr (.inr ⟨left, right, hleft, hright, rfl⟩))
  case isFalse => exact .inl (List.mem_of_head? h)

/-- What is hashed for a root, apart from its leaves, are nodes above two digests of the tree. -/
theorem exists_occurs_of_mem_rootMessages {leaves : List Digest} {message : Bytes}
    (h : message ∈ rootMessages leaves) :
    ∃ left right, message = nodeMessage left right ∧ Occurs leaves left ∧ Occurs leaves right := by
  induction hn : leaves.length using Nat.strongRecOn generalizing leaves with
  | ind n ih =>
    subst hn
    by_cases hsize : 2 ≤ leaves.length
    · rcases (mem_rootMessages_iff hsize).mp h with h | h | ⟨left, right, hleft, hright, rfl⟩
      · obtain ⟨left, right, rfl, hleft, hright⟩ := ih _ (length_take_leftSize_lt hsize) h rfl
        exact ⟨left, right, rfl, occurs_of_take hsize hleft, occurs_of_take hsize hright⟩
      · obtain ⟨left, right, rfl, hleft, hright⟩ := ih _ (length_drop_leftSize_lt hsize) h rfl
        exact ⟨left, right, rfl, occurs_of_drop hsize hleft, occurs_of_drop hsize hright⟩
      · exact ⟨left, right, rfl, occurs_of_take hsize (occurs_root hleft),
          occurs_of_drop hsize (occurs_root hright)⟩
    · rw [rootMessages, dif_neg hsize] at h
      cases h

/-! ### Where a path to a root begins -/

/-- All messages that are hashed for the root over the leaves with some messages. -/
def messages (leafMessages : List Bytes) : List Bytes :=
  leafMessages.map leafMessage ++ rootMessages (leafMessages.map leaf)

variable {leafMessages known : List Bytes}

/-- A digest of the tree was hashed for its root. -/
theorem exists_mem_messages_of_occurs {digest : Digest}
    (h : Occurs (leafMessages.map leaf) digest) :
    ∃ message ∈ messages leafMessages, digest = .ofMessage message := by
  rcases h with h | ⟨message, hmessage, rfl⟩
  · obtain ⟨message, hmessage, rfl⟩ := List.mem_map.mp h
    exact ⟨leafMessage message, List.mem_append_left _ (List.mem_map_of_mem hmessage),
      leaf_eq_ofMessage message⟩
  · exact ⟨message, List.mem_append_right _ hmessage, rfl⟩

/-- Below a node that was hashed for a root stand two digests of the tree. -/
theorem occurs_of_nodeMessage_mem {left right : Digest}
    (h : nodeMessage left right ∈ messages leafMessages) :
    Occurs (leafMessages.map leaf) left ∧ Occurs (leafMessages.map leaf) right := by
  rcases List.mem_append.mp h with h | h
  · obtain ⟨message, -, hmessage⟩ := List.mem_map.mp h
    exact absurd hmessage (leafMessage_ne_nodeMessage message left right)
  · obtain ⟨left', right', hmessage, hleft, hright⟩ := exists_occurs_of_mem_rootMessages h
    obtain ⟨rfl, rfl⟩ := nodeMessage_inj hmessage
    exact ⟨hleft, hright⟩

/-- The only leaves that were hashed for a root are those it was computed from. -/
theorem mem_of_leafMessage_mem {message : Bytes}
    (h : leafMessage message ∈ messages leafMessages) : message ∈ leafMessages := by
  rcases List.mem_append.mp h with h | h
  · obtain ⟨other, hother, hmessage⟩ := List.mem_map.mp h
    rwa [← leafMessage_inj hmessage]
  · obtain ⟨left, right, hmessage, -, -⟩ := exists_occurs_of_mem_rootMessages h
    exact absurd hmessage (leafMessage_ne_nodeMessage message left right)

/-- Without collisions, only a message of the tree has a digest of the tree. -/
theorem mem_messages_of_occurs {message : Bytes} (hfree : Digest.CollisionFree known)
    (hknown : ∀ other ∈ messages leafMessages, other ∈ known) (hmessage : message ∈ known)
    (h : Occurs (leafMessages.map leaf) (.ofMessage message)) :
    message ∈ messages leafMessages := by
  obtain ⟨other, hother, heq⟩ := exists_mem_messages_of_occurs h
  rwa [hfree message hmessage other (hknown other hother) heq]

/-- **A path leads to a root only from what was hashed for the root.** -/
theorem mem_of_climb_eq_root {position last : Nat} {message : Bytes} {path : List Digest}
    {root : Digest} (hfree : Digest.CollisionFree known)
    (hroot : root? (leafMessages.map leaf) = some root)
    (hknown : ∀ other ∈ messages leafMessages, other ∈ known) (hmessage : message ∈ known)
    (hclimbed : ∀ other ∈ climbMessages position last (.ofMessage message) path, other ∈ known)
    (h : climb position last (.ofMessage message) path = some root) :
    message ∈ messages leafMessages := by
  refine mem_messages_of_occurs hfree hknown hmessage ?_
  induction path generalizing position last message with
  | nil =>
    rw [climb] at h
    split at h
    · obtain rfl := Option.some.inj h
      exact occurs_root hroot
    · cases h
  | cons sibling path ih =>
    rw [climb] at h
    rw [climbMessages] at hclimbed
    split at h
    · cases h
    rename_i hlast
    rw [if_neg hlast] at hclimbed
    -- The next node up is one of the tree's, and so is what stands below it, on either side.
    split at h
    · rename_i hright
      rw [if_pos hright, node_eq_ofMessage] at hclimbed
      rw [node_eq_ofMessage] at h
      have hnext := hclimbed _ (List.mem_cons_self ..)
      have hrest := fun other hother => hclimbed other (List.mem_cons_of_mem _ hother)
      have hmem := mem_messages_of_occurs hfree hknown hnext (ih hnext hrest h)
      exact (occurs_of_nodeMessage_mem hmem).2
    · rename_i hleft
      rw [if_neg hleft, node_eq_ofMessage] at hclimbed
      rw [node_eq_ofMessage] at h
      have hnext := hclimbed _ (List.mem_cons_self ..)
      have hrest := fun other hother => hclimbed other (List.mem_cons_of_mem _ hother)
      have hmem := mem_messages_of_occurs hfree hknown hnext (ih hnext hrest h)
      exact (occurs_of_nodeMessage_mem hmem).1

end Merkle

end AccessControl
