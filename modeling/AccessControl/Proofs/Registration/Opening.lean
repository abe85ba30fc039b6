import AccessControl.Proofs.Action
import AccessControl.Proofs.Identity.Issued
import AccessControl.Proofs.Registration.Binding
import AccessControl.Registration.Opening
import Mathlib.Tactic.Choose

/-!
# Commitments open for what was committed, and for nothing else

* `exists_rootWithProofs`: every list of well-formed objects has a root and one proof for each
  object, each of which opens that root and no other.
* `eq_and_exists_mem_of_verify`: as long as no two of the hashed messages collide, a proof that
  opens a root for an issued identifier was made for the actor that committed itself, and the name
  of its object, resource and identifier read as one text, is that of a committed object.

Completeness rests on `Merkle.exists_path?`, binding on `Merkle.mem_of_climb_eq_root`. A leaf is a
concatenation without marks between its parts, so equal leaves need not name equal objects; that
the actor is at the end of the leaf and cannot be mistaken is `PublicKey.append_text_inj`.
-/

namespace AccessControl.Opening

variable {policyId : String} {actor : Did} {objects : List Object}

/-! ### Leaves -/

/-- The leaf of an object. -/
def committedLeaf (policyId : String) (actor : Did) (object : Object) : Digest :=
  Merkle.leaf (leafData policyId actor object)

/-- A leaf is the octets of one text. -/
theorem leafData_eq_ofText (policyId : String) (actor : Did) (object : Object) :
    leafData policyId actor object =
      .ofText (policyId ++ (object.resource ++ object.id) ++ actor.text) := by
  simp [leafData, Bytes.ofText, String.toByteArray_append]

theorem leaf_of_isWellFormed {object : Object} (h : object.isWellFormed) :
    leaf policyId actor object = .ok (committedLeaf policyId actor object) := by
  rw [leaf, if_pos h, committedLeaf]

theorem isWellFormed_of_leaf {object : Object} {digest : Digest}
    (h : leaf policyId actor object = .ok digest) :
    object.isWellFormed ∧ digest = committedLeaf policyId actor object := by
  rw [leaf] at h
  split at h
  · rename_i hwf
    exact ⟨hwf, (Except.ok.inj h).symm⟩
  · cases h

theorem mapM_leaf_eq_ok_iff {digests : List Digest} :
    objects.mapM (leaf policyId actor) = .ok digests ↔
      (∀ object ∈ objects, object.isWellFormed) ∧
        digests = objects.map (committedLeaf policyId actor) := by
  induction objects generalizing digests with
  | nil =>
    rw [List.mapM_nil]
    constructor
    · intro h
      exact ⟨by simp, (Except.ok.inj h).symm⟩
    · rintro ⟨-, rfl⟩
      rfl
  | cons object objects ih =>
    rw [List.mapM_cons]
    simp only [bind_eq_ok_iff, pure_eq_ok_iff]
    constructor
    · rintro ⟨first, hleaf, rest, hrest, rfl⟩
      obtain ⟨hwf, rfl⟩ := isWellFormed_of_leaf hleaf
      obtain ⟨hwfs, rfl⟩ := ih.mp hrest
      exact ⟨List.forall_mem_cons.mpr ⟨hwf, hwfs⟩, rfl⟩
    · rintro ⟨hwf, rfl⟩
      rw [List.forall_mem_cons] at hwf
      exact ⟨_, leaf_of_isWellFormed hwf.1, _, ih.mpr ⟨hwf.2, rfl⟩, rfl⟩

theorem leaves_eq_ok_iff {digests : List Digest} :
    leaves policyId actor objects = .ok digests ↔
      objects ≠ [] ∧ (∀ object ∈ objects, object.isWellFormed) ∧
        digests = objects.map (committedLeaf policyId actor) := by
  rw [leaves]
  by_cases hne : objects = []
  · simp [hne]
  · rw [if_neg (by simpa using hne), mapM_leaf_eq_ok_iff]
    simp [hne]

/-- What has a root is some well-formed objects. -/
theorem root_eq_ok_iff {root : Digest} :
    Opening.root policyId actor objects = .ok root ↔
      (∀ object ∈ objects, object.isWellFormed) ∧
        Merkle.root? (objects.map (committedLeaf policyId actor)) = some root := by
  rw [Opening.root, bind_eq_ok_iff]
  constructor
  · rintro ⟨digests, hleaves, h⟩
    obtain ⟨-, hwf, rfl⟩ := leaves_eq_ok_iff.mp hleaves
    split at h
    · rename_i hroot
      exact ⟨hwf, by rw [hroot, Except.ok.inj h]⟩
    · cases h
  · rintro ⟨hwf, hroot⟩
    have hne : objects ≠ [] := by
      rintro rfl
      simp [Merkle.root?] at hroot
    exact ⟨_, leaves_eq_ok_iff.mpr ⟨hne, hwf, rfl⟩, by rw [hroot]⟩

/-! ### Verifying -/

theorem rootOfOctets_octets (root : Digest) : rootOfOctets root.octets = .ok root := by
  rw [rootOfOctets, Digest.ofOctets?_octets]

/-- The checks of a proof, in their order. -/
theorem verify_octets_eq {proof : RegistrationProof} {root : Digest} :
    verify root.octets policyId actor proof =
      if proof.object.isWellFormed then
        if proof.leafCount ≤ proof.leafIndex then
          .error (.indexOutOfRange proof.leafIndex proof.leafCount)
        else .ok (Merkle.verify (committedLeaf policyId actor proof.object) proof.leafIndex
          proof.leafCount proof.path root)
      else .error (.malformedObject proof.object) := by
  rw [verify, rootOfOctets_octets]
  by_cases hformed : proof.object.isWellFormed
  · rw [if_pos hformed, leaf_of_isWellFormed hformed]
    show (if proof.leafIndex < proof.leafCount then _ else _) = _
    by_cases hindex : proof.leafCount ≤ proof.leafIndex
    · rw [if_pos hindex, if_neg (UInt64.not_lt.mpr hindex)]
    · rw [if_neg hindex, if_pos (UInt64.not_le.mp hindex)]
  · rw [if_neg hformed, leaf, if_neg hformed]
    rfl

/-- A proof opens a root if its object is well-formed, its position is possible and its path leads
from the leaf to the root. -/
theorem verify_octets_eq_ok_iff {proof : RegistrationProof} {root : Digest} {opens : Bool} :
    verify root.octets policyId actor proof = .ok opens ↔
      proof.object.isWellFormed ∧ proof.leafIndex < proof.leafCount ∧
        opens = decide (Merkle.climb proof.leafIndex.toNat (proof.leafCount.toNat - 1)
          (committedLeaf policyId actor proof.object) proof.path = some root) := by
  rw [verify_octets_eq]
  by_cases hformed : proof.object.isWellFormed
  · by_cases hindex : proof.leafIndex < proof.leafCount
    · simp [Merkle.verify, hformed, hindex, UInt64.not_le.mpr hindex, beq_eq_decide, eq_comm]
    · simp [hformed, hindex, UInt64.not_lt.mp hindex]
  · simp [hformed]

/-! ### What was committed opens -/

/-- The proof of a committed object opens the root of the objects, and no other one. -/
theorem exists_proof_of_root {root : Digest}
    (hroot : Opening.root policyId actor objects = .ok root)
    (hcount : objects.length < UInt64.size) {index : Nat} (h : index < objects.length) :
    ∃ opening, Opening.proof policyId actor objects index = .ok opening ∧
      opening.object = objects[index] ∧
      ∀ other : Digest,
        verify other.octets policyId actor opening = .ok (decide (other = root)) := by
  obtain ⟨hwf, hroot⟩ := root_eq_ok_iff.mp hroot
  have hne : objects ≠ [] := by
    rintro rfl
    simp at h
  set digests := objects.map (committedLeaf policyId actor) with hdigests
  have hlength : digests.length = objects.length := List.length_map ..
  have hposition : index < digests.length := by omega
  obtain ⟨path, root', hpath, hroot', hascend⟩ := Merkle.exists_path? hposition
  obtain rfl : root' = root := Option.some.inj (hroot'.symm.trans hroot)
  have hcountNat : (UInt64.ofNat objects.length).toNat = objects.length :=
    UInt64.toNat_ofNat_of_lt hcount
  have hindexNat : (UInt64.ofNat index).toNat = index :=
    UInt64.toNat_ofNat_of_lt (Nat.lt_trans h hcount)
  refine ⟨⟨path, objects[index], UInt64.ofNat objects.length, UInt64.ofNat index⟩, ?_, rfl, ?_⟩
  · rw [Opening.proof, bind_eq_ok_iff]
    refine ⟨_, leaves_eq_ok_iff.mpr ⟨hne, hwf, rfl⟩, ?_⟩
    rw [← hdigests, hpath, List.getElem?_eq_getElem h]
  · intro other
    rw [verify_octets_eq_ok_iff]
    refine ⟨hwf _ (List.getElem_mem h), ?_, ?_⟩
    · rw [UInt64.lt_iff_toNat_lt, hcountNat, hindexNat]
      exact h
    · have hclimb : Merkle.climb index (objects.length - 1)
          (committedLeaf policyId actor objects[index]) path = some root' := by
        rw [Merkle.climb_eq_ascend h, ← hlength, ← hascend]
        simp [hdigests]
      simp only [hindexNat, hcountNat, hclimb, Option.some.injEq, eq_comm]

theorem mapM_range_eq_ok {α ε : Type} {f : Nat → Except ε α} {values : Nat → α} {count : Nat}
    (h : ∀ index < count, f index = .ok (values index)) :
    (List.range count).mapM f = .ok ((List.range count).map values) := by
  induction count with
  | zero => rfl
  | succ count ih =>
    rw [List.range_succ, List.mapM_append, List.map_append]
    simp only [bind_eq_ok_iff, List.mapM_cons, List.mapM_nil]
    exact ⟨_, ih fun index hindex => h index (by omega), _,
      ⟨_, h count (by omega), _, rfl, rfl⟩, rfl⟩

/-- **Every commitment can be opened.** Well-formed objects, as many as a word counts, have a root
and one proof for each of them, in their order; each proof opens the root for the actor in the
policy, and opens no other root of 32 octets. -/
theorem exists_rootWithProofs (policyId : String) (actor : Did) (objects : List Object)
    (hne : objects ≠ []) (hcount : objects.length < UInt64.size)
    (hwf : ∀ object ∈ objects, object.isWellFormed) :
    ∃ root proofs, rootWithProofs policyId actor objects = .ok (root, proofs) ∧
      Opening.root policyId actor objects = .ok root ∧ proofs.length = objects.length ∧
      ∀ (index : Nat) (_ : index < objects.length), ∃ opening,
        proofs[index]? = some opening ∧
        Opening.proof policyId actor objects index = .ok opening ∧
        opening.object = objects[index] ∧
        verify root.octets policyId actor opening = .ok true ∧
        ∀ other : Bytes, other.length = Digest.size → other ≠ root.octets →
          verify other policyId actor opening = .ok false := by
  have hdigests : objects.map (committedLeaf policyId actor) ≠ [] := by simpa using hne
  obtain ⟨root, hroot⟩ := Merkle.exists_root? hdigests
  have hroot : Opening.root policyId actor objects = .ok root := root_eq_ok_iff.mpr ⟨hwf, hroot⟩
  have hproof : ∀ index : Nat, ∃ opening, ∀ (h : index < objects.length),
      Opening.proof policyId actor objects index = .ok opening ∧
      opening.object = objects[index] ∧
      ∀ other : Digest, verify other.octets policyId actor opening =
        .ok (decide (other = root)) := by
    intro index
    by_cases h : index < objects.length
    · obtain ⟨opening, hopening⟩ := exists_proof_of_root hroot hcount h
      exact ⟨opening, fun _ => hopening⟩
    · exact ⟨⟨[], ⟨"", ""⟩, 0, 0⟩, fun h' => absurd h' h⟩
  choose opening hopening using hproof
  refine ⟨root, (List.range objects.length).map opening, ?_, hroot, by simp, ?_⟩
  · rw [rootWithProofs]
    simp only [bind_eq_ok_iff]
    exact ⟨root, hroot, _, mapM_range_eq_ok fun index h => (hopening index h).1, rfl⟩
  · intro index h
    obtain ⟨hproof, hobject, hverify⟩ := hopening index h
    refine ⟨opening index, ?_, hproof, hobject, ?_, ?_⟩
    · rw [List.getElem?_map, List.getElem?_range h]
      rfl
    · rw [hverify root, decide_eq_true rfl]
    · intro other hlength hother
      have := hverify ⟨other, hlength⟩
      rw [this, decide_eq_false]
      intro heq
      exact hother (congrArg Digest.octets heq)

/-- Three objects make a tree with a ragged right edge. -/
theorem exists_rootWithProofs_three :
    let objects := [⟨"file", "a"⟩, ⟨"file", "b"⟩, ⟨"file", "a"⟩]
    let actor := PublicKey.did ⟨.ed25519, List.replicate 32 7⟩
    (objects ≠ [] ∧ objects.length < UInt64.size ∧ ∀ object ∈ objects, object.isWellFormed) ∧
    ∃ root proofs, rootWithProofs "policy" actor objects = .ok (root, proofs) ∧
      Opening.root "policy" actor objects = .ok root ∧ proofs.length = 3 ∧
      ∀ (index : Nat) (_ : index < objects.length), ∃ opening,
        proofs[index]? = some opening ∧
        Opening.proof "policy" actor objects index = .ok opening ∧
        opening.object = objects[index] ∧
        verify root.octets "policy" actor opening = .ok true ∧
        ∀ other : Bytes, other.length = Digest.size → other ≠ root.octets →
          verify other "policy" actor opening = .ok false :=
  ⟨by decide, exists_rootWithProofs _ _ _ (by decide) (by decide) (by decide)⟩

/-! ### Nothing else opens -/

/-- The messages that are hashed for the root of some objects. -/
def rootMessages (policyId : String) (actor : Did) (objects : List Object) : List Bytes :=
  Merkle.messages (objects.map (leafData policyId actor))

/-- The messages that are hashed when a proof is verified. -/
def verifyMessages (policyId : String) (actor : Did) (proof : RegistrationProof) : List Bytes :=
  Merkle.leafMessage (leafData policyId actor proof.object) ::
    Merkle.climbMessages proof.leafIndex.toNat (proof.leafCount.toNat - 1)
      (committedLeaf policyId actor proof.object) proof.path

/-- Without collisions, the leaf of an opened object is the leaf of a committed one. -/
theorem exists_leafData_eq_of_verify {opener : Did} {root : Digest} {proof : RegistrationProof}
    (hroot : Opening.root policyId actor objects = .ok root)
    (hfree : Digest.CollisionFree
      (rootMessages policyId actor objects ++ verifyMessages policyId opener proof))
    (hverify : verify root.octets policyId opener proof = .ok true) :
    ∃ object ∈ objects,
      leafData policyId actor object = leafData policyId opener proof.object := by
  obtain ⟨-, hroot⟩ := root_eq_ok_iff.mp hroot
  obtain ⟨-, -, hclimb⟩ := verify_octets_eq_ok_iff.mp hverify
  have hclimb := of_decide_eq_true hclimb.symm
  have hleaves : objects.map (committedLeaf policyId actor) =
      (objects.map (leafData policyId actor)).map Merkle.leaf := by
    simp [committedLeaf]
  rw [hleaves] at hroot
  have hmem : Merkle.leafMessage (leafData policyId opener proof.object) ∈
      rootMessages policyId actor objects ++ verifyMessages policyId opener proof :=
    List.mem_append_right _ (List.mem_cons_self ..)
  have hrest : ∀ message ∈ Merkle.climbMessages proof.leafIndex.toNat
      (proof.leafCount.toNat - 1) (committedLeaf policyId opener proof.object) proof.path,
      message ∈ rootMessages policyId actor objects ++ verifyMessages policyId opener proof :=
    fun message h => List.mem_append_right _ (List.mem_cons_of_mem _ h)
  rw [committedLeaf, Merkle.leaf_eq_ofMessage] at hclimb hrest
  have hleaf := Merkle.mem_of_climb_eq_root hfree hroot (fun message => List.mem_append_left _)
    hmem hrest hclimb
  exact List.mem_map.mp (Merkle.mem_of_leafMessage_mem hleaf)

/-- **Nobody opens what was not committed.** Let the root commit the identifier of one key, and let
a proof, whatever its object, its path and the tree it claims, open that root for the identifier of
another key. If no two of the messages hashed for the root and for the proof collide, the two
identifiers are equal, and resource and identifier of the opened object read as those of a committed
one. -/
theorem eq_and_exists_mem_of_verify (policyId : String) (committer opener : PublicKey)
    (objects : List Object) (root : Digest) (proof : RegistrationProof)
    (hroot : Opening.root policyId committer.did objects = .ok root)
    (hfree : Digest.CollisionFree
      (rootMessages policyId committer.did objects ++ verifyMessages policyId opener.did proof))
    (hverify : verify root.octets policyId opener.did proof = .ok true) :
    opener.did = committer.did ∧
      ∃ object ∈ objects, object.resource ++ object.id =
        proof.object.resource ++ proof.object.id := by
  obtain ⟨object, hmem, hleaf⟩ := exists_leafData_eq_of_verify hroot hfree hverify
  rw [leafData_eq_ofText, leafData_eq_ofText] at hleaf
  obtain ⟨hnames, hactor⟩ := PublicKey.append_text_inj (Bytes.ofText_inj hleaf)
  refine ⟨hactor.symm, object, hmem, ?_⟩
  rw [← String.toList_inj] at hnames ⊢
  rw [String.toList_append, String.toList_append (s := policyId)] at hnames
  exact List.append_cancel_left hnames

/-- A letter that moves between resource and identifier does not change the leaf, so the proof of
the first of two objects also opens for a third one, whose name reads the same. -/
theorem eq_and_exists_mem_of_verify_moved :
    let key : PublicKey := ⟨.ed25519, List.replicate 32 7⟩
    let objects : List Object := [⟨"file", "ab"⟩, ⟨"file", "c"⟩]
    let sibling := committedLeaf "policy" key.did ⟨"file", "c"⟩
    let root := Merkle.node (committedLeaf "policy" key.did ⟨"file", "ab"⟩) sibling
    let proof : RegistrationProof := ⟨[sibling], ⟨"filea", "b"⟩, 2, 0⟩
    (Opening.root "policy" key.did objects = .ok root ∧
      Digest.CollisionFree
        (rootMessages "policy" key.did objects ++ verifyMessages "policy" key.did proof) ∧
      verify root.octets "policy" key.did proof = .ok true) ∧
    key.did = key.did ∧ ∃ object ∈ objects, object.resource ++ object.id = "filea" ++ "b" := by
  intro key objects sibling root proof
  have hroot : Opening.root "policy" key.did objects = .ok root :=
    root_eq_ok_iff.mpr ⟨by decide, Merkle.root?_of_two_le (by decide)
      (Merkle.root?_singleton _) (Merkle.root?_singleton sibling)⟩
  have hfree : Digest.CollisionFree
      (rootMessages "policy" key.did objects ++ verifyMessages "policy" key.did proof) := by
    decide +kernel
  have hmoved : committedLeaf "policy" key.did ⟨"filea", "b"⟩ =
      committedLeaf "policy" key.did ⟨"file", "ab"⟩ := by
    simp only [committedLeaf, leafData_eq_ofText]
    rfl
  have hverify : verify root.octets "policy" key.did proof = .ok true := by
    refine verify_octets_eq_ok_iff.mpr ⟨by decide, by decide, ?_⟩
    simp [proof, root, hmoved, Merkle.climb]
  exact ⟨⟨hroot, hfree, hverify⟩,
    eq_and_exists_mem_of_verify "policy" key key objects root proof hroot hfree hverify⟩

end AccessControl.Opening
