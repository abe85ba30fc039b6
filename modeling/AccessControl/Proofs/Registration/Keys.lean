import AccessControl.Registration.Repository

/-!
# Keys do not meet

`Repository.Key` names the keys of the repository by what they lead to. They fall into seven spaces,
each with a beginning of its own that no other space's beginning continues. Within a space, what
stands behind the beginning ends with a number of eight octets, so it can be read from the end.
Hence different names have different octets (`Key.octets_inj`), whatever bytes stand in roots and
policies.
-/

namespace AccessControl.Repository

/-- What a key leads to. -/
inductive Key where
  /-- The number of the last commitment. -/
  | commitmentCount
  | commitment (id : UInt64)
  /-- The entry of a commitment among those that are, or are not, marked as expired. -/
  | expiry (expired : Bool) (id : UInt64)
  /-- The entry of a commitment under its root. -/
  | root (root : Digest) (id : UInt64)
  /-- The number of the last amendment. -/
  | amendmentCount
  | amendment (id : UInt64)
  /-- The entry of a disputed amendment under its policy. -/
  | dispute (policyId : String) (id : UInt64)
  deriving DecidableEq

/-- What keys of one kind begin with. -/
inductive KeySpace where
  | commitmentCount
  | commitment
  | expiry
  | root
  | amendmentCount
  | amendment
  | dispute
  deriving DecidableEq

/-- How the keys of a space begin. -/
def KeySpace.start : KeySpace → Bytes
  | commitmentCount => Bytes.ofText "reg/commitment/seq"
  | commitment => Bytes.ofText "reg/commitment/id/"
  | expiry => Bytes.ofText "reg/commitment/expired/"
  | root => Bytes.ofText "reg/commitment/root/"
  | amendmentCount => Bytes.ofText "reg/event/seq"
  | amendment => Bytes.ofText "reg/event/id/"
  | dispute => Bytes.ofText "reg/event/hijack/"

/-- No beginning continues another one. -/
theorem KeySpace.eq_of_continues {first second : KeySpace}
    (h : first.start <+: second.start) : first = second := by
  revert h
  cases first <;> cases second <;> decide

theorem idOctets_inj {id id' : UInt64} (h : idOctets id = idOctets id') : id = id' := by
  rw [← Sequence.ofOctets_octets id, ← Sequence.ofOctets_octets id']
  exact congrArg Sequence.ofOctets h

theorem length_idOctets (id : UInt64) : (idOctets id).length = 8 :=
  Bytes.length_bigEndian ..

/-- A number at the end is read from the end, whatever stands before it. -/
theorem append_idOctets_inj {before before' : Bytes} {id id' : UInt64}
    (h : before ++ idOctets id = before' ++ idOctets id') : before = before' ∧ id = id' := by
  have hlength : (idOctets id).length = (idOctets id').length := by
    rw [length_idOctets, length_idOctets]
  obtain ⟨hbefore, hid⟩ := List.append_inj' h hlength
  exact ⟨hbefore, idOctets_inj hid⟩

/-! ### Beginnings before a number -/

theorem rootIndex_inj {root root' : Digest} (h : rootIndex root = rootIndex root') :
    root = root' := by
  obtain ⟨octets, hlength⟩ := root
  obtain ⟨octets', hlength'⟩ := root'
  have hoctets := List.append_cancel_left (List.append_cancel_right h)
  simpa using hoctets

theorem expiredIndex_inj {expired expired' : Bool}
    (h : expiredIndex expired = expiredIndex expired') : expired = expired' := by
  revert h
  cases expired <;> cases expired' <;> decide

/-- The length of a policy's name is that of the whole beginning, so it need not be read. -/
theorem disputeIndex_inj {policyId policyId' : String}
    (h : disputeIndex policyId = disputeIndex policyId') : policyId = policyId' := by
  have htail := List.append_cancel_right h
  rw [List.append_assoc, List.append_assoc] at htail
  have hnames := (List.append_inj (List.append_cancel_left htail) (by simp)).2
  exact Bytes.ofText_inj hnames

namespace Key

/-- The octets of a key. -/
def octets : Key → Bytes
  | commitmentCount => commitmentSequence.key
  | commitment id => commitmentKey id
  | expiry expired id => expiredIndex expired ++ idOctets id
  | root digest id => rootIndex digest ++ idOctets id
  | amendmentCount => amendmentSequence.key
  | amendment id => amendmentKey id
  | dispute policyId id => disputeIndex policyId ++ idOctets id

/-- The space of a key. -/
def space : Key → KeySpace
  | commitmentCount => .commitmentCount
  | commitment _ => .commitment
  | expiry _ _ => .expiry
  | root _ _ => .root
  | amendmentCount => .amendmentCount
  | amendment _ => .amendment
  | dispute _ _ => .dispute

theorem start_prefix_octets (key : Key) : key.space.start <+: key.octets := by
  cases key with
  | commitmentCount | amendmentCount => exact List.prefix_refl _
  | commitment id | amendment id => exact List.prefix_append _ _
  | expiry expired id =>
    rw [octets, expiredIndex, List.append_assoc, List.append_assoc]
    exact List.prefix_append _ _
  | root digest id =>
    rw [octets, rootIndex, List.append_assoc, List.append_assoc]
    exact List.prefix_append _ _
  | dispute policyId id =>
    rw [octets, disputeIndex, List.append_assoc, List.append_assoc, List.append_assoc]
    exact List.prefix_append _ _

/-- Keys with the same octets are of the same space. -/
theorem space_eq_of_octets_eq {first second : Key} (h : first.octets = second.octets) :
    first.space = second.space := by
  have hfirst := start_prefix_octets first
  rw [h] at hfirst
  rcases List.prefix_or_prefix_of_prefix hfirst (start_prefix_octets second) with
    hcontinues | hcontinues
  · exact KeySpace.eq_of_continues hcontinues
  · exact (KeySpace.eq_of_continues hcontinues).symm

/-- **Different keys have different octets.** -/
theorem octets_inj {first second : Key} (h : first.octets = second.octets) : first = second := by
  have hspace := space_eq_of_octets_eq h
  cases first with
  | commitmentCount =>
    cases second with
    | commitmentCount => rfl
    | _ => cases hspace
  | amendmentCount =>
    cases second with
    | amendmentCount => rfl
    | _ => cases hspace
  | commitment id =>
    cases second with
    | commitment id' => rw [idOctets_inj (List.append_cancel_left h)]
    | _ => cases hspace
  | amendment id =>
    cases second with
    | amendment id' => rw [idOctets_inj (List.append_cancel_left h)]
    | _ => cases hspace
  | expiry expired id =>
    cases second with
    | expiry expired' id' =>
      obtain ⟨hindex, rfl⟩ := append_idOctets_inj h
      rw [expiredIndex_inj hindex]
    | _ => cases hspace
  | root digest id =>
    cases second with
    | root digest' id' =>
      obtain ⟨hindex, rfl⟩ := append_idOctets_inj h
      rw [rootIndex_inj hindex]
    | _ => cases hspace
  | dispute policyId id =>
    cases second with
    | dispute policyId' id' =>
      obtain ⟨hindex, rfl⟩ := append_idOctets_inj h
      rw [disputeIndex_inj hindex]
    | _ => cases hspace

/-! ### What begins with an index -/

variable {key : Key}

/-- A key that begins as those of a space do is of the space. -/
theorem space_eq_of_start_prefix {space : KeySpace} (h : space.start <+: key.octets) :
    key.space = space := by
  rcases List.prefix_or_prefix_of_prefix (start_prefix_octets key) h with hcontinues | hcontinues
  · exact KeySpace.eq_of_continues hcontinues
  · exact (KeySpace.eq_of_continues hcontinues).symm

theorem exists_eq_commitment_of_prefix (h : KeySpace.commitment.start <+: key.octets) :
    ∃ id, key = commitment id := by
  have hspace := space_eq_of_start_prefix h
  cases key with
  | commitment id => exact ⟨id, rfl⟩
  | _ => cases hspace

theorem exists_eq_amendment_of_prefix (h : KeySpace.amendment.start <+: key.octets) :
    ∃ id, key = amendment id := by
  have hspace := space_eq_of_start_prefix h
  cases key with
  | amendment id => exact ⟨id, rfl⟩
  | _ => cases hspace

/-- The two sides of the index are as long as each other. -/
theorem exists_eq_expiry_of_prefix {expired : Bool} (h : expiredIndex expired <+: key.octets) :
    ∃ id, key = expiry expired id := by
  have hstart : KeySpace.expiry.start <+: expiredIndex expired := by
    rw [expiredIndex, List.append_assoc]
    exact List.prefix_append _ _
  have hspace := space_eq_of_start_prefix (hstart.trans h)
  cases key with
  | expiry expired' id =>
    have hlength : (expiredIndex expired).length = (expiredIndex expired').length := by
      simp [expiredIndex]
    have hindex := List.prefix_of_prefix_length_le h (List.prefix_append _ _) (Nat.le_of_eq hlength)
    exact ⟨id, by rw [expiredIndex_inj (hindex.eq_of_length hlength)]⟩
  | _ => cases hspace

/-- Roots are as long as each other. -/
theorem exists_eq_root_of_prefix {digest : Digest} (h : rootIndex digest <+: key.octets) :
    ∃ id, key = root digest id := by
  have hstart : KeySpace.root.start <+: rootIndex digest := by
    rw [rootIndex, List.append_assoc]
    exact List.prefix_append _ _
  have hspace := space_eq_of_start_prefix (hstart.trans h)
  cases key with
  | root digest' id =>
    have hlength : (rootIndex digest).length = (rootIndex digest').length := by
      simp [rootIndex, digest.length_octets, digest'.length_octets]
    have hindex := List.prefix_of_prefix_length_le h (List.prefix_append _ _) (Nat.le_of_eq hlength)
    exact ⟨id, by rw [rootIndex_inj (hindex.eq_of_length hlength)]⟩
  | _ => cases hspace

/-- The octets before the name of a policy write its length, up to what four octets can. Names whose
lengths are written alike differ in length by more than the number at the end of a key. -/
theorem exists_eq_dispute_of_prefix {policyId : String} (h : disputeIndex policyId <+: key.octets) :
    ∃ policyId' id, key = dispute policyId' id ∧
      (policyId'.utf8ByteSize < Bytes.capacity 4 → policyId' = policyId) := by
  have hstart : KeySpace.dispute.start <+: disputeIndex policyId := by
    rw [disputeIndex, List.append_assoc, List.append_assoc]
    exact List.prefix_append _ _
  have hspace := space_eq_of_start_prefix (hstart.trans h)
  cases key with
  | dispute policyId' id =>
    refine ⟨policyId', id, rfl, fun hshort => ?_⟩
    have hlonger := h.length_le
    obtain ⟨rest, hrest⟩ := h
    have hwidths : Bytes.bigEndian 4 policyId.utf8ByteSize =
        Bytes.bigEndian 4 policyId'.utf8ByteSize := by
      simp only [octets, disputeIndex, List.append_assoc] at hrest
      exact (List.append_inj (List.append_cancel_left hrest) (by simp)).1
    have hmod := congrArg Bytes.ofBigEndian hwidths
    rw [Bytes.ofBigEndian_bigEndian, Bytes.ofBigEndian_bigEndian] at hmod
    have hsize : (Bytes.ofText policyId).length = policyId.utf8ByteSize := rfl
    have hsize' : (Bytes.ofText policyId').length = policyId'.utf8ByteSize := rfl
    simp only [octets, disputeIndex, List.length_append, length_idOctets, hsize, hsize',
      Bytes.length_bigEndian] at hlonger
    rw [show Bytes.capacity 4 = 4294967296 from rfl] at hmod hshort
    -- Lengths that are written alike are equal or far apart, but these are at most eight apart.
    have hlength : policyId.utf8ByteSize = policyId'.utf8ByteSize := by omega
    rw [octets] at hrest
    have hindex := (List.append_inj hrest (by simp [disputeIndex, hsize, hsize', hlength])).1
    exact (disputeIndex_inj hindex).symm
  | _ => cases hspace

end Key

end AccessControl.Repository
