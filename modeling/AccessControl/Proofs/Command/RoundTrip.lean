import AccessControl.Command.Message
import AccessControl.Proofs.Json.Settled
import AccessControl.Proofs.Registration.Stored

/-!
# Commands and messages are read back

A message that is written as JSON is read as the same message, whatever stands in its texts and byte
strings and whatever the numbers are (`CommandMessage.ofBytes_render_toJson`).

The writer and the reader are not two sides of one thing. The reader takes a message apart as it is
written but lets the command in it settle first, within a bound on its nesting, and what has settled
stands in the order of its keys. It then looks at the name of the command, which must be one of a
list, before it reads the content, and some parts of it are read in another way than in a document.
The parts come first, each one with the depth that it needs.
-/

namespace AccessControl

open Json

/-! ### Parts of commands -/

theorem Did.settle?_toJson (depth : Nat) (did : Did) :
    settle? depth did.toJson = some did.toJson :=
  settle?_ofText depth did.text

theorem Bytes.settle?_toJson (depth : Nat) (octets : Bytes) :
    settle? depth (Bytes.toJson octets) = some (Bytes.toJson octets) :=
  settle?_ofText depth _

theorem Digest.settle?_toJson (depth : Nat) (digest : Digest) :
    settle? depth digest.toJson = some digest.toJson :=
  Bytes.settle?_toJson depth digest.octets

@[simp] theorem Object.bind_settle?_toJson (depth : Nat) (object : Object) :
    (settle? (depth + 1) object.toJson).bind Object.ofJson? = some object := by
  have hsettles : ∀ member ∈ [("resource", Json.ofText object.resource),
      ("id", .ofText object.id)], (settle? depth member.2).isSome := by
    simp
  rw [Object.toJson, settle?_ofMembers hsettles, Option.bind_some, Object.ofJson?,
    Record.record?_settled (by simp) (by simp)]
  simp [Record.field?_settled _ hsettles, List.lookup_cons]

/-- A set of actors is fields of a variant, which lie three levels deep. -/
@[simp] theorem Subject.bind_settle?_toJson (depth : Nat) (subject : Subject) :
    (settle? (depth + 3) subject.toJson).bind (Subject.ofJson? .settled) = some subject := by
  cases subject with
  | actor did =>
    rw [toJson, settle?_ofVariant (did.settle?_toJson _), Option.bind_some]
    exact congrArg (Option.map actor) did.ofJson?_toJson
  | object target =>
    obtain ⟨final, hfinal, hread⟩ :=
      Option.bind_eq_some_iff.mp (target.bind_settle?_toJson (depth + 1))
    rw [toJson, settle?_ofVariant hfinal, Option.bind_some]
    exact congrArg (Option.map object) hread
  | actorSet target relation =>
    have hsettles : ∀ member ∈ [("object", target.toJson), ("relation", .ofText relation)],
        (settle? (depth + 1) member.2).isSome := by
      simp [isSome_settle? (target.bind_settle?_toJson depth)]
    rw [toJson, settle?_ofVariant (settle?_ofMembers hsettles), Option.bind_some]
    simp only [ofVariant, ofJson?, variant?]
    show ((ofMembers (Record.settled _ _)).record? ["object", "relation"] .skip >>= _) = _
    rw [Record.record?_settled (by simp) (by simp)]
    simp [Record.field?_settled _ hsettles, List.lookup_cons]
  | allActors =>
    rw [toJson, settle?_ofText]
    rfl

@[simp] theorem Relationship.bind_settle?_toJson (depth : Nat) (relationship : Relationship) :
    (settle? (depth + 4) relationship.toJson).bind (Relationship.ofJson? .settled) =
      some relationship := by
  have hsettles : ∀ member ∈ [("object", relationship.object.toJson),
      ("relation", .ofText relationship.relation), ("subject", relationship.subject.toJson)],
      (settle? (depth + 3) member.2).isSome := by
    simp [isSome_settle? (relationship.object.bind_settle?_toJson (depth + 2)),
      isSome_settle? (relationship.subject.bind_settle?_toJson depth)]
  rw [toJson, settle?_ofMembers hsettles, Option.bind_some, ofJson?,
    Record.record?_settled (by simp) (by simp)]
  simp [Record.field?_settled _ hsettles, List.lookup_cons]

/-- A list of digests settles into itself. -/
theorem Digest.settleItems?_map_toJson (depth : Nat) (digests : List Digest) :
    settleItems? depth (digests.map Digest.toJson) = some (digests.map Digest.toJson) := by
  induction digests with
  | nil => rfl
  | cons first rest ih =>
    rw [List.map_cons, settleItems?, settle?_toJson, ih]
    rfl

theorem Digest.list?_map_toJson (digests : List Digest) :
    list? Digest.ofJson? (.array (digests.map Digest.toJson)) = some digests := by
  induction digests with
  | nil => rfl
  | cons first rest ih =>
    rw [list?] at ih ⊢
    rw [List.map_cons, List.mapM_cons, ofJson?_toJson, ih]
    rfl

@[simp] theorem RegistrationProof.bind_settle?_toJson (depth : Nat) (proof : RegistrationProof) :
    (settle? (depth + 2) proof.toJson).bind RegistrationProof.ofJson? = some proof := by
  have hpath : settle? (depth + 1) (.array (proof.path.map Digest.toJson)) =
      some (.array (proof.path.map Digest.toJson)) := by
    rw [settle?, Digest.settleItems?_map_toJson, Option.map_some]
  have hpathRead : (settle? (depth + 1) (.array (proof.path.map Digest.toJson))).bind
      (list? Digest.ofJson?) = some proof.path := by
    rw [hpath, Option.bind_some, Digest.list?_map_toJson]
  have hsettles : ∀ member ∈ [("merkle_proof", .array (proof.path.map Digest.toJson)),
      ("object", proof.object.toJson), ("leaf_count", .ofUInt64 proof.leafCount),
      ("leaf_index", .ofUInt64 proof.leafIndex)], (settle? (depth + 1) member.2).isSome := by
    simp [isSome_settle? hpathRead, isSome_settle? (proof.object.bind_settle?_toJson depth)]
  rw [toJson, settle?_ofMembers hsettles, Option.bind_some, ofJson?,
    Record.record?_settled (by simp) (by simp)]
  simp [Record.field?_settled _ hsettles, List.lookup_cons, hpathRead]

theorem Bytes.bind_settle?_toJson (depth : Nat) (octets : Bytes) :
    (settle? depth (Bytes.toJson octets)).bind Bytes.ofJson? = some octets := by
  rw [settle?_toJson, Option.bind_some, ofJson?_toJson]

/-! ### Commands -/

namespace Command

variable {α : Type} {depth : Nat} {field : String} {json : Json} {read? : Json → Option α}
  {value : α}

/-- The content that is one field is read back if the field is. -/
theorem map_soleField?_settle? (write : α → Command)
    (h : (settle? depth json).bind read? = some value) :
    ((settle? (depth + 1) (ofMembers [(field, json)])).bind fun content =>
      (soleField? field read? content).map write) = some (write value) := by
  have hsettles : ∀ member ∈ [(field, json)], (settle? depth member.2).isSome := by
    simp [isSome_settle? h]
  rw [settle?_ofMembers hsettles, Option.bind_some, soleField?,
    Record.record?_settled (by simp) (by simp), some_bind, Record.field?_settled (by simp) hsettles,
    List.lookup_cons_self, Option.bind_some, h, Option.map_some]

/-- The content of a command is read back under its name. -/
theorem bind_settle?_contentJson (depth : Nat) (command : Command) :
    (settle? (depth + 5) command.contentJson).bind (ofContent? .settled command.name) =
      some command := by
  cases command with
  | setRelationship relationship =>
    exact map_soleField?_settle? setRelationship (relationship.bind_settle?_toJson depth)
  | deleteRelationship relationship =>
    exact map_soleField?_settle? deleteRelationship (relationship.bind_settle?_toJson depth)
  | registerObject object =>
    exact map_soleField?_settle? registerObject (object.bind_settle?_toJson (depth + 3))
  | unregisterObject object =>
    exact map_soleField?_settle? unregisterObject (object.bind_settle?_toJson (depth + 3))
  | archiveObject object =>
    exact map_soleField?_settle? archiveObject (object.bind_settle?_toJson (depth + 3))
  | unarchiveObject object =>
    exact map_soleField?_settle? unarchiveObject (object.bind_settle?_toJson (depth + 3))
  | commitRegistrations root =>
    exact map_soleField?_settle? commitRegistrations (Bytes.bind_settle?_toJson (depth + 4) root)
  | flagHijackAttempt amendmentId =>
    exact map_soleField?_settle? flagHijackAttempt (bind_settle?_ofUInt64 (depth + 4) amendmentId)
  | revealRegistration commitmentId proof =>
    have hsettles : ∀ member ∈ [("registrations_commitment_id", .ofUInt64 commitmentId),
        ("proof", proof.toJson)], (settle? (depth + 4) member.2).isSome := by
      simp [isSome_settle? (proof.bind_settle?_toJson (depth + 2))]
    rw [contentJson, settle?_ofMembers hsettles, Option.bind_some]
    show ((ofMembers (Record.settled _ _)).record? ["registrations_commitment_id", "proof"]
      .refuse >>= _) = _
    rw [Record.record?_settled (by simp) (by simp)]
    simp [Record.field?_settled _ hsettles, List.lookup_cons]

/-- **A command that settles is read back.** -/
theorem exists_settle?_toJson (depth : Nat) (command : Command) :
    ∃ settled, settle? (depth + 6) command.toJson = some settled ∧
      ofSettled settled = .ok command := by
  obtain ⟨content, hcontent, hread⟩ :=
    Option.bind_eq_some_iff.mp (command.bind_settle?_contentJson depth)
  refine ⟨ofVariant command.name content, settle?_ofVariant hcontent, ?_⟩
  rw [ofVariant, ofSettled, if_pos command.name_mem_names, hread]

end Command

/-! ### Messages -/

namespace CommandMessage

/-- A command that has settled is read for its message. -/
theorem field?_cmd (members : Record) {command : Command}
    (hlookup : members.lookup "cmd" = some command.toJson) :
    ∃ settled, Record.field? members "cmd" (settle? (maxDepth - 2)) = some settled ∧
      ∀ message : Command → CommandMessage,
        withSettled message settled = .ok (message command) := by
  obtain ⟨settled, hsettled, hread⟩ := command.exists_settle?_toJson (maxDepth - 8)
  refine ⟨settled, ?_, fun message => ?_⟩
  · rw [Record.field?, hlookup, Option.bind_some]
    exact hsettled
  · rw [withSettled, hread]

/-- A message is read around its command. -/
theorem outer?_toJson (message : CommandMessage) : outer? message.toJson = some (.ok message) := by
  cases message with
  | direct policyId command =>
    obtain ⟨settled, hsettled, hread⟩ :=
      field?_cmd [("policy_id", .ofText policyId), ("cmd", command.toJson)] rfl
    show ((ofMembers [("policy_id", .ofText policyId), ("cmd", command.toJson)]).record?
      ["policy_id", "cmd"] .skip >>= _) = _
    rw [record?_ofMembers (by simp) (by simp)]
    simp [-Option.bind_eq_bind, some_bind, hsettled, hread]
  | bearer token policyId command =>
    obtain ⟨settled, hsettled, hread⟩ := field?_cmd [("bearer_token", .ofText token),
      ("policy_id", .ofText policyId), ("cmd", command.toJson)] rfl
    show ((ofMembers [("bearer_token", .ofText token), ("policy_id", .ofText policyId),
      ("cmd", command.toJson)]).record? ["bearer_token", "policy_id", "cmd"] .skip >>= _) = _
    rw [record?_ofMembers (by simp) (by simp)]
    simp [-Option.bind_eq_bind, some_bind, hsettled, hread]
  | signed token =>
    show ((ofMembers [("payload", .ofText token)]).record? ["payload"] .skip >>= _) = _
    rw [record?_ofMembers (by simp) (by simp)]
    simp [-Option.bind_eq_bind, some_bind]

/-- **Every message is read back.** -/
theorem ofBytes_render_toJson (message : CommandMessage) :
    ofBytes message.toJson.render = .ok message := by
  rw [ofBytes, parse?_render, Option.bind_some, outer?_toJson]

end CommandMessage

end AccessControl
