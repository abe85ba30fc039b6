import AccessControl.Proofs.Encoding.Base64
import AccessControl.Proofs.Json.Record
import AccessControl.Proofs.Json.RoundTrip
import AccessControl.Proofs.Time.Text
import AccessControl.Registration.Repository

/-!
# Stored records are read back

A commitment or an amendment that is written as JSON is read as the same record, with the time that
a clock shows at its creation (`Amendment.decodeRecord_render`). For a commitment, this needs a
validity that JSON can write, a count of blocks or of whole seconds
(`Commitment.decodeRecord_render`).

The parts come first, each with the lemma that its reader takes back what its writer makes.
-/

namespace AccessControl

/-! ### Parts of records -/

@[simp] theorem Bytes.ofJson?_toJson (octets : Bytes) :
    Bytes.ofJson? (Bytes.toJson octets) = some octets := by
  simp [Bytes.ofJson?, Bytes.toJson, Base64.decode?_encode]

@[simp] theorem Digest.ofJson?_toJson (digest : Digest) :
    Digest.ofJson? digest.toJson = some digest := by
  simp [Digest.ofJson?, Digest.toJson]

/-- Whether JSON can write a validity: it is a count of blocks or of whole seconds. -/
def Validity.IsWhole : Validity → Prop
  | .blockCount _ => True
  | .wall span => span.nanos = 0

theorem Validity.ofJson?_toJson {validity : Validity} (h : validity.IsWhole) :
    Validity.ofJson? validity.toJson = some validity := by
  cases validity with
  | blockCount blocks => simp [Validity.ofJson?, Validity.toJson, Json.ofVariant, Json.variant?]
  | wall span =>
    obtain ⟨seconds, nanos, hnanos⟩ := span
    obtain rfl : nanos = 0 := h
    simp [Validity.ofJson?, Validity.toJson, Json.ofVariant, Json.variant?, Span.ofSeconds]

namespace Timestamp

@[simp] theorem toJson_civil (t : Timestamp) : t.civil.toJson = t.toJson := by
  rw [toJson, civil, Instant.toJson_civil, toJson]

@[simp] theorem ofJson?_toJson (t : Timestamp) : ofJson? t.toJson = some t.civil := by
  rw [ofJson?, toJson, Json.record?_ofMembers (by simp) (by simp)]
  simp [civil]

end Timestamp

@[simp] theorem Object.ofJson?_toJson (object : Object) :
    Object.ofJson? object.toJson = some object := by
  rw [Object.ofJson?, Object.toJson, Json.record?_ofMembers (by simp) (by simp)]
  simp

@[simp] theorem Json.option?_ofText (text : String) :
    Json.option? Json.text? (.ofText text) = some (some text) :=
  rfl

@[simp] theorem Did.option?_toJson (did : Did) :
    Json.option? Did.ofJson? did.toJson = some (some did) :=
  congrArg (Option.map some) did.ofJson?_toJson

@[simp] theorem Json.bool?_bool (value : Bool) : (Json.bool value).bool? = some value :=
  rfl

namespace Provenance

/-- The provenance with the time that a clock shows. -/
def civil (provenance : Provenance) : Provenance :=
  { provenance with createdAt := provenance.createdAt.civil }

theorem civil_eq_self_iff {provenance : Provenance} :
    provenance.civil = provenance ↔ provenance.createdAt.wall.IsCivil := by
  rw [← Timestamp.civil_eq_self_iff]
  constructor
  · exact congrArg createdAt
  · intro h
    rw [civil, h]

@[simp] theorem civil_civil (provenance : Provenance) : provenance.civil.civil = provenance.civil :=
  civil_eq_self_iff.mpr provenance.createdAt.wall.isCivil_civil

@[simp] theorem toJson_civil (provenance : Provenance) :
    provenance.civil.toJson = provenance.toJson := by
  rw [toJson, civil, Timestamp.toJson_civil, toJson]

@[simp] theorem ofJson?_toJson (provenance : Provenance) :
    ofJson? provenance.toJson = some provenance.civil := by
  obtain ⟨createdAt, owner, txSigner, txHash⟩ := provenance
  rw [ofJson?, toJson]
  cases txHash with
  | none =>
    rw [Json.record?_ofMembers (by simp) (by simp)]
    simp [civil]
  | some hash =>
    rw [Json.record?_ofMembers (by simp) (by simp)]
    simp [civil]

end Provenance

/-! ### Records -/

namespace Commitment

/-- The commitment with the time of creation that a clock shows. -/
def civil (commitment : Commitment) : Commitment :=
  { commitment with provenance := commitment.provenance.civil }

theorem civil_eq_self_iff {commitment : Commitment} :
    commitment.civil = commitment ↔ commitment.createdAt.wall.IsCivil := by
  rw [createdAt, ← Provenance.civil_eq_self_iff]
  constructor
  · exact congrArg provenance
  · intro h
    rw [civil, h]

@[simp] theorem civil_civil (commitment : Commitment) : commitment.civil.civil = commitment.civil :=
  civil_eq_self_iff.mpr commitment.createdAt.wall.isCivil_civil

@[simp] theorem id_civil (commitment : Commitment) : commitment.civil.id = commitment.id :=
  rfl

@[simp] theorem root_civil (commitment : Commitment) : commitment.civil.root = commitment.root :=
  rfl

@[simp] theorem expired_civil (commitment : Commitment) :
    commitment.civil.expired = commitment.expired :=
  rfl

@[simp] theorem toJson_civil (commitment : Commitment) :
    commitment.civil.toJson = commitment.toJson := by
  rw [toJson, civil, Provenance.toJson_civil, toJson]

theorem ofJson?_toJson {commitment : Commitment} (h : commitment.validity.IsWhole) :
    ofJson? commitment.toJson = some commitment.civil := by
  rw [ofJson?, toJson, Json.record?_ofMembers (by simp) (by simp)]
  simp [-Option.bind_eq_bind, Json.some_bind, Validity.ofJson?_toJson h, civil]

/-- **A stored commitment is read back.** -/
theorem decodeRecord_render {commitment : Commitment} (key : Bytes)
    (h : commitment.validity.IsWhole) :
    Store.decodeRecord ofJson? key commitment.toJson.render = .ok commitment.civil := by
  rw [Store.decodeRecord, Json.parse?_render, Option.bind_some, ofJson?_toJson h]

end Commitment

namespace Amendment

/-- The amendment with the time of creation that a clock shows. -/
def civil (amendment : Amendment) : Amendment :=
  { amendment with provenance := amendment.provenance.civil }

theorem civil_eq_self_iff {amendment : Amendment} :
    amendment.civil = amendment ↔ amendment.provenance.createdAt.wall.IsCivil := by
  rw [← Provenance.civil_eq_self_iff]
  constructor
  · exact congrArg provenance
  · intro h
    rw [civil, h]

@[simp] theorem civil_civil (amendment : Amendment) : amendment.civil.civil = amendment.civil :=
  civil_eq_self_iff.mpr amendment.provenance.createdAt.wall.isCivil_civil

@[simp] theorem id_civil (amendment : Amendment) : amendment.civil.id = amendment.id :=
  rfl

@[simp] theorem disputed_civil (amendment : Amendment) :
    amendment.civil.disputed = amendment.disputed :=
  rfl

@[simp] theorem toJson_civil (amendment : Amendment) :
    amendment.civil.toJson = amendment.toJson := by
  rw [toJson, civil, Provenance.toJson_civil, toJson]

theorem ofJson?_toJson (amendment : Amendment) :
    ofJson? amendment.toJson = some amendment.civil := by
  obtain ⟨id, policyId, object, newOwner, previousOwner, commitmentId, disputed, provenance⟩ :=
    amendment
  rw [ofJson?, toJson]
  -- A missing owner leaves its field out, so the later fields stand one place earlier.
  cases previousOwner with
  | none =>
    rw [Json.record?_ofMembers (by simp) (by simp)]
    simp [-Option.bind_eq_bind, Json.some_bind, civil]
  | some owner =>
    rw [Json.record?_ofMembers (by simp) (by simp)]
    simp [-Option.bind_eq_bind, Json.some_bind, civil]

/-- **A stored amendment is read back.** -/
theorem decodeRecord_render (amendment : Amendment) (key : Bytes) :
    Store.decodeRecord ofJson? key amendment.toJson.render = .ok amendment.civil := by
  rw [Store.decodeRecord, Json.parse?_render, Option.bind_some, ofJson?_toJson]

end Amendment

end AccessControl
