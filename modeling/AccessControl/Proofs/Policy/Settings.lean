import AccessControl.Proofs.Action
import AccessControl.Proofs.Policy.Params
import AccessControl.Proofs.Toml.Fits
import AccessControl.Proofs.Toml.RoundTrip

/-!
# Settings documents keep parameters

Numbers of parameters are unsigned words, and a settings document has signed integers of 64 bits. So
valid parameters can be written exactly if their numbers are below `2 ^ 63`, and then they are read
back as they were. What a document gives, with defaults for what it leaves out, is always of this
kind: `Params.settings_readBack`.

A validity of wall time is written as its seconds. Nothing is lost, as valid parameters have no
nanoseconds.
-/

namespace AccessControl

/-- The blocks or the seconds of a validity. -/
def Validity.number : Validity → UInt64
  | .blockCount blocks => blocks
  | .wall span => span.seconds

/-- The name of what a validity is measured in. -/
def Validity.measure : Validity → String
  | .blockCount _ => "block_count"
  | .wall _ => "wall"

namespace Params

variable {params : Params} {document : String} {table : Toml.Table}

/-! ### What is written -/

/-- Parameters are two entries and a table. -/
theorem toTable_eq (params : Params) : params.toTable =
    Toml.Table.ofParts [("address_prefix", .text params.addressReadable),
      ("policy_command_max_expiration_delta", .integer params.maxExpirationDelta.toNat)]
      [("registrations_commitment_validity", [(params.commitmentValidity.measure,
        .integer params.commitmentValidity.number.toNat)])] := by
  rw [toTable]
  cases params.commitmentValidity <;> rfl

theorem toToml_eq_ok_iff : params.toToml = .ok document ↔
    Toml.render? params.toTable = some document := by
  rw [toToml]
  cases Toml.render? params.toTable <;> simp

theorem fitsInteger_iff {word : UInt64} :
    Toml.fitsInteger word.toNat = true ↔ word.toNat < 2 ^ 63 := by
  rw [Toml.fitsInteger, Bool.and_eq_true, decide_eq_true_iff, decide_eq_true_iff, Word.minSigned,
    Word.maxSigned]
  omega

/-- Both numbers of parameters are such that a document has them. -/
theorem fits_toTable_iff : params.toTable.Fits ↔
    params.maxExpirationDelta.toNat < 2 ^ 63 ∧ params.commitmentValidity.number.toNat < 2 ^ 63 := by
  rw [toTable_eq, Toml.Table.ofParts]
  simp only [Toml.Table.fits_cons_iff, List.map_cons, List.map_nil, List.cons_append,
    List.nil_append, Toml.Value.fits_integer_iff, Toml.Value.fits_table_iff, fitsInteger_iff,
    Toml.Table.fits_nil, and_true, Toml.Value.Fits.text, true_and]

theorem exists_toToml_iff : (∃ document, params.toToml = .ok document) ↔
    params.maxExpirationDelta.toNat < 2 ^ 63 ∧ params.commitmentValidity.number.toNat < 2 ^ 63 := by
  simp only [toToml_eq_ok_iff, ← fits_toTable_iff, ← Toml.isSome_render?_iff,
    Option.isSome_iff_exists]

/-! ### What is read -/

/-- What a document gives is valid. -/
theorem ofToml_eq_ok_iff : ofToml document = .ok params ↔
    (∃ table, Toml.parse? document = some table ∧ ofTable? table = some params) ∧
      params.validate = .ok () := by
  rw [← Option.bind_eq_some_iff, ofToml]
  cases (Toml.parse? document).bind ofTable? with
  | none => simp
  | some found =>
    simp only [bind_eq_ok_iff, pure_eq_ok_iff, Option.some.injEq]
    constructor
    · rintro ⟨⟨⟩, hvalid, rfl⟩
      exact ⟨rfl, hvalid⟩
    · rintro ⟨rfl, hvalid⟩
      exact ⟨(), hvalid, rfl⟩

theorem tomlFieldOr?_cons_self {α : Type} {name : String} {default : α} {value : Toml.Value}
    {read? : Toml.Value → Option α} :
    tomlFieldOr? ((name, value) :: table) name default read? = read? value := by
  rw [tomlFieldOr?, List.lookup_cons_self]

theorem tomlFieldOr?_cons_of_ne {α : Type} {name key : String} {default : α} {value : Toml.Value}
    {read? : Toml.Value → Option α} (h : name ≠ key) :
    tomlFieldOr? ((key, value) :: table) name default read? =
      tomlFieldOr? table name default read? := by
  rw [tomlFieldOr?, List.lookup_cons, beq_eq_false_iff_ne.mpr h]
  rfl

/-- A value of a parameter is its default, or is read from an entry. -/
theorem exists_of_tomlFieldOr? {α : Type} {name : String} {default value : α}
    {read? : Toml.Value → Option α} (h : tomlFieldOr? table name default read? = some value) :
    value = default ∨ ∃ entry ∈ table, read? entry.2 = some value := by
  rw [tomlFieldOr?] at h
  split at h
  · cases h
    exact .inl rfl
  · rename_i found hlookup
    obtain ⟨before, after, rfl, -⟩ := List.lookup_eq_some_iff.mp hlookup
    exact .inr ⟨(name, found), List.mem_append_right _ (List.mem_cons_self ..), h⟩

theorem lt_of_tomlWord? {value : Toml.Value} {word : UInt64} (hfits : value.Fits)
    (h : tomlWord? value = some word) : word.toNat < 2 ^ 63 := by
  cases hfits with
  | text => cases h
  | table _ => cases h
  | @integer n hn =>
    rw [tomlWord?, Json.uint64?] at h
    split at h
    · rename_i hrange
      cases h
      obtain ⟨-, hle⟩ := (Bool.and_eq_true _ _).mp hn
      have hle : n ≤ Word.maxSigned := of_decide_eq_true hle
      rw [Word.maxSigned] at hle
      rw [UInt64.toNat_ofNat']
      omega
    · cases h

theorem lt_of_tomlValidity? {value : Toml.Value} {validity : Validity} (hfits : value.Fits)
    (h : tomlValidity? value = some validity) : validity.number.toNat < 2 ^ 63 := by
  unfold tomlValidity? at h
  split at h
  · obtain ⟨blocks, hblocks, rfl⟩ := Option.map_eq_some_iff.mp h
    rw [Toml.Value.fits_table_iff, Toml.Table.fits_cons_iff] at hfits
    exact lt_of_tomlWord? hfits.1 hblocks
  · obtain ⟨seconds, hseconds, rfl⟩ := Option.map_eq_some_iff.mp h
    rw [Toml.Value.fits_table_iff, Toml.Table.fits_cons_iff] at hfits
    exact lt_of_tomlWord? hfits.1 hseconds
  · cases h

theorem lt_default : default.maxExpirationDelta.toNat < 2 ^ 63 ∧
    default.commitmentValidity.number.toNat < 2 ^ 63 := by
  decide

/-- The numbers that a document gives, or leaves to the defaults, are such that a document has
them. -/
theorem lt_of_ofTable? (hfits : table.Fits) (h : ofTable? table = some params) :
    params.maxExpirationDelta.toNat < 2 ^ 63 ∧ params.commitmentValidity.number.toNat < 2 ^ 63 := by
  rw [ofTable?] at h
  obtain ⟨-, -, h⟩ := Option.bind_eq_some_iff.mp h
  obtain ⟨readable, -, h⟩ := Option.bind_eq_some_iff.mp h
  obtain ⟨delta, hdelta, h⟩ := Option.bind_eq_some_iff.mp h
  obtain ⟨validity, hvalidity, h⟩ := Option.bind_eq_some_iff.mp h
  obtain rfl := Option.some.inj h
  constructor
  · rcases exists_of_tomlFieldOr? hdelta with rfl | ⟨entry, hentry, hread⟩
    · exact lt_default.1
    · exact lt_of_tomlWord? (hfits entry hentry) hread
  · rcases exists_of_tomlFieldOr? hvalidity with rfl | ⟨entry, hentry, hread⟩
    · exact lt_default.2
    · exact lt_of_tomlValidity? (hfits entry hentry) hread

theorem tomlWord?_toNat (word : UInt64) : tomlWord? (.integer word.toNat) = some word :=
  Json.uint64?_ofUInt64 word

theorem tomlValidity?_table {validity : Validity} (h : validity.IsWhole) :
    tomlValidity? (.table [(validity.measure, .integer validity.number.toNat)]) =
      some validity := by
  cases validity with
  | blockCount blocks => simp [tomlValidity?, Validity.measure, Validity.number, tomlWord?_toNat]
  | wall span =>
    obtain ⟨seconds, nanos, hnanos⟩ := span
    obtain rfl : nanos = 0 := h
    simp [tomlValidity?, Validity.measure, Validity.number, tomlWord?_toNat, Span.ofSeconds]

/-- What is written of parameters gives the parameters. -/
theorem ofTable?_toTable (h : params.commitmentValidity.IsWhole) :
    ofTable? params.toTable = some params := by
  have hnames : params.toTable.all (fun entry => names.contains entry.1) = true := by
    rw [toTable_eq]
    rfl
  have hreadable : tomlFieldOr? params.toTable "address_prefix" default.addressReadable
      tomlText? = some params.addressReadable := by
    rw [toTable_eq, Toml.Table.ofParts, List.cons_append, tomlFieldOr?_cons_self, tomlText?]
  have hdelta : tomlFieldOr? params.toTable "policy_command_max_expiration_delta"
      default.maxExpirationDelta tomlWord? = some params.maxExpirationDelta := by
    rw [toTable_eq, Toml.Table.ofParts, List.cons_append, tomlFieldOr?_cons_of_ne (by decide),
      List.cons_append, tomlFieldOr?_cons_self, tomlWord?_toNat]
  have hvalidity : tomlFieldOr? params.toTable "registrations_commitment_validity"
      default.commitmentValidity tomlValidity? = some params.commitmentValidity := by
    rw [toTable_eq, Toml.Table.ofParts, List.cons_append, tomlFieldOr?_cons_of_ne (by decide),
      List.cons_append, tomlFieldOr?_cons_of_ne (by decide), List.nil_append, List.map_cons,
      tomlFieldOr?_cons_self, tomlValidity?_table h]
  rw [ofTable?, hnames, hreadable, hdelta, hvalidity]
  rfl

/-! ### Documents of parameters -/

/-- Letters and digits stand between quotation marks as they are. -/
theorem isVerbatim_of_isReadable {text : String} (h : isReadable text = true) :
    Toml.IsVerbatim text := by
  intro c hc
  have hchar := List.all_eq_true.mp ((Bool.and_eq_true _ _).mp h).2 c hc
  have hge : 0x20 ≤ c.toNat := by
    rcases (Bool.or_eq_true _ _).mp hchar with hlower | hdigit
    · obtain ⟨hle, -⟩ := (Bool.and_eq_true _ _).mp hlower
      exact Nat.le_trans (by decide) (UInt32.le_iff_toNat_le.mp (of_decide_eq_true hle))
    · obtain ⟨hle, -⟩ := (Bool.and_eq_true _ _).mp hdigit
      exact Nat.le_trans (by decide) (UInt32.le_iff_toNat_le.mp (of_decide_eq_true hle))
  refine ⟨hge, ?_, ?_, ?_⟩ <;>
  · rintro rfl
    cases hchar

theorem isBareKey_of_mem_names : ∀ name ∈ names, Toml.IsBareKey name := by
  decide

theorem isBareKey_measure (validity : Validity) : Toml.IsBareKey validity.measure := by
  have hbare : ∀ name ∈ ["block_count", "wall"], Toml.IsBareKey name := by decide
  cases validity with
  | blockCount blocks => exact hbare _ (by simp [Validity.measure])
  | wall span => exact hbare _ (by simp [Validity.measure])

/-- The document that is written of valid parameters is read as their table. -/
theorem parse?_of_toToml (hvalid : params.validate = .ok ()) (h : params.toToml = .ok document) :
    Toml.parse? document = some params.toTable := by
  have hprefix := isVerbatim_of_isReadable (isReadable_of_validate hvalid)
  have hreadable : Toml.IsBareKey "address_prefix" := isBareKey_of_mem_names _ (by decide)
  have hdelta : Toml.IsBareKey "policy_command_max_expiration_delta" :=
    isBareKey_of_mem_names _ (by decide)
  have hvalidity : Toml.IsBareKey "registrations_commitment_validity" :=
    isBareKey_of_mem_names _ (by decide)
  rw [toToml_eq_ok_iff, toTable_eq] at h
  rw [toTable_eq]
  apply Toml.parse?_render? h
  case hentries =>
    refine ⟨?_, ?_, by simp⟩
    · exact List.forall_mem_cons.mpr ⟨hreadable, List.forall_mem_singleton.mpr hdelta⟩
    · exact List.forall_mem_cons.mpr ⟨.text hprefix, List.forall_mem_singleton.mpr .integer⟩
  case hparts =>
    refine List.forall_mem_singleton.mpr ⟨hvalidity, ?_, ?_, by simp⟩
    · exact List.forall_mem_singleton.mpr (isBareKey_measure _)
    · exact List.forall_mem_singleton.mpr .integer
  case hnodup => simp [Toml.Table.ofParts]

/-- The document that is written of valid parameters gives the parameters. -/
theorem ofToml_of_toToml (hvalid : params.validate = .ok ()) (h : params.toToml = .ok document) :
    ofToml document = .ok params := by
  have htable : ofTable? params.toTable = some params :=
    ofTable?_toTable (isWhole_of_validate hvalid)
  exact ofToml_eq_ok_iff.mpr ⟨⟨_, parse?_of_toToml hvalid h, htable⟩, hvalid⟩

/-- **Parameters are kept by settings documents.** Valid ones can be written exactly if their
numbers are integers of the format, and are read back from what is written; and those that any
document gives are valid, can be written, and are read back. -/
theorem settings_readBack :
    (∀ params : Params, params.validate = .ok () →
      ((∃ document, params.toToml = .ok document) ↔
        params.maxExpirationDelta.toNat < 2 ^ 63 ∧
          params.commitmentValidity.number.toNat < 2 ^ 63) ∧
      ∀ document, params.toToml = .ok document → ofToml document = .ok params) ∧
    ∀ (source : String) (params : Params), ofToml source = .ok params →
      params.validate = .ok () ∧
        ∃ document, params.toToml = .ok document ∧ ofToml document = .ok params := by
  refine ⟨fun params hvalid => ⟨exists_toToml_iff, fun _ => ofToml_of_toToml hvalid⟩, ?_⟩
  intro source params h
  obtain ⟨⟨table, hparse, htable⟩, hvalid⟩ := ofToml_eq_ok_iff.mp h
  obtain ⟨document, hdocument⟩ :=
    exists_toToml_iff.mpr (lt_of_ofTable? (Toml.Table.fits_of_parse? hparse) htable)
  exact ⟨hvalid, document, hdocument, ofToml_of_toToml hvalid hdocument⟩

/-- A document that leaves a parameter out, the largest numbers that a document has, and numbers
beyond. -/
theorem settings_readBack_partial :
    let source := "policy_command_max_expiration_delta = 100\n" ++
      "\n[registrations_commitment_validity]\nblock_count = 600\n"
    let given : Params := ⟨"source", 100, .blockCount 600⟩
    let largest : Params := ⟨"a1", 0x7fffffffffffffff, .wall (.ofSeconds 0x7fffffffffffffff)⟩
    let beyond : Params := ⟨"a1", 0x8000000000000000, .wall (.ofSeconds 0x7fffffffffffffff)⟩
    (ofToml source = .ok given ∧ given.validate = .ok () ∧
      ∃ document, given.toToml = .ok document ∧ ofToml document = .ok given) ∧
    (largest.validate = .ok () ∧
      ∃ document, largest.toToml = .ok document ∧ ofToml document = .ok largest) ∧
    (beyond.validate = .ok () ∧ ¬ ∃ document, beyond.toToml = .ok document) := by
  intro source given largest beyond
  have hsource : ofToml source = .ok given := toOption_eq_some_iff.mp (by decide +kernel)
  have hlargest : largest.validate = .ok () := toOption_eq_some_iff.mp (by decide +kernel)
  have hbeyond : beyond.validate = .ok () := toOption_eq_some_iff.mp (by decide +kernel)
  obtain ⟨document, hdocument⟩ := (settings_readBack.1 largest hlargest).1.mpr (by decide)
  refine ⟨⟨hsource, settings_readBack.2 source given hsource⟩,
    ⟨hlargest, document, hdocument, (settings_readBack.1 largest hlargest).2 document hdocument⟩,
    hbeyond, ?_⟩
  rw [(settings_readBack.1 beyond hbeyond).1]
  decide

end Params

end AccessControl
