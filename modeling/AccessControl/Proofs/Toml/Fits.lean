import AccessControl.Toml.Parser
import AccessControl.Toml.Printer

/-!
# Integers that fit

The format has integers of 64 bits, and a value holds any integer. `Table.Fits` says that every
integer in a table is one of the format, however deep it lies. Those are the tables that can be
written (`isSome_render?_iff`), and every table that is read is one of them
(`Table.fits_of_parse?`). So what is read can be written.
-/

namespace AccessControl.Toml

/-- Every integer in a value is one of the format. -/
inductive Value.Fits : Value → Prop where
  | text {value : String} : Fits (.text value)
  | integer {n : Int} (h : fitsInteger n = true) : Fits (.integer n)
  | table {entries : List (String × Value)} (h : ∀ entry ∈ entries, entry.2.Fits) :
    Fits (.table entries)

/-- Every integer in a table is one of the format. -/
def Table.Fits (table : Table) : Prop :=
  ∀ entry ∈ table, entry.2.Fits

variable {table table' : Table} {key : String} {value : Value} {path : List String}

theorem Value.fits_integer_iff {n : Int} : (Value.integer n).Fits ↔ fitsInteger n = true := by
  constructor
  · rintro ⟨⟩
    assumption
  · exact .integer

theorem Value.fits_table_iff : (Value.table table).Fits ↔ table.Fits := by
  constructor
  · rintro ⟨⟩
    assumption
  · exact .table

theorem Table.fits_nil : Table.Fits [] :=
  List.forall_mem_nil _

theorem Table.fits_cons_iff {rest : Table} :
    Table.Fits ((key, value) :: rest) ↔ value.Fits ∧ rest.Fits :=
  List.forall_mem_cons

/-! ### What can be written -/

/-- The entries that are no tables are written if their integers fit. -/
theorem isSome_entryLines?_iff (table : Table) :
    (entryLines? table).isSome = true ↔
      ∀ entry ∈ table, ∀ n, entry.2 = .integer n → fitsInteger n = true := by
  induction table with
  | nil => simp [entryLines?]
  | cons entry rest ih =>
    obtain ⟨key, value⟩ := entry
    rw [List.forall_mem_cons, ← ih]
    cases value with
    | table entries => simp [entryLines?]
    | text value => cases hrest : entryLines? rest <;> simp [entryLines?, hrest]
    | integer n =>
      cases hrest : entryLines? rest <;> cases hn : fitsInteger n <;>
        simp [entryLines?, hrest, hn]

/-- A table fits if the integers among its entries do, and the tables among them. -/
theorem Table.fits_iff : table.Fits ↔
    (∀ entry ∈ table, ∀ n, entry.2 = .integer n → fitsInteger n = true) ∧
      ∀ entry ∈ table, ∀ entries, entry.2 = .table entries → Table.Fits entries := by
  rw [← forall_and]
  refine forall_congr' fun entry => ?_
  rw [← imp_and]
  refine imp_congr_right fun _ => ?_
  cases entry.2 with
  | text value => simp [Value.Fits.text]
  | integer n => simp [Value.fits_integer_iff]
  | table entries => simp only [Value.fits_table_iff, reduceCtorEq, Value.table.injEq, forall_eq',
      false_imp_iff, implies_true, true_and]

mutual

/-- A value is written under a heading unless it is a table that does not fit. -/
theorem isSome_sectionText?_iff (heading : List String) (value : Value) :
    (sectionText? heading value).isSome = true ↔
      ∀ entries, value = .table entries → Table.Fits entries := by
  cases value with
  | text value => simp [sectionText?]
  | integer n => simp [sectionText?]
  | table entries =>
    have hlines := isSome_entryLines?_iff entries
    have hsections := isSome_sectionTexts?_iff heading entries
    simp only [Value.table.injEq, forall_eq']
    rw [Table.fits_iff, ← hlines, ← hsections]
    cases hl : entryLines? entries <;> cases hs : sectionTexts? heading entries <;>
      simp [sectionText?, hl, hs]

/-- The tables within a table are written if they fit. -/
theorem isSome_sectionTexts?_iff (heading : List String) (table : List (String × Value)) :
    (sectionTexts? heading table).isSome = true ↔
      ∀ entry ∈ table, ∀ entries, entry.2 = .table entries → Table.Fits entries := by
  match table with
  | [] => simp [sectionTexts?]
  | (key, value) :: rest =>
    have hvalue := isSome_sectionText?_iff (heading ++ [key]) value
    have hrest := isSome_sectionTexts?_iff heading rest
    rw [List.forall_mem_cons, ← hvalue, ← hrest]
    cases hv : sectionText? (heading ++ [key]) value <;> cases hr : sectionTexts? heading rest <;>
      simp [sectionTexts?, hv, hr]

end

/-- **A table can be written exactly if it fits.** -/
theorem isSome_render?_iff : (render? table).isSome = true ↔ table.Fits := by
  rw [Table.fits_iff, ← isSome_entryLines?_iff, ← isSome_sectionTexts?_iff []]
  cases hl : entryLines? table <;> cases hs : sectionTexts? [] table <;> simp [render?, hl, hs]

/-! ### What is read -/

theorem Table.Fits.add? (h : table.Fits) (hvalue : value.Fits)
    (hadd : table.add? key value = some table') : table'.Fits := by
  unfold Table.add? at hadd
  split at hadd
  · cases hadd
  · cases hadd
    exact List.forall_mem_append.mpr ⟨h, List.forall_mem_singleton.mpr hvalue⟩

theorem Value.Fits.under (h : value.Fits) (path : List String) : (value.under path).Fits := by
  induction path with
  | nil => exact h
  | cons key path ih => exact .table (List.forall_mem_singleton.mpr ih)

theorem Table.Fits.addPath? (h : table.Fits) (hvalue : value.Fits)
    (hadd : table.addPath? path value = some table') : table'.Fits := by
  cases path with
  | nil => cases hadd
  | cons key path => exact h.add? (hvalue.under path) hadd

theorem Table.Fits.addSection? {part : Section} (h : table.Fits) (hpart : part.table.Fits)
    (hadd : table.addSection? part = some table') : table'.Fits := by
  unfold Table.addSection? at hadd
  split at hadd
  · cases hadd
    exact hpart
  · exact h.addPath? (.table hpart) hadd

theorem fitsInteger_of_integerOf? {word : List Char} {n : Int} (h : integerOf? word = some n) :
    fitsInteger n = true := by
  -- In whichever way the digits are written, the number is checked in the end.
  have hchecked : ∀ found : Option Int,
      (found.bind fun n => if fitsInteger n then some n else none) = some n →
      fitsInteger n = true := by
    intro found h
    obtain ⟨m, -, hm⟩ := Option.bind_eq_some_iff.mp h
    split at hm
    · rename_i hfits
      cases hm
      exact hfits
    · cases hm
  unfold integerOf? at h
  split at h <;> exact hchecked _ h

/-- The readers of values, of tables in braces and of entries call each other, so they are followed
together, by induction on the fuel. -/
theorem fits_of_read (fuel : Nat) :
    (∀ {chars value rest}, value? fuel chars = some (value, rest) → value.Fits) ∧
    (∀ {table chars table' rest}, Table.Fits table →
      inline? fuel table chars = some (table', rest) → table'.Fits) ∧
    (∀ {chars path value rest}, entry? fuel chars = some (path, value, rest) → value.Fits) := by
  induction fuel with
  | zero => simp [value?, inline?, entry?]
  | succ fuel ih =>
    obtain ⟨ihvalue, ihinline, ihentry⟩ := ih
    refine ⟨?_, ?_, ?_⟩
    · intro chars value rest h
      unfold value? at h
      split at h
      · obtain ⟨_, -, hpair⟩ := Option.map_eq_some_iff.mp h
        cases hpair
        exact .text
      · obtain ⟨_, -, hpair⟩ := Option.map_eq_some_iff.mp h
        cases hpair
        exact .text
      · split at h
        · cases h
          exact .table Table.fits_nil
        · obtain ⟨_, hinline, hpair⟩ := Option.map_eq_some_iff.mp h
          cases hpair
          exact .table (ihinline Table.fits_nil hinline)
      · obtain ⟨_, hinteger, hpair⟩ := Option.map_eq_some_iff.mp h
        obtain ⟨n, hn, hword⟩ := Option.map_eq_some_iff.mp hinteger
        cases hword
        cases hpair
        exact .integer (fitsInteger_of_integerOf? hn)
    · intro table chars table' rest htable h
      rw [inline?] at h
      simp only [Option.bind_eq_bind, Option.bind_eq_some_iff] at h
      obtain ⟨⟨path, value, rest'⟩, hentry, added, hadd, h⟩ := h
      have hadded := htable.addPath? (ihentry hentry) hadd
      split at h
      · cases h
        exact hadded
      · exact ihinline hadded h
      · cases h
    · intro chars path value rest h
      rw [ entry?] at h
      simp only [Option.bind_eq_bind, Option.bind_eq_some_iff] at h
      obtain ⟨⟨path', rest'⟩, -, h⟩ := h
      split at h
      · obtain ⟨⟨value', rest''⟩, hvalue, h⟩ := Option.bind_eq_some_iff.mp h
        cases h
        exact ihvalue hvalue
      · cases h

/-- Sections are read with what fits, if what comes before them does. -/
theorem Table.fits_of_sections? {fuel : Nat} {done : Table} {part : Section} {chars : List Char}
    (hdone : done.Fits) (hpart : part.table.Fits)
    (h : sections? fuel done part chars = some table) : table.Fits := by
  induction fuel generalizing done part chars with
  | zero => cases h
  | succ fuel ih =>
    unfold sections? at h
    split at h
    · exact hdone.addSection? hpart h
    · obtain ⟨_, -, h⟩ := Option.bind_eq_some_iff.mp h
      exact ih hdone hpart h
    · exact ih hdone hpart h
    · obtain ⟨_, -, h⟩ := Option.bind_eq_some_iff.mp h
      exact ih hdone hpart h
    · -- A heading finishes the section that is being read and begins an empty one.
      obtain ⟨⟨path, rest⟩, -, h⟩ := Option.bind_eq_some_iff.mp h
      dsimp only at h
      split at h
      · obtain ⟨finished, hfinished, h⟩ := Option.bind_eq_some_iff.mp h
        obtain ⟨_, -, h⟩ := Option.bind_eq_some_iff.mp h
        exact ih (hdone.addSection? hpart hfinished) Table.fits_nil h
      · cases h
    · obtain ⟨⟨path, value, rest⟩, hentry, h⟩ := Option.bind_eq_some_iff.mp h
      obtain ⟨added, hadd, h⟩ := Option.bind_eq_some_iff.mp h
      obtain ⟨_, -, h⟩ := Option.bind_eq_some_iff.mp h
      exact ih hdone (hpart.addPath? ((fits_of_read _).2.2 hentry) hadd) h

/-- **What is read fits.** -/
theorem Table.fits_of_parse? {source : String} (h : parse? source = some table) : table.Fits :=
  fits_of_sections? fits_nil fits_nil h

end AccessControl.Toml
