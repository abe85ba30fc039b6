import AccessControl.Proofs.Toml.Integer
import AccessControl.Toml.Printer

/-!
# Documents are read back

A document writes the entries of a table, each on a line, and then the tables within it, each as a
section of its own. `parse?_render?` says that reading undoes writing for tables in this order, if
the keys are bare and different, no text needs an escape, and no section holds a table.

The reader goes through a document with the finished sections and the one being read. A line adds
an entry to the latter (`sections?_entry`), and a heading finishes it (`sections?_heading`); both
take a step of fuel and at least one character, so the fuel stays above the number of characters.
-/

namespace AccessControl.Toml

/-! ### What is written as it is -/

/-- A key that is written as it is. -/
def IsBareKey (key : String) : Prop :=
  key.toList ≠ [] ∧ ∀ c ∈ key.toList, isBare c = true

instance (key : String) : Decidable (IsBareKey key) :=
  decidable_of_iff (key.toList ≠ [] ∧ key.toList.all isBare = true)
    (and_congr_right fun _ => List.all_eq_true)

/-- A character that is written between quotation marks as it is. -/
structure IsUnescaped (c : Char) : Prop where
  space_le : 0x20 ≤ c.toNat
  ne_delete : c ≠ '\x7f'
  ne_quote : c ≠ '"'
  ne_backslash : c ≠ '\\'

/-- A text that is written between quotation marks as it is. -/
def IsVerbatim (text : String) : Prop :=
  ∀ c ∈ text.toList, IsUnescaped c

/-- A value that is written on the line of its key. -/
inductive Value.OnLine : Value → Prop where
  | text {text : String} (h : IsVerbatim text) : OnLine (.text text)
  | integer {n : Int} : OnLine (.integer n)

/-- A table that is written as lines, one for each entry. -/
structure Table.OnLines (table : Table) : Prop where
  bare : ∀ entry ∈ table, IsBareKey entry.1
  onLine : ∀ entry ∈ table, entry.2.OnLine
  nodup : (table.map Prod.fst).Nodup

/-- A table of some entries and tables. -/
def Table.ofParts (entries : Table) (parts : List (String × Table)) : Table :=
  entries ++ parts.map fun part => (part.1, .table part.2)

variable {key : String} {value : Value} {table done finished : Table} {part : Section}
  {chars rest : List Char} {fuel : Nat}

/-- Characters of a class are not followed by one of another class in the first place. -/
theorem append_ne_cons {p : Char → Bool} {d : Char} {tail : List Char} (hne : chars ≠ [])
    (h : ∀ c ∈ chars, p c = true) (hd : p d = false) : chars ++ rest ≠ d :: tail := by
  obtain ⟨c, others, rfl⟩ := List.exists_cons_of_ne_nil hne
  rintro ⟨⟩
  rw [h d (List.mem_cons_self ..)] at hd
  cases hd

theorem skipSpaces_append {p : Char → Bool} (hne : chars ≠ []) (h : ∀ c ∈ chars, p c = true)
    (hspace : p ' ' = false) (htab : p '\t' = false) :
    skipSpaces (chars ++ rest) = chars ++ rest := by
  obtain ⟨c, others, rfl⟩ := List.exists_cons_of_ne_nil hne
  have hc : p c = true := h c (List.mem_cons_self ..)
  rw [List.cons_append, skipSpaces, List.dropWhile_cons_of_neg]
  rw [Bool.or_eq_true, beq_iff_eq, beq_iff_eq]
  rintro (rfl | rfl)
  · exact Bool.eq_false_iff.mp hspace hc
  · exact Bool.eq_false_iff.mp htab hc

/-! ### Texts -/

theorem longestRun_of_notMem {mark : Char} (h : mark ∉ chars) : longestRun mark chars = 0 := by
  unfold longestRun
  induction chars with
  | nil => rfl
  | cons c chars ih =>
    have hc : c ≠ mark := fun heq => h (heq ▸ List.mem_cons_self ..)
    simp only [List.foldl_cons, if_neg hc, Nat.max_self]
    exact ih fun hmem => h (List.mem_cons_of_mem _ hmem)

theorem IsUnescaped.ne {c d : Char} (h : IsUnescaped c) (hd : d.toNat < 0x20) : c ≠ d := by
  rintro rfl
  exact absurd h.space_le (Nat.not_le.mpr hd)

theorem IsUnescaped.isControl_eq_false {c : Char} (h : IsUnescaped c) : isControl c = false := by
  simp [isControl, h.ne_delete, Nat.not_lt.mpr h.space_le]

theorem escaped_of_isUnescaped (h : ∀ c ∈ chars, IsUnescaped c) :
    escaped false 0 chars = chars := by
  induction chars with
  | nil => rfl
  | cons c chars ih =>
    obtain ⟨hc, hchars⟩ := List.forall_mem_cons.mp h
    simp [escaped, ih hchars, hc.ne_quote, hc.ne_backslash, hc.isControl_eq_false,
      hc.ne (show '\n'.toNat < 0x20 by decide), hc.ne (show '\x08'.toNat < 0x20 by decide),
      hc.ne (show '\t'.toNat < 0x20 by decide), hc.ne (show '\x0c'.toNat < 0x20 by decide),
      hc.ne (show '\r'.toNat < 0x20 by decide)]

theorem textLiteral_of_isVerbatim {text : String} (h : IsVerbatim text) :
    (textLiteral text).toList = '"' :: text.toList ++ ['"'] := by
  have hcontrol : text.toList.any isControl = false :=
    List.any_eq_false.mpr fun c hc => Bool.eq_false_iff.mp (h c hc).isControl_eq_false
  have hbackslash : text.toList.contains '\\' = false := by
    rw [List.contains_eq_mem, decide_eq_false_iff_not]
    exact fun hmem => (h _ hmem).ne_backslash rfl
  have hbroken : text.toList.contains '\n' = false := by
    rw [List.contains_eq_mem, decide_eq_false_iff_not]
    exact fun hmem => (h _ hmem).ne (by decide) rfl
  have hquotes : longestRun '"' text.toList = 0 :=
    longestRun_of_notMem fun hmem => (h _ hmem).ne_quote rfl
  simp only [textLiteral, hcontrol, hbackslash, hbroken, hquotes]
  rw [escaped_of_isUnescaped h]
  simp

/-- A text without marks and escapes is read up to the next mark. -/
theorem basic?_append (h : ∀ c ∈ chars, IsUnescaped c) (hfuel : chars.length < fuel) :
    basic? fuel (chars ++ '"' :: rest) = some (chars, rest) := by
  induction chars generalizing fuel with
  | nil =>
    obtain ⟨fuel, rfl⟩ := Nat.exists_eq_add_one_of_ne_zero (Nat.ne_of_gt hfuel)
    rfl
  | cons c chars ih =>
    obtain ⟨fuel, rfl⟩ := Nat.exists_eq_add_one_of_ne_zero (Nat.ne_of_gt (Nat.zero_lt_of_lt hfuel))
    obtain ⟨hc, hchars⟩ := List.forall_mem_cons.mp h
    have hplain : isPlain c = true := by simp [isPlain, hc.space_le, hc.ne_delete]
    rw [List.cons_append, basic?, if_pos hplain, ih hchars (Nat.lt_of_succ_lt_succ hfuel)]
    · rfl
    · exact hc.ne_quote
    · exact hc.ne_backslash

theorem text?_of_isVerbatim {text : String} (h : IsVerbatim text) (hrest : rest.head? ≠ some '"') :
    text? ((textLiteral text).toList ++ rest) = some (text.toList, rest) := by
  have hread : basic? ((text.toList ++ '"' :: rest).length + 1) (text.toList ++ '"' :: rest) =
      some (text.toList, rest) :=
    basic?_append h (by rw [List.length_append, List.length_cons]; omega)
  rw [textLiteral_of_isVerbatim h, List.append_assoc, List.cons_append, List.singleton_append]
  rw [text?]
  · exact hread
  · -- Three marks would begin a text on several lines.
    intro tail htail
    cases hchars : text.toList with
    | nil =>
      rw [hchars] at htail
      cases htail
      exact hrest rfl
    | cons c chars =>
      rw [hchars] at htail
      obtain ⟨rfl, -⟩ := List.cons.inj htail
      exact (h '"' (by rw [hchars]; exact List.mem_cons_self ..)).ne_quote rfl

/-! ### Values and keys -/

/-- The text of a value on the line of its key. -/
def Value.lineText : Value → String
  | .text content => textLiteral content
  | .integer n => toString n
  | .table _ => ""

theorem value?_lineText (h : value.OnLine)
    (hfits : ∀ n, value = .integer n → fitsInteger n = true) :
    value? (fuel + 1) (value.lineText.toList ++ '\n' :: rest) = some (value, '\n' :: rest) := by
  cases h with
  | text h =>
    have hread := text?_of_isVerbatim h (show ('\n' :: rest).head? ≠ some '"' by simp)
    rw [Value.lineText]
    rw [textLiteral_of_isVerbatim h] at hread ⊢
    simp only [List.cons_append] at hread ⊢
    rw [value?, hread, Option.map_some]
    simp only [String.ofList_toList]
  | @integer n =>
    have hread : integer? ((toString n).toList ++ '\n' :: rest) = some (n, '\n' :: rest) :=
      integer?_toString (hfits n rfl) (by rintro _ ⟨⟩; rfl)
    have hfirst : ∀ {d : Char} {tail : List Char}, isOfWord d = false →
        (toString n).toList ++ '\n' :: rest ≠ d :: tail :=
      append_ne_cons (toList_toString_ne_nil n) fun c => isOfWord_of_mem_toString
    rw [Value.lineText, value?, hread, Option.map_some]
    all_goals
      intro tail
      exact hfirst rfl

/-! ### Keys -/

theorem IsBareKey.skipSpaces_append (h : IsBareKey key) :
    skipSpaces (key.toList ++ rest) = key.toList ++ rest :=
  Toml.skipSpaces_append h.1 h.2 rfl rfl

theorem keyPart?_append (h : IsBareKey key) (hrest : ∀ c ∈ rest.head?, isBare c = false) :
    keyPart? (key.toList ++ rest) = some (key, rest) := by
  have hrun : (key.toList ++ rest).takeWhile isBare = key.toList :=
    takeWhile_append_eq h.2 hrest
  have hempty : key.toList.isEmpty = false := List.isEmpty_eq_false_iff.mpr h.1
  rw [keyPart?]
  · simp only [hrun, hempty, Bool.false_eq_true, if_false, String.ofList_toList, List.drop_left]
  · intro tail
    exact append_ne_cons h.1 h.2 rfl
  · intro tail
    exact append_ne_cons h.1 h.2 rfl

/-- A bare key is read in front of what neither continues it nor begins another part. -/
theorem key?_append (h : IsBareKey key) (hrest : ∀ c ∈ rest.head?, isBare c = false)
    (hdot : (skipSpaces rest).head? ≠ some '.') :
    key? (fuel + 1) (key.toList ++ rest) = some ([key], skipSpaces rest) := by
  rw [key?, h.skipSpaces_append, keyPart?_append h hrest]
  simp only [Option.bind_eq_bind, Option.bind_some]
  split
  · rename_i tail htail
    rw [htail] at hdot
    exact absurd rfl hdot
  · rfl

/-! ### Lines -/

/-- A key that is given once does not stand before itself. -/
theorem Table.notMem_of_nodup {rest : Table}
    (h : ((table ++ (key, value) :: rest).map Prod.fst).Nodup) : key ∉ table.map Prod.fst := by
  intro hmem
  rw [List.map_append, List.nodup_append] at h
  exact h.2.2 key hmem key (List.mem_cons_self ..) rfl

theorem Table.add?_of_notMem (h : key ∉ table.map Prod.fst) :
    table.add? key value = some (table ++ [(key, value)]) := by
  have hhas : table.has key = false := by
    rw [Table.has, List.any_eq_false]
    intro entry hentry
    rw [beq_iff_eq]
    rintro rfl
    exact h (List.mem_map_of_mem hentry)
  rw [Table.add?, hhas]
  rfl

theorem Value.OnLine.skipSpaces_append (h : value.OnLine) :
    skipSpaces (value.lineText.toList ++ rest) = value.lineText.toList ++ rest := by
  cases h with
  | text h =>
    rw [lineText, textLiteral_of_isVerbatim h]
    rfl
  | integer =>
    exact Toml.skipSpaces_append (toList_toString_ne_nil _) (fun c => isOfWord_of_mem_toString)
      rfl rfl

theorem entry?_append (hkey : IsBareKey key) (h : value.OnLine)
    (hfits : ∀ n, value = .integer n → fitsInteger n = true) :
    entry? (fuel + 2) (key.toList ++ ' ' :: '=' :: ' ' :: (value.lineText.toList ++ '\n' :: rest)) =
      some ([key], value, '\n' :: rest) := by
  have hspaces : skipSpaces (' ' :: (value.lineText.toList ++ '\n' :: rest)) =
      value.lineText.toList ++ '\n' :: rest :=
    h.skipSpaces_append
  have hequals : skipSpaces (' ' :: '=' :: ' ' :: (value.lineText.toList ++ '\n' :: rest)) =
      '=' :: ' ' :: (value.lineText.toList ++ '\n' :: rest) :=
    rfl
  rw [ entry?, key?_append hkey (by rintro _ ⟨⟩; rfl) (by rw [hequals]; simp), hequals]
  simp only [Option.bind_eq_bind, Option.bind_some, hspaces, value?_lineText h hfits]
  rfl

theorem sections?_break :
    sections? (fuel + 1) done part ('\n' :: rest) = sections? fuel done part rest :=
  rfl

theorem sections?_nil : sections? (fuel + 1) done part [] = done.addSection? part :=
  rfl

/-- A line adds an entry to the section that is being read. -/
theorem sections?_entry (hkey : IsBareKey key) (h : value.OnLine)
    (hfits : ∀ n, value = .integer n → fitsInteger n = true)
    (hnew : key ∉ part.table.map Prod.fst) :
    sections? (fuel + 1) done part
        (key.toList ++ ' ' :: '=' :: ' ' :: (value.lineText.toList ++ '\n' :: rest)) =
      sections? fuel done ⟨part.path, part.table ++ [(key, value)]⟩ rest := by
  have hskip : skipSpaces (key.toList ++ ' ' :: '=' :: ' ' ::
      (value.lineText.toList ++ '\n' :: rest)) = _ :=
    hkey.skipSpaces_append
  have hentry : ∀ fuel, entry? (fuel + 2) (key.toList ++ ' ' :: '=' :: ' ' ::
      (value.lineText.toList ++ '\n' :: rest)) = some ([key], value, '\n' :: rest) :=
    fun _ => entry?_append hkey h hfits
  have hadd : part.table.addPath? [key] value = some (part.table ++ [(key, value)]) :=
    Table.add?_of_notMem hnew
  have hfirst : ∀ {d : Char} {tail : List Char}, isBare d = false →
      key.toList ++ ' ' :: '=' :: ' ' :: (value.lineText.toList ++ '\n' :: rest) ≠ d :: tail :=
    append_ne_cons hkey.1 hkey.2
  -- No line begins like a comment, a line break or a heading.
  generalize key.toList ++ ' ' :: '=' :: ' ' :: (value.lineText.toList ++ '\n' :: rest) = line
    at hskip hentry hfirst ⊢
  rw [sections?, hskip]
  split
  · cases hentry 0
  · exact absurd rfl (hfirst rfl)
  · exact absurd rfl (hfirst rfl)
  · exact absurd rfl (hfirst rfl)
  · exact absurd rfl (hfirst rfl)
  · simp only [hentry, hadd, Option.bind_eq_bind, Option.bind_some]
    rfl

/-- A heading finishes the section that is being read. -/
theorem sections?_heading (hkey : IsBareKey key) (hdone : done.addSection? part = some finished) :
    sections? (fuel + 1) done part ('[' :: (key.toList ++ ']' :: '\n' :: rest)) =
      sections? fuel finished ⟨[key], []⟩ rest := by
  have hread : key? ((key.toList ++ ']' :: '\n' :: rest).length + 1)
      (key.toList ++ ']' :: '\n' :: rest) = some ([key], ']' :: '\n' :: rest) :=
    key?_append hkey (by rintro _ ⟨⟩; rfl) (by simp [skipSpaces])
  show (key? _ _).bind _ = _
  rw [hread, Option.bind_some]
  show (done.addSection? part).bind _ = _
  rw [hdone, Option.bind_some]
  rfl

/-! ### Documents -/

/-- The line of an entry. -/
theorem entryLines?_cons {lines : String} {rest : Table} (h : value.OnLine) :
    entryLines? ((key, value) :: rest) = some lines ↔
      (∀ n, value = .integer n → fitsInteger n = true) ∧
      ∃ others, entryLines? rest = some others ∧
        key ++ " = " ++ value.lineText ++ "\n" ++ others = lines := by
  cases h with
  | text h =>
    cases hrest : entryLines? rest <;> simp [entryLines?, hrest, Value.lineText]
  | @integer n =>
    cases hrest : entryLines? rest <;> cases hn : fitsInteger n <;>
      simp [entryLines?, hrest, hn, Value.lineText]

/-- The lines of some entries add them to the section that is being read. -/
theorem exists_sections?_entryLines {entries : Table} {lines : String}
    (hlines : entryLines? entries = some lines) (hbare : ∀ entry ∈ entries, IsBareKey entry.1)
    (honLine : ∀ entry ∈ entries, entry.2.OnLine)
    (hnodup : ((part.table ++ entries).map Prod.fst).Nodup)
    (hfuel : (lines.toList ++ rest).length < fuel) :
    ∃ fuel', rest.length < fuel' ∧ sections? fuel done part (lines.toList ++ rest) =
      sections? fuel' done ⟨part.path, part.table ++ entries⟩ rest := by
  induction entries generalizing part fuel lines with
  | nil =>
    cases hlines
    exact ⟨fuel, by simpa using hfuel, by simp⟩
  | cons entry entries ih =>
    obtain ⟨key, value⟩ := entry
    obtain ⟨hkey, hbare⟩ := List.forall_mem_cons.mp hbare
    obtain ⟨hvalue, honLine⟩ := List.forall_mem_cons.mp honLine
    obtain ⟨hfits, others, hothers, rfl⟩ := (entryLines?_cons hvalue).mp hlines
    obtain ⟨fuel, rfl⟩ := Nat.exists_eq_add_one_of_ne_zero (Nat.ne_of_gt (Nat.zero_lt_of_lt hfuel))
    have hnew : key ∉ part.table.map Prod.fst := Table.notMem_of_nodup hnodup
    have hnodup' : (((part.table ++ [(key, value)]) ++ entries).map Prod.fst).Nodup := by
      rwa [List.append_assoc, List.singleton_append]
    have hline : (key ++ " = " ++ value.lineText ++ "\n" ++ others).toList ++ rest =
        key.toList ++ ' ' :: '=' :: ' ' ::
          (value.lineText.toList ++ '\n' :: (others.toList ++ rest)) := by
      simp
    rw [hline] at hfuel ⊢
    obtain ⟨fuel', hfuel', hrest⟩ := @ih ⟨part.path, part.table ++ [(key, value)]⟩ fuel others
      hothers hbare honLine hnodup' (by simp at hfuel ⊢; omega)
    refine ⟨fuel', hfuel', ?_⟩
    rw [sections?_entry hkey hvalue hfits hnew, hrest, List.append_assoc, List.singleton_append]

/-- The tables after the entries are not written with the entries. -/
theorem entryLines?_ofParts (entries : Table) (parts : List (String × Table)) :
    entryLines? (entries.ofParts parts) = entryLines? entries := by
  unfold Table.ofParts
  induction entries with
  | nil =>
    induction parts with
    | nil => rfl
    | cons part parts ih => exact ih
  | cons entry entries ih =>
    obtain ⟨key, value⟩ := entry
    rw [List.cons_append]
    cases value with
    | text value => rw [entryLines?, entryLines?, ih]
    | integer n => rw [entryLines?, entryLines?, ih]
    | table entries => rw [entryLines?, entryLines?, ih]

/-- The entries before the tables are not written with the tables. -/
theorem sectionTexts?_append {heading : List String} {entries : Table} (others : Table)
    (h : ∀ entry ∈ entries, entry.2.OnLine) :
    sectionTexts? heading (entries ++ others) = sectionTexts? heading others := by
  induction entries with
  | nil => rfl
  | cons entry entries ih =>
    obtain ⟨key, value⟩ := entry
    obtain ⟨hvalue, h⟩ := List.forall_mem_cons.mp h
    have htext : sectionText? (heading ++ [key]) value = some "" := by
      cases hvalue <;> rfl
    rw [List.cons_append, sectionTexts?, htext, ih h]
    cases sectionTexts? heading others <;> simp

/-- The section of a table, and those after it. -/
theorem sectionTexts?_cons {text : String} {rest : Table}
    (h : ∀ entry ∈ table, entry.2.OnLine) :
    sectionTexts? [] ((key, .table table) :: rest) = some text ↔
      ∃ lines others, entryLines? table = some lines ∧ sectionTexts? [] rest = some others ∧
        "\n[" ++ key ++ "]\n" ++ lines ++ others = text := by
  have hinner : sectionTexts? [key] table = some "" := by
    have := @sectionTexts?_append [key] table [] h
    rwa [List.append_nil] at this
  have hheading : ".".intercalate [key] = key := by simp
  cases hlines : entryLines? table <;> cases hothers : sectionTexts? [] rest <;>
    simp [sectionTexts?, sectionText?, hlines, hothers, hinner, hheading]

/-- The sections of a document are read in their order. -/
theorem sections?_sectionTexts {parts : List (String × Table)} {sections : String}
    (hsections : sectionTexts? [] (Table.ofParts [] parts) = some sections)
    (hparts : ∀ part ∈ parts, IsBareKey part.1 ∧ part.2.OnLines)
    (hnodup : ((finished.ofParts parts).map Prod.fst).Nodup)
    (hdone : done.addSection? part = some finished) (hfuel : sections.toList.length < fuel) :
    sections? fuel done part sections.toList = some (finished.ofParts parts) := by
  induction parts generalizing finished done part fuel sections with
  | nil =>
    cases hsections
    obtain ⟨fuel, rfl⟩ := Nat.exists_eq_add_one_of_ne_zero (Nat.ne_of_gt (Nat.zero_lt_of_lt hfuel))
    show sections? (fuel + 1) done part [] = _
    rw [sections?_nil, hdone, Table.ofParts, List.map_nil, List.append_nil]
  | cons next parts ih =>
    obtain ⟨key, table⟩ := next
    obtain ⟨⟨hkey, htable⟩, hparts⟩ := List.forall_mem_cons.mp hparts
    obtain ⟨lines, others, hlines, hothers, rfl⟩ := (sectionTexts?_cons htable.onLine).mp hsections
    have hnew : key ∉ finished.map Prod.fst := Table.notMem_of_nodup hnodup
    have hadded : finished.addSection? ⟨[key], table⟩ = some (finished ++ [(key, .table table)]) :=
      Table.add?_of_notMem hnew
    have hparts' : finished.ofParts ((key, table) :: parts) =
        Table.ofParts (finished ++ [(key, .table table)]) parts := by
      simp [Table.ofParts]
    have htext : ("\n[" ++ key ++ "]\n" ++ lines ++ others).toList =
        '\n' :: '[' :: (key.toList ++ ']' :: '\n' :: (lines.toList ++ others.toList)) := by
      simp
    rw [htext] at hfuel ⊢
    rw [hparts'] at hnodup ⊢
    -- The blank line and the heading take a step each, and the lines of the table the next ones.
    obtain ⟨fuel, rfl⟩ := Nat.exists_eq_add_of_le' (show 2 ≤ fuel by simp at hfuel; omega)
    rw [sections?_break, sections?_heading hkey hdone]
    obtain ⟨fuel', hfuel', hread⟩ := @exists_sections?_entryLines finished ⟨[key], []⟩ others.toList
      fuel table lines hlines htable.bare htable.onLine htable.nodup (by simp at hfuel ⊢; omega)
    rw [hread]
    -- What follows finishes the section of the table, so the table is among the finished ones.
    exact ih hothers hparts hnodup hadded hfuel'

/-- A document is the lines of the entries, and the sections of the tables. -/
theorem render?_ofParts {entries : Table} {parts : List (String × Table)} {document : String}
    (h : entries.OnLines) :
    render? (entries.ofParts parts) = some document ↔
      ∃ lines sections, entryLines? entries = some lines ∧
        sectionTexts? [] (Table.ofParts [] parts) = some sections ∧
        lines ++ sections = document := by
  have hsections : sectionTexts? [] (entries.ofParts parts) =
      sectionTexts? [] (Table.ofParts [] parts) :=
    sectionTexts?_append _ h.onLine
  simp [render?, entryLines?_ofParts, hsections, Option.bind_eq_some_iff]

/-- No document begins with a byte-order mark. -/
theorem head?_append_ne_mark {entries : Table} {parts : List (String × Table)}
    {lines sections : String} (hlines : entryLines? entries = some lines)
    (hsections : sectionTexts? [] (Table.ofParts [] parts) = some sections)
    (hentries : entries.OnLines) (hparts : ∀ part ∈ parts, part.2.OnLines) (rest : List Char) :
    lines.toList ++ sections.toList ≠ '\ufeff' :: rest := by
  cases entries with
  | cons entry entries =>
    obtain ⟨key, value⟩ := entry
    have hkey := hentries.bare _ (List.mem_cons_self ..)
    obtain ⟨-, others, -, rfl⟩ :=
      (entryLines?_cons (hentries.onLine _ (List.mem_cons_self ..))).mp hlines
    simp only [String.toList_append, List.append_assoc]
    exact append_ne_cons hkey.1 hkey.2 rfl
  | nil =>
    cases hlines
    cases parts with
    | nil =>
      cases hsections
      exact List.cons_ne_nil _ _ ∘ Eq.symm
    | cons part parts =>
      have hpart := (hparts part (List.mem_cons_self ..)).onLine
      obtain ⟨lines, others, -, -, rfl⟩ := (sectionTexts?_cons hpart).mp hsections
      simp

theorem parse?_eq {source : String} (h : ∀ rest, source.toList ≠ '\ufeff' :: rest) :
    parse? source = sections? (source.toList.length + 1) [] ⟨[], []⟩ source.toList := by
  unfold parse?
  split
  · rename_i rest heq
    exact absurd heq (h rest)
  · rfl

/-- **What is written is read back.** -/
theorem parse?_render? {entries : Table} {parts : List (String × Table)} {document : String}
    (hrender : render? (entries.ofParts parts) = some document)
    (hentries : entries.OnLines) (hparts : ∀ part ∈ parts, IsBareKey part.1 ∧ part.2.OnLines)
    (hnodup : ((entries.ofParts parts).map Prod.fst).Nodup) :
    parse? document = some (entries.ofParts parts) := by
  obtain ⟨lines, sections, hlines, hsections, rfl⟩ := (render?_ofParts hentries).mp hrender
  have hmark := head?_append_ne_mark hlines hsections hentries fun part hpart =>
    (hparts part hpart).2
  obtain ⟨fuel, hfuel, hread⟩ := @exists_sections?_entryLines [] ⟨[], []⟩ sections.toList
    ((lines.toList ++ sections.toList).length + 1) entries lines hlines hentries.bare
    hentries.onLine hentries.nodup (Nat.lt_succ_self _)
  rw [← String.toList_append] at hmark hread
  rw [parse?_eq hmark, hread]
  exact sections?_sectionTexts hsections hparts hnodup rfl hfuel

end AccessControl.Toml
