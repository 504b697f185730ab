import HoldoutLine.Proofs.Table.Places
import HoldoutLine.Proofs.Text.Utf8
import HoldoutLine.Table.Written

/-! # Written tables are read back

The scanner is run over the bytes of a written table, level by level: a byte, the text of a field with and without
quotes, the fields of a row, the rows. `Scanner.Holds` says what it holds after each of them, in reading order and
without positions. The result is `records_of_written`: whatever way is chosen to write a table, its records are its
rows.
-/

namespace HoldoutLine.Table

/-- A byte that is content wherever it stands. -/
structure IsPlain (byte : UInt8) : Prop where
  notComma : byte ≠ comma
  notQuote : byte ≠ quote
  notLineEnd : isLineEnd byte = false

namespace Scanner

/-- What a scanner holds, in reading order; positions and numbers are left out. -/
structure Holds (scanner : Scanner) (place : Place) (field : List UInt8) (fields : List (List UInt8))
    (rows : List (List (List UInt8))) : Prop where
  place_eq : scanner.place = place
  field_eq : scanner.field.reverse = field
  fields_eq : scanner.fields.reverse = fields
  rows_eq : scanner.finished.map Record.fields = rows

namespace Holds

variable {scanner : Scanner} {place : Place} {field : List UInt8} {fields : List (List UInt8)}
  {rows : List (List (List UInt8))} {byte : UInt8} {bytes : List UInt8}

/-- Holding does not depend on how far the scanner has come. -/
theorem move (holds : scanner.Holds place field fields rows) (here : Position) :
    { scanner with here }.Holds place field fields rows :=
  ⟨holds.place_eq, holds.field_eq, holds.fields_eq, holds.rows_eq⟩

theorem push (holds : scanner.Holds place field fields rows) (next : Place) (byte : UInt8) :
    (scanner.push next byte).Holds next (field ++ [byte]) fields rows :=
  ⟨rfl, holds.field_eq ▸ List.reverse_cons, holds.fields_eq, holds.rows_eq⟩

theorem endField (holds : scanner.Holds place field fields rows) :
    scanner.endField.Holds .fieldStart [] (fields ++ [field]) rows := by
  refine ⟨rfl, rfl, ?_, holds.rows_eq⟩
  rw [Scanner.endField, List.reverse_cons, holds.field_eq, holds.fields_eq]

theorem record (holds : scanner.Holds place field fields rows) : scanner.record.fields = fields ++ [field] := by
  rw [Scanner.record, List.reverse_cons, holds.field_eq, holds.fields_eq]

theorem endRecord (holds : scanner.Holds place field fields rows) :
    scanner.endRecord.Holds .betweenRecords [] [] (rows ++ [fields ++ [field]]) := by
  refine ⟨rfl, rfl, rfl, ?_⟩
  rw [finished_endRecord, List.map_append, holds.rows_eq, List.map_singleton, holds.record]

section Bytes

/-- Plain content, at the start of a field or inside one without quotes. -/
theorem plain (holds : scanner.Holds place field fields rows) (plain : IsPlain byte)
    (outside : place = .betweenRecords ∨ place = .fieldStart ∨ place = .bare) :
    (scanner.step byte).Holds .bare (field ++ [byte]) fields rows := by
  have pushed := (holds.move (scanner.here.after byte)).push .bare byte
  unfold step
  rw [holds.place_eq]
  rcases outside with rfl | rfl | rfl <;>
    simp only [firstByte, bareByte, plain.notLineEnd, plain.notComma, plain.notQuote, if_false, Bool.false_eq_true] <;>
    exact pushed

/-- Content inside quotes. -/
theorem quoted (holds : scanner.Holds .quoted field fields rows) (notQuote : byte ≠ quote) :
    (scanner.step byte).Holds .quoted (field ++ [byte]) fields rows := by
  have pushed := (holds.move (scanner.here.after byte)).push .quoted byte
  unfold step
  rw [holds.place_eq]
  dsimp only
  rw [if_neg notQuote]
  exact pushed

/-- The quote that opens quotes. -/
theorem openQuotes (holds : scanner.Holds place field fields rows)
    (start : place = .betweenRecords ∨ place = .fieldStart) :
    (scanner.step quote).Holds .quoted field fields rows := by
  unfold step
  rw [holds.place_eq]
  rcases start with rfl | rfl <;> exact ⟨rfl, holds.field_eq, holds.fields_eq, holds.rows_eq⟩

/-- A quote inside quotes: the end of them, or half of a quote. -/
theorem seeQuote (holds : scanner.Holds .quoted field fields rows) :
    (scanner.step quote).Holds .quoteSeen field fields rows := by
  unfold step
  rw [holds.place_eq]
  exact ⟨rfl, holds.field_eq, holds.fields_eq, holds.rows_eq⟩

private theorem secondQuote (holds : scanner.Holds .quoteSeen field fields rows) :
    (scanner.step quote).Holds .quoted (field ++ [quote]) fields rows := by
  have pushed := (holds.move (scanner.here.after quote)).push .quoted quote
  unfold step
  rw [holds.place_eq]
  exact pushed

/-- A comma ends a field anywhere but inside quotes. -/
theorem separator (holds : scanner.Holds place field fields rows) (outside : place ≠ .quoted) :
    (scanner.step comma).Holds .fieldStart [] (fields ++ [field]) rows := by
  have ended := (holds.move (scanner.here.after comma)).endField
  unfold step
  rw [holds.place_eq]
  cases place with
  | quoted => exact (outside rfl).elim
  | _ => exact ended

/-- A line end ends the record that it stands in. -/
theorem lineEnd (holds : scanner.Holds place field fields rows) (outside : place ≠ .quoted)
    (inside : place ≠ .betweenRecords) (ends : isLineEnd byte = true) :
    (scanner.step byte).Holds .betweenRecords [] [] (rows ++ [fields ++ [field]]) := by
  have ended := (holds.move (scanner.here.after byte)).endRecord
  have notComma : byte ≠ comma := by
    rintro rfl
    cases ends
  have notQuote : byte ≠ quote := by
    rintro rfl
    cases ends
  unfold step
  rw [holds.place_eq]
  cases place with
  | quoted => exact (outside rfl).elim
  | betweenRecords => exact (inside rfl).elim
  | _ =>
    simp only [firstByte, bareByte, notComma, notQuote, ends, if_false, if_true]
    exact ended

/-- A line end between records is an empty line. -/
theorem emptyLine (holds : scanner.Holds .betweenRecords [] [] rows) (ends : isLineEnd byte = true) :
    (scanner.step byte).Holds .betweenRecords [] [] rows := by
  unfold step
  rw [holds.place_eq]
  simpa only [ends, if_true, holds.place_eq] using holds.move (scanner.here.after byte)

end Bytes

section Texts

/-- If each byte of some kind is content and leaves the place as it is, so do any number of them. -/
theorem run_content {kind : UInt8 → Prop}
    (one : ∀ {scanner : Scanner} {field : List UInt8} {byte : UInt8}, scanner.Holds place field fields rows →
      kind byte → (scanner.step byte).Holds place (field ++ [byte]) fields rows)
    (holds : scanner.Holds place field fields rows) (content : ∀ byte ∈ bytes, kind byte) :
    (scanner.run bytes).Holds place (field ++ bytes) fields rows := by
  induction bytes generalizing scanner field with
  | nil => exact (List.append_nil field).symm ▸ holds
  | cons byte rest ih =>
    obtain ⟨first, others⟩ := List.forall_mem_cons.mp content
    rw [List.append_cons]
    exact ih (one holds first) others

/-- A field without quotes; of an empty one the scanner has seen nothing. -/
theorem run_plain (holds : scanner.Holds place [] fields rows) (start : place = .betweenRecords ∨ place = .fieldStart)
    (content : ∀ byte ∈ bytes, IsPlain byte) :
    ∃ next, (scanner.run bytes).Holds next bytes fields rows ∧ (next = .bare ∨ next = place ∧ bytes = []) := by
  cases bytes with
  | nil => exact ⟨place, holds, .inr ⟨rfl, rfl⟩⟩
  | cons byte rest =>
    obtain ⟨first, others⟩ := List.forall_mem_cons.mp content
    have bare := holds.plain first (start.imp_right .inl)
    refine ⟨.bare, bare.run_content (fun inside plain => inside.plain plain (.inr (.inr rfl))) others, .inl rfl⟩

/-- A text inside quotes, its own quotes doubled. -/
theorem run_quotedChars (holds : scanner.Holds .quoted field fields rows) (text : List Char) :
    (scanner.run (Utf8.bytes (WrittenField.quotedChars text))).Holds .quoted (field ++ Utf8.bytes text) fields
      rows := by
  induction text generalizing scanner field with
  | nil => exact (List.append_nil field).symm ▸ holds
  | cons c rest ih =>
    rw [WrittenField.quotedChars, List.flatMap_cons, Utf8.bytes_append, run_append, Utf8.bytes_cons c rest,
      ← List.append_assoc]
    by_cases doubled : c = '"'
    · subst doubled
      exact ih holds.seeQuote.secondQuote
    · rw [if_neg doubled, Utf8.bytes, List.flatMap_singleton]
      apply ih
      apply holds.run_content fun inside notQuote => inside.quoted notQuote
      intro byte member
      exact Utf8.ne_of_mem_utf8EncodeChar member (by decide) doubled

end Texts

end Holds

end Scanner

namespace WrittenField

variable {field : WrittenField}

/-- Characters that need no quotes are plain in all their bytes. -/
theorem isPlain_of_mem {c : Char} {byte : UInt8} (raw : needsQuotes c = false)
    (member : byte ∈ String.utf8EncodeChar c) : IsPlain byte := by
  have others : ¬(c = ',' ∨ c = '"' ∨ c = '\r' ∨ c = '\n') := of_decide_eq_false raw
  simp only [not_or] at others
  obtain ⟨notComma, notQuote, notReturn, notFeed⟩ := others
  have differs {other : Char} (ascii : other.toNat < 128) (different : c ≠ other) :=
    Utf8.ne_of_mem_utf8EncodeChar member ascii different
  refine ⟨differs (by decide) notComma, differs (by decide) notQuote, ?_⟩
  rw [isLineEnd, Bool.or_eq_false_iff, beq_eq_false_iff_ne, beq_eq_false_iff_ne]
  exact ⟨differs (by decide) notReturn, differs (by decide) notFeed⟩

private theorem isPlain_bytes (valid : field.isValid = true) (raw : field.inQuotes = false) :
    ∀ byte ∈ Utf8.bytes field.text, IsPlain byte := by
  intro byte member
  obtain ⟨c, within, encoded⟩ := List.mem_flatMap.mp member
  rw [isValid, raw, Bool.false_or, Bool.not_eq_true', List.any_eq_false] at valid
  exact isPlain_of_mem (Bool.not_eq_true _ ▸ valid c within) encoded

/-- A field as it is written is read back and left open; nothing has been read of a blank one. -/
theorem run_chars {scanner : Scanner} {place : Place} {fields : List (List UInt8)} {rows : List (List (List UInt8))}
    (holds : scanner.Holds place [] fields rows) (start : place = .betweenRecords ∨ place = .fieldStart)
    (valid : field.isValid = true) :
    ∃ next, (scanner.run (Utf8.bytes field.chars)).Holds next (Utf8.bytes field.text) fields rows ∧
      next ≠ .quoted ∧ (next = .betweenRecords → place = .betweenRecords ∧ field.isBlank = true) := by
  cases way : field.inQuotes with
  | true =>
    have inside := (holds.openQuotes start).run_quotedChars field.text
    refine ⟨.quoteSeen, ?_, nofun, nofun⟩
    rw [chars, if_pos way, Utf8.bytes_append, Scanner.run_append]
    exact inside.seeQuote
  | false =>
    obtain ⟨next, read, ended⟩ := holds.run_plain start (isPlain_bytes valid way)
    rw [chars, if_neg (Bool.eq_false_iff.mp way)]
    refine ⟨next, read, ?_, ?_⟩
    · rcases ended with rfl | ⟨rfl, -⟩
      · exact nofun
      · rcases start with rfl | rfl <;> exact nofun
    · rintro rfl
      rcases ended with bare | ⟨rfl, nothing⟩
      · cases bare
      · refine ⟨rfl, ?_⟩
        rw [isBlank, way, Utf8.eq_nil_of_bytes nothing]
        rfl

end WrittenField

namespace Scanner

/-- A scanner that stands in a row of these cells, of which the last is still open. -/
def Opens (scanner : Scanner) (cells : List (List UInt8)) (rows : List (List (List UInt8))) : Prop :=
  ∃ place field fields, scanner.Holds place field fields rows ∧ place ≠ .quoted ∧ place ≠ .betweenRecords ∧
    fields ++ [field] = cells

section Rows

variable {scanner : Scanner} {cells : List (List UInt8)} {rows : List (List (List UInt8))} {bytes : List UInt8}

/-- The fields of a row from one of them on; a row begins with a field that is not blank or goes on after it. -/
theorem Holds.run_fieldChars {place : Place} {fields : List (List UInt8)}
    (holds : scanner.Holds place [] fields rows) (start : place = .betweenRecords ∨ place = .fieldStart)
    {field : WrittenField} {rest : List WrittenField} (valid : ∀ f ∈ field :: rest, f.isValid = true)
    (shown : place = .betweenRecords → rest = [] → field.isBlank = false) :
    (scanner.run (Utf8.bytes (WrittenRow.fieldChars (field :: rest)))).Opens
      (fields ++ (field :: rest).map fun f => Utf8.bytes f.text) rows := by
  -- Only the first field can stand between records; a comma comes before all others, so they may be blank.
  induction rest generalizing scanner place fields field with
  | nil =>
    obtain ⟨next, read, outside, between⟩ := WrittenField.run_chars holds start (valid field List.mem_cons_self)
    refine ⟨next, _, fields, read, outside, fun nothing => ?_, rfl⟩
    obtain ⟨fresh, blank⟩ := between nothing
    exact Bool.false_ne_true ((shown fresh rfl).symm.trans blank)
  | cons other rest ih =>
    obtain ⟨first, others⟩ := List.forall_mem_cons.mp valid
    obtain ⟨next, read, outside, -⟩ := WrittenField.run_chars holds start first
    have further := ih (read.separator outside) (.inr rfl) others nofun
    rw [List.append_assoc] at further
    rw [WrittenRow.fieldChars, Utf8.bytes_append, run_append]
    · exact further
    · exact nofun

/-- Line ends between rows leave everything as it is. -/
theorem Holds.run_emptyLines (holds : scanner.Holds .betweenRecords [] [] rows)
    (ends : ∀ byte ∈ bytes, isLineEnd byte = true) : (scanner.run bytes).Holds .betweenRecords [] [] rows := by
  induction bytes generalizing scanner with
  | nil => exact holds
  | cons byte rest ih =>
    obtain ⟨first, others⟩ := List.forall_mem_cons.mp ends
    exact ih (holds.emptyLine first) others

/-- The line ends after a row end it and are empty lines from the second on. -/
theorem Opens.run_lineEnds (opens : scanner.Opens cells rows) (some : bytes ≠ [])
    (ends : ∀ byte ∈ bytes, isLineEnd byte = true) :
    (scanner.run bytes).Holds .betweenRecords [] [] (rows ++ [cells]) := by
  obtain ⟨place, field, fields, holds, outside, inside, rfl⟩ := opens
  obtain ⟨byte, rest, rfl⟩ := List.exists_cons_of_ne_nil some
  obtain ⟨first, others⟩ := List.forall_mem_cons.mp ends
  exact (holds.lineEnd outside inside first).run_emptyLines others

/-- The end of the bytes ends a row as a line end does. -/
theorem Opens.close (opens : scanner.Opens cells rows) :
    scanner.close.finished.map Record.fields = rows ++ [cells] := by
  obtain ⟨place, field, fields, holds, -, inside, rfl⟩ := opens
  rw [← holds.endRecord.rows_eq]
  unfold Scanner.close
  split
  · next between => exact (inside (holds.place_eq.symm.trans between)).elim
  · rfl

theorem Holds.close (holds : scanner.Holds .betweenRecords [] [] rows) :
    scanner.close.finished.map Record.fields = rows := by
  rw [Scanner.close, holds.place_eq]
  exact holds.rows_eq

end Rows

end Scanner

private theorem LineEnd.isLineEnd_of_mem {lineEnds : List LineEnd} :
    ∀ byte ∈ Utf8.bytes (lineEnds.flatMap LineEnd.chars), isLineEnd byte = true := by
  have one (lineEnd : LineEnd) : (Utf8.bytes lineEnd.chars).all isLineEnd = true := by
    cases lineEnd <;> decide
  intro byte member
  rw [Utf8.bytes_flatMap] at member
  obtain ⟨lineEnd, -, encoded⟩ := List.mem_flatMap.mp member
  exact List.all_eq_true.mp (one lineEnd) byte encoded

private theorem LineEnd.bytes_ne_nil {lineEnds : List LineEnd} (some : lineEnds ≠ []) :
    Utf8.bytes (lineEnds.flatMap LineEnd.chars) ≠ [] := by
  obtain ⟨lineEnd, rest, rfl⟩ := List.exists_cons_of_ne_nil some
  cases lineEnd <;> exact nofun

def WrittenRow.cells (row : WrittenRow) : List (List UInt8) := row.texts.map Utf8.bytes

section Tables

open Scanner

variable {scanner : Scanner} {rows : List (List (List UInt8))}

/-- A row as it is written is read back, and left open until it is ended. -/
theorem WrittenRow.run_fields (holds : scanner.Holds .betweenRecords [] [] rows) {row : WrittenRow}
    (valid : row.isValid = true) : (scanner.run (Utf8.bytes (fieldChars row.fields))).Opens row.cells rows := by
  obtain ⟨fields, lineEnds⟩ := row
  simp only [isValid, Bool.and_eq_true, Bool.not_eq_true', List.isEmpty_eq_false_iff, List.all_eq_true] at valid
  obtain ⟨⟨some, fine⟩, shown⟩ := valid
  obtain ⟨field, rest, rfl⟩ := List.exists_cons_of_ne_nil some
  have read := holds.run_fieldChars (.inl rfl) fine fun _ alone => by
    subst alone
    simpa using shown
  rw [cells, texts, List.map_map]
  exact read

/-- Rows are read back one after another, each ended by its line ends, save the last that the end may end. -/
theorem WrittenRow.run_rows (holds : scanner.Holds .betweenRecords [] [] rows) {written : List WrittenRow}
    (valid : ∀ row ∈ written, row.isValid = true) (ended : ∀ row ∈ written.dropLast, row.lineEnds ≠ []) :
    (scanner.run (Utf8.bytes (written.flatMap chars))).close.finished.map Record.fields =
      rows ++ written.map cells := by
  induction written generalizing scanner rows with
  | nil => exact (List.append_nil rows).symm ▸ holds.close
  | cons row rest ih =>
    obtain ⟨first, others⟩ := List.forall_mem_cons.mp valid
    have opens := run_fields holds first
    rw [List.flatMap_cons, chars, List.append_assoc, Utf8.bytes_append, run_append]
    -- A row without line ends is the last one, and the end of the bytes ends it.
    by_cases unended : row.lineEnds = []
    · have last : rest = [] := by
        by_contra more
        obtain ⟨next, rest, rfl⟩ := List.exists_cons_of_ne_nil more
        exact ended row List.mem_cons_self unended
      subst last
      rw [unended]
      exact opens.close
    · have endedRest : ∀ row ∈ rest.dropLast, row.lineEnds ≠ [] := fun other member =>
        ended other (List.mem_of_mem_tail (List.tail_dropLast ▸ member))
      have closed := opens.run_lineEnds (LineEnd.bytes_ne_nil unended) LineEnd.isLineEnd_of_mem
      rw [Utf8.bytes_append, run_append, ih closed others endedRest, List.append_assoc, List.singleton_append,
        List.map_cons]

/-- However a table is written, its records are its rows. -/
theorem records_of_written {table : WrittenTable} (valid : table.isValid = true) (skipped : Nat) :
    ((Scanner.initial skipped).run (Utf8.bytes table.chars)).close.finished.map Record.fields =
      table.rows.map WrittenRow.cells := by
  have fresh : (Scanner.initial skipped).Holds .betweenRecords [] [] [] := ⟨rfl, rfl, rfl, rfl⟩
  simp only [WrittenTable.isValid, Bool.and_eq_true, List.all_eq_true, Bool.not_eq_true',
    List.isEmpty_eq_false_iff] at valid
  obtain ⟨rows, ended⟩ := valid
  rw [WrittenTable.chars, Utf8.bytes_append, run_append]
  exact WrittenRow.run_rows (fresh.run_emptyLines LineEnd.isLineEnd_of_mem) rows ended

end Tables

end HoldoutLine.Table
