import LinkedSheets.Proofs.FirstFailure
import LinkedSheets.Proofs.Utf8Text
import LinkedSheets.Source.Load
import Mathlib.Data.List.Basic

/-!
# Quoted records

Any text can be in a cell that is written between quotes, with a quote inside of it written twice.
`Csv.write` writes rows so, and the reader undoes it (`Csv.read?_write`): the sheet of such a file
has the rows that were written.

The reader is followed over characters (`CsvReader.after`). Between quotes it only adds to the
field (`after_flatMap_quoteChar`), a cell takes it to its closing quote (`after_cellChars`), and
from there the next delimiter or line end is one again (`after_cells`); so it is between two
records before each row and after it (`after_recordChars`).
-/

namespace LinkedSheets

namespace Csv

def quoteChar (c : Char) : List Char :=
  if c = '"' then ['"', '"'] else [c]

/-- A cell between quotes. A quote inside of it is written twice. -/
def cellChars (cell : String) : List Char :=
  '"' :: cell.toList.flatMap quoteChar ++ ['"']

inductive LineEnd where
  | feed
  | returnAndFeed

def LineEnd.chars : LineEnd → List Char
  | feed => ['\n']
  | returnAndFeed => ['\r', '\n']

def recordChars (delimiter : Char) (row : Row) (lineEnd : LineEnd) : List Char :=
  [delimiter].intercalate (row.map cellChars) ++ lineEnd.chars

/-- Each row as a record, with the line end that it is given. -/
def write (delimiter : Char) (rows : List (Row × LineEnd)) : String :=
  String.ofList (rows.flatMap fun row => recordChars delimiter row.1 row.2)

theorem recordChars_cons (delimiter : Char) (cell : String) (cells : Row) (lineEnd : LineEnd) :
    recordChars delimiter (cell :: cells) lineEnd = cellChars cell
      ++ cells.flatMap (fun cell => delimiter :: cellChars cell) ++ lineEnd.chars := by
  rw [recordChars, List.append_left_inj]
  induction cells generalizing cell with
  | nil => simp
  | cons other cells ih =>
    rw [List.map_cons, List.map_cons, List.intercalate_cons_cons, ← List.map_cons, ih other]
    simp

/-- A character that divides cells: one of the first 128, and none that has another meaning. -/
structure IsDelimiter (delimiter : Char) : Prop where
  toNat_lt : delimiter.toNat < 0x80
  ne_quote : delimiter ≠ '"'
  ne_return : delimiter ≠ '\r'
  ne_feed : delimiter ≠ '\n'

end Csv

namespace CsvReader

section Quoted

variable {delimiter : UInt8} {r : CsvReader} {field : List UInt8} {record : List (List UInt8)}
  {records : List (List (List UInt8))}

/-- The reader behind some characters. -/
def after (delimiter : UInt8) (r : CsvReader) (cs : List Char) : CsvReader :=
  (cs.flatMap String.utf8EncodeChar).foldl (step delimiter) r

theorem after_append (cs ds : List Char) :
    r.after delimiter (cs ++ ds) = (r.after delimiter cs).after delimiter ds := by
  simp [after, List.flatMap_append]

theorem after_cons {c : Char} (h : c.toNat < 0x80) (cs : List Char) :
    r.after delimiter (c :: cs) = (r.step delimiter c.toUInt8).after delimiter cs := by
  simp [after, Text.utf8EncodeChar_of_lt h]

theorem foldl_step_quoted {bytes : List UInt8} (h : ∀ b ∈ bytes, b ≠ quote) :
    bytes.foldl (step delimiter) ⟨.quoted, field, record, records⟩
      = ⟨.quoted, bytes.reverse ++ field, record, records⟩ := by
  induction bytes generalizing field with
  | nil => rfl
  | cons b bytes ih =>
    obtain ⟨hb, hbytes⟩ := List.forall_mem_cons.1 h
    rw [List.foldl_cons, step, if_neg hb, keep, ih hbytes, List.reverse_cons, List.append_assoc]
    rfl

/-- A character between quotes is kept, a quote that was written twice once. -/
theorem after_quoteChar (c : Char) :
    after delimiter ⟨.quoted, field, record, records⟩ (Csv.quoteChar c)
      = ⟨.quoted, (String.utf8EncodeChar c).reverse ++ field, record, records⟩ := by
  rw [Csv.quoteChar]
  split
  · subst c
    rfl
  · rename_i hne
    rw [after, List.flatMap_singleton]
    exact foldl_step_quoted fun b hb => Text.ne_of_mem_utf8EncodeChar (by decide) hne hb

theorem after_flatMap_quoteChar (cs : List Char) :
    after delimiter ⟨.quoted, field, record, records⟩ (cs.flatMap Csv.quoteChar)
      = ⟨.quoted, (cs.flatMap String.utf8EncodeChar).reverse ++ field, record, records⟩ := by
  induction cs generalizing field with
  | nil => rfl
  | cons c cs ih =>
    rw [List.flatMap_cons, after_append, after_quoteChar, ih, List.flatMap_cons,
      List.reverse_append, List.append_assoc]

/-- A quoted cell is read up to its closing quote, which could still be the first of two. -/
theorem after_cellChars {mode : CsvMode} (hmode : mode = .recordStart ∨ mode = .fieldStart)
    (cell : String) : after delimiter ⟨mode, [], record, records⟩ (Csv.cellChars cell)
      = ⟨.quoteInQuoted, cell.toUTF8.toList.reverse, record, records⟩ := by
  have hopen : step delimiter ⟨mode, [], record, records⟩ '"'.toUInt8
      = ⟨.quoted, [], record, records⟩ := by
    rcases hmode with rfl | rfl <;> rfl
  rw [Csv.cellChars, List.cons_append, after_cons (by decide), hopen, after_append,
    after_flatMap_quoteChar, List.append_nil, after_cons (by decide), ← Text.toList_toUTF8]
  rfl

end Quoted

section Records

variable {delimiter : Char} (h : Csv.IsDelimiter delimiter) {field : List UInt8}
  {record : List (List UInt8)} {records : List (List (List UInt8))}
include h

theorem step_delimiter : step delimiter.toUInt8 ⟨.quoteInQuoted, field, record, records⟩
    delimiter.toUInt8 = ⟨.fieldStart, [], field.reverse :: record, records⟩ := by
  have hquote : delimiter.toUInt8 ≠ quote :=
    fun heq => h.ne_quote ((Text.toUInt8_inj h.toNat_lt (by decide)).1 heq)
  simp [step, hquote, stepPlain, endField]

/-- A line end behind a closing quote ends the record, as it is not the delimiter. -/
theorem step_lineEnd {c : Char} (hc : c.toNat < 0x80) (hlineEnd : isLineEnd c.toUInt8 = true)
    (hne : delimiter ≠ c) :
    step delimiter.toUInt8 ⟨.quoteInQuoted, field, record, records⟩ c.toUInt8
      = ⟨.recordStart, [], [], (field.reverse :: record).reverse :: records⟩ := by
  have hquote : c.toUInt8 ≠ quote := by
    intro heq
    rw [heq] at hlineEnd
    exact absurd hlineEnd (by decide)
  have hbyte : c.toUInt8 ≠ delimiter.toUInt8 :=
    fun heq => hne ((Text.toUInt8_inj h.toNat_lt hc).1 heq.symm)
  simp [step, hquote, stepPlain, hbyte, hlineEnd, endRecord]

/-- A line feed behind a return stands where a record would begin, and is passed over. -/
theorem after_lineEnd (lineEnd : Csv.LineEnd) :
    after delimiter.toUInt8 ⟨.quoteInQuoted, field, record, records⟩ lineEnd.chars
      = ⟨.recordStart, [], [], (field.reverse :: record).reverse :: records⟩ := by
  cases lineEnd with
  | feed =>
    rw [Csv.LineEnd.chars, after_cons (by decide), step_lineEnd h (by decide) rfl h.ne_feed]
    rfl
  | returnAndFeed =>
    rw [Csv.LineEnd.chars, after_cons (by decide), step_lineEnd h (by decide) rfl h.ne_return]
    rfl

theorem after_cells (cells : List String) (lineEnd : Csv.LineEnd) :
    after delimiter.toUInt8 ⟨.quoteInQuoted, field, record, records⟩
        (cells.flatMap (fun cell => delimiter :: Csv.cellChars cell) ++ lineEnd.chars)
      = ⟨.recordStart, [], [],
        (record.reverse ++ field.reverse :: cells.map (·.toUTF8.toList)) :: records⟩ := by
  induction cells generalizing field record with
  | nil => simp [after_lineEnd h]
  | cons cell cells ih =>
    rw [List.flatMap_cons, List.append_assoc, List.cons_append, after_cons h.toNat_lt,
      step_delimiter h, after_append, after_cellChars (.inr rfl), ih]
    simp

/-- A record that is written is read from the start of a record to the start of the next one. -/
theorem after_recordChars {row : Row} (hrow : row ≠ []) (lineEnd : Csv.LineEnd) :
    after delimiter.toUInt8 ⟨.recordStart, [], [], records⟩
        (Csv.recordChars delimiter row lineEnd)
      = ⟨.recordStart, [], [], row.map (·.toUTF8.toList) :: records⟩ := by
  obtain ⟨cell, cells, rfl⟩ := List.exists_cons_of_ne_nil hrow
  rw [Csv.recordChars_cons, List.append_assoc, after_append, after_cellChars (.inl rfl),
    after_cells h]
  simp

theorem after_write {rows : List (Row × Csv.LineEnd)} (hrows : ∀ row ∈ rows, row.1 ≠ []) :
    after delimiter.toUInt8 ⟨.recordStart, [], [], records⟩
        (rows.flatMap fun row => Csv.recordChars delimiter row.1 row.2)
      = ⟨.recordStart, [], [],
        (rows.map fun row => row.1.map (·.toUTF8.toList)).reverse ++ records⟩ := by
  induction rows generalizing records with
  | nil => rfl
  | cons row rows ih =>
    obtain ⟨hrow, hrest⟩ := List.forall_mem_cons.1 hrows
    rw [List.flatMap_cons, after_append, after_recordChars h hrow, ih hrest]
    simp

end Records

end CsvReader

namespace Csv

variable {delimiter : Char} {rows : List (Row × LineEnd)}

theorem mapM_map_eq_some {α β : Type} {f : β → Option α} {g : α → β}
    (hfg : ∀ a, f (g a) = some a) (as : List α) : (as.map g).mapM f = some as := by
  induction as with
  | nil => rfl
  | cons a as ih => rw [List.map_cons, List.mapM_cons, hfg, ih]; rfl

theorem dropMark_cons_of_ne {b : UInt8} (hb : b ≠ 0xEF) (bytes : List UInt8) :
    dropMark (b :: bytes) = b :: bytes := by
  rw [dropMark]
  rintro rest ⟨⟩
  exact hb rfl

/-- What is written begins with a quote, and so with no mark. -/
theorem dropMark_write (hrows : ∀ row ∈ rows, row.1 ≠ []) :
    dropMark (write delimiter rows).toUTF8.toList = (write delimiter rows).toUTF8.toList := by
  rw [write, Text.toList_toUTF8_ofList]
  rcases rows with _ | ⟨⟨row, lineEnd⟩, rows⟩
  · rfl
  · obtain ⟨cell, cells, rfl⟩ := List.exists_cons_of_ne_nil (hrows _ List.mem_cons_self)
    rw [List.flatMap_cons, recordChars_cons, cellChars]
    exact dropMark_cons_of_ne (by decide) _

/-- Cells that were written in quotes are read back. -/
theorem read?_write (h : IsDelimiter delimiter) (hrows : ∀ row ∈ rows, row.1 ≠ []) :
    read? delimiter.toUInt8 (write delimiter rows).toUTF8.toList = some (rows.map (·.1)) := by
  have hread : CsvReader.after delimiter.toUInt8 .start
      (rows.flatMap fun row => recordChars delimiter row.1 row.2)
        = ⟨.recordStart, [], [], (rows.map fun row => row.1.map (·.toUTF8.toList)).reverse ++ []⟩ :=
    CsvReader.after_write h hrows
  rw [CsvReader.after, ← Text.toList_toUTF8_ofList, ← write] at hread
  have hrecords : records delimiter.toUInt8 (write delimiter rows).toUTF8.toList
      = (rows.map (·.1)).map fun row => row.map (·.toUTF8.toList) := by
    rw [records, dropMark_write hrows, hread]
    simp [CsvReader.finish]
  rw [read?, hrecords]
  exact mapM_map_eq_some (fun row => mapM_map_eq_some Text.ofUtf8?_toUTF8 row) _

end Csv

namespace Source

/-- Rows that have a cell each, whatever is in their cells, are read back as they were when every
cell was written in quotes and every record was ended, be it by a line feed or by both characters.
They are all the rows of the sheet, the first one included, and the sheet is all the workbook. -/
theorem readCsvSheet_write {delimiter : Char} (h : Csv.IsDelimiter delimiter)
    {rows : List (Row × Csv.LineEnd)} (hrows : ∀ row ∈ rows, row.1 ≠ []) {files : Files}
    {path : String} (hfile : files path = .ok (.bytes (Csv.write delimiter rows).toUTF8.toList)) :
    (∀ name, readCsvSheet path name delimiter.toUInt8 files = .ok ⟨name, rows.map (·.1)⟩)
      ∧ ∀ name, SourcePath.fileStem? path = some name →
        (loadWorkbook files (.csv [path] delimiter)).outcome
          = .ok (.ofSheets [⟨name, rows.map (·.1)⟩]) := by
  have hread (name : String) :
      readCsvSheet path name delimiter.toUInt8 files = .ok ⟨name, rows.map (·.1)⟩ := by
    rw [readCsvSheet, hfile]
    simp only [Except.mapError, FileEntry.read, ok_bind, Csv.read?_write h hrows]
  refine ⟨hread, fun name hname => ?_⟩
  simp [loadWorkbook, loadSheets, loadCsv, delimiterByte?, h.toNat_lt, loadCsvFiles, loadCsvFile,
    hname, hread, Traced.outcome_bind, ok_bind]

/-- A cell that begins with a mark and has the delimiter in it, one of a quote and a line end, and
an empty one alone in its row. -/
theorem readCsvSheet_write_crew :
    Csv.IsDelimiter ';'
      ∧ (∀ row ∈ [(["\ufeffa;b", "\"\r\n"], Csv.LineEnd.returnAndFeed), ([""], .feed)], row.1 ≠ [])
      ∧ Csv.write ';' [(["\ufeffa;b", "\"\r\n"], .returnAndFeed), ([""], .feed)]
        = "\"\ufeffa;b\";\"\"\"\r\n\"\r\n\"\"\n"
      ∧ (loadWorkbook
          (fun _ => .ok (.bytes "\"\ufeffa;b\";\"\"\"\r\n\"\r\n\"\"\n".toUTF8.toList))
          (.csv ["crew.csv"] ';')).outcome
        = .ok (.ofSheets [⟨"crew", [["\ufeffa;b", "\"\r\n"], [""]]⟩]) := by
  have hdelimiter : Csv.IsDelimiter ';' := ⟨by decide, by decide, by decide, by decide⟩
  have hrows : ∀ row ∈ [(["\ufeffa;b", "\"\r\n"], Csv.LineEnd.returnAndFeed), ([""], .feed)],
      row.1 ≠ [] := by simp
  have hwrite : Csv.write ';' [(["\ufeffa;b", "\"\r\n"], .returnAndFeed), ([""], .feed)]
      = "\"\ufeffa;b\";\"\"\"\r\n\"\r\n\"\"\n" := by decide
  have hname : SourcePath.fileStem? "crew.csv" = some "crew" := by decide
  exact ⟨hdelimiter, hrows, hwrite,
    (readCsvSheet_write hdelimiter hrows (by rw [hwrite])).2 "crew" hname⟩

end Source

end LinkedSheets
