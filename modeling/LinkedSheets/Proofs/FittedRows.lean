import LinkedSheets.Proofs.FirstMatch
import LinkedSheets.Resolution.Typed
import Mathlib.Data.List.Find

/-!
# Rows as long as their header

A row may be filled up with blank cells, or cut off, to the length of its header
(`Row.fitted`). It is read with the same cells then, by a look-up as well as by the resolver, since
neither looks at a cell that no column names, and both take a missing one for a blank
(`findRow_fitted`, `against_fitted`).

Reading a row depends on the workbook only through the specifiers that are followed
(`readRow_congr`). So resolving any row of the workbook whose rows are fitted is resolving that row
as it was, events and failures included (`resolve_fitted`), and the same holds of whole sheets
(`reads_fitted`).
-/

namespace LinkedSheets

/-- The row with blank cells behind it up to a length, and without the cells beyond. -/
def Row.fitted (n : Nat) (row : Row) : Row :=
  (row ++ List.replicate (n - row.length) "").take n

/-- Every data row as long as the header. -/
def Sheet.fitted (sheet : Sheet) : Sheet where
  name := sheet.name
  rows := match sheet.rows with
    | [] => []
    | header :: rows => header :: rows.map (Row.fitted header.length)

def Workbook.fitted (w : Workbook) : Workbook where
  sheets := w.sheets.map Sheet.fitted
  sorted := List.pairwise_map.2 w.sorted

section Row

variable (row : Row)

theorem length_fitted (n : Nat) : (row.fitted n).length = n := by
  simp only [Row.fitted, List.length_take, List.length_append, List.length_replicate]
  omega

theorem cell_fitted {n i : Nat} (h : i < n) : (row.fitted n).cell i = row.cell i := by
  rw [Row.cell, Row.cell, Row.fitted, List.getElem?_take_of_lt h]
  by_cases hi : i < row.length
  · rw [List.getElem?_append_left hi]
  · have hle : row.length ≤ i := Nat.le_of_not_lt hi
    have hlt : i - row.length < n - row.length := by omega
    rw [List.getElem?_append_right hle, List.getElem?_replicate_of_lt hlt,
      List.getElem?_eq_none hle]
    rfl

theorem against_fitted (header : List String) :
    Row.against header (row.fitted header.length) = Row.against header row := by
  rw [Row.against_eq_ofFn, Row.against_eq_ofFn]
  congr 1
  funext i
  rw [cell_fitted row i.isLt]

end Row

section Sheet

variable (sheet : Sheet)

theorem header_fitted : sheet.fitted.header = sheet.header := by
  rcases hr : sheet.rows with _ | ⟨header, rows⟩ <;> simp [Sheet.header, Sheet.fitted, hr]

theorem dataRows_fitted :
    sheet.fitted.dataRows = sheet.dataRows.map (Row.fitted sheet.header.length) := by
  rcases hr : sheet.rows with _ | ⟨header, rows⟩ <;>
    simp [Sheet.header, Sheet.dataRows, Sheet.fitted, hr]

/-- A numbered data row as it is in the sheet whose rows are fitted. -/
def Sheet.fittedAt (p : Row × Nat) : Row × Nat :=
  (p.1.fitted sheet.header.length, p.2)

theorem zipIdx_dataRows_fitted :
    sheet.fitted.dataRows.zipIdx = sheet.dataRows.zipIdx.map sheet.fittedAt := by
  rw [dataRows_fitted, List.zipIdx_map]
  rfl

theorem rowWith?_fitted {column : Nat} (h : column < sheet.header.length) (value : String) :
    sheet.fitted.rowWith? column value = (sheet.rowWith? column value).map sheet.fittedAt := by
  rw [Sheet.rowWith?, Sheet.rowWith?, zipIdx_dataRows_fitted, List.find?_map]
  refine congrArg (Option.map sheet.fittedAt) (List.find?_congr ?_)
  rintro ⟨row, index⟩ -
  simp only [Function.comp_apply, Sheet.fittedAt, cell_fitted row h]

/-- The same row is found, with the number it had. -/
theorem findRow_fitted (column value : String) :
    sheet.fitted.findRow column value
      = Option.map sheet.fittedAt <$> sheet.findRow column value := by
  have hcolumn : sheet.fitted.columnIndex? column = sheet.columnIndex? column := by
    rw [Sheet.columnIndex?, Sheet.columnIndex?, header_fitted]
  rw [Sheet.findRow, Sheet.findRow, hcolumn]
  rcases hc : sheet.columnIndex? column with _ | j
  · rfl
  · obtain ⟨hj, -⟩ := Sheet.columnIndex?_eq_some_iff.1 hc
    exact congrArg Except.ok (rowWith?_fitted sheet hj value)

end Sheet

namespace Resolver

section Congruence

variable {r : Resolver} {w w' : Workbook} {deeper deeper' : Option RowReader}
  (h : ∀ path spec, follow r w' deeper' path spec = follow r w deeper path spec)
include h

theorem followAll_congr (path : FieldPath) : ∀ (position : Nat) (specs : List String),
    followAll r w' deeper' path position specs = followAll r w deeper path position specs
  | _, [] => rfl
  | position, spec :: specs => by
    rw [followAll, followAll, h, followAll_congr path (position + 1) specs]

theorem readCell_congr (path : FieldPath) (cell : Cell) :
    readCell r w' deeper' path cell = readCell r w deeper path cell := by
  cases cell with
  | scalar text => rfl
  | reference spec => exact h path spec
  | references specs => rw [readCell, readCell, followAll_congr h]

theorem readFields_congr (path : FieldPath) :
    ∀ (taken : List String) (columns : List (String × String)),
      readFields r w' deeper' path taken columns = readFields r w deeper path taken columns
  | _, [] => rfl
  | taken, (column, text) :: columns => by
    simp only [readFields, readCell_congr h, readFields_congr path _ columns]

/-- What a row comes to, and what happens on the way, depends on what its specifiers come to. -/
theorem readRow_congr (path : FieldPath) (header : List String) (row : Row) :
    readRow r w' deeper' path header row = readRow r w deeper path header row := by
  rw [readRow, readRow, readFields_congr h]

end Congruence

theorem readRow_fitted {r : Resolver} {w : Workbook} {deeper : Option RowReader} (path : FieldPath)
    (header : List String) (row : Row) :
    readRow r w deeper path header (row.fitted header.length)
      = readRow r w deeper path header row := by
  rw [readRow, readRow, against_fitted]

variable (r : Resolver) (w : Workbook)

theorem sheet?_fitted (name : String) : w.fitted.sheet? name = (w.sheet? name).map .fitted := by
  rw [Workbook.sheet?, Workbook.sheet?, Workbook.fitted, List.find?_map]
  rfl

theorem locate_fitted (path : FieldPath) (t : Target) :
    locate w.fitted path t
      = (fun p => (p.1.fitted, p.2.fitted p.1.header.length)) <$> locate w path t := by
  rw [locate, locate, sheet?_fitted]
  rcases w.sheet? t.sheet with _ | sheet
  · rfl
  simp only [Option.map_some, findRow_fitted]
  rcases sheet.findRow t.column t.value with ⟨name, column⟩ | _ | p <;> rfl

variable {r w}

theorem follow_fitted {next next' : RowReader}
    (hnext : ∀ path (header : List String) row,
      next' path header (row.fitted header.length) = next path header row)
    (path : FieldPath) (spec : String) :
    follow r w.fitted (some next') path spec = follow r w (some next) path spec := by
  rcases ht : Target.parse? spec with _ | t
  · simp only [follow, ht]
  simp only [follow, ht, locate_fitted]
  rcases locate w path t with e | ⟨sheet, row⟩
  · rfl
  · simp only [map_ok, Traced.ofExcept_ok_bind, header_fitted, hnext]

/-- A row of a workbook whose rows are fitted is resolved as it was before. -/
theorem resolve_fitted : ∀ (depth : Nat) (path : FieldPath) (header : List String) (row : Row),
    r.resolve w.fitted depth path header (row.fitted header.length)
      = r.resolve w depth path header row
  | 0, path, header, row => by
    have h : ∀ path spec, follow r w.fitted none path spec = follow r w none path spec := by
      intro path spec
      rcases ht : Target.parse? spec with _ | t <;> simp only [follow, ht]
    rw [resolve, resolve, readRow_congr h, readRow_fitted]
  | depth + 1, path, header, row => by
    rw [resolve, resolve, readRow_congr (follow_fitted (resolve_fitted depth)), readRow_fitted]

variable (r w)

theorem resolveDataRow_fitted (sheet : Sheet) (p : Row × Nat) :
    r.resolveDataRow w.fitted sheet.fitted p.2 (sheet.fittedAt p).1
      = r.resolveDataRow w sheet p.2 p.1 := by
  rw [resolveDataRow, resolveDataRow, header_fitted]
  exact resolve_fitted _ _ _ _

theorem readRows_fitted (sheet : Sheet) : ∀ rows : List (Row × Nat),
    r.readRows w.fitted sheet.fitted (rows.map sheet.fittedAt) = r.readRows w sheet rows
  | [] => rfl
  | p :: rows => by
    rw [List.map_cons, readRows, readRows, readRows_fitted sheet rows]
    congr 1
    exact resolveDataRow_fitted r w sheet p

theorem readRowsLeniently_fitted (sheet : Sheet) : ∀ rows : List (Row × Nat),
    r.readRowsLeniently w.fitted sheet.fitted (rows.map sheet.fittedAt)
      = r.readRowsLeniently w sheet rows
  | [] => rfl
  | p :: rows => by
    rw [List.map_cons, readRowsLeniently, readRowsLeniently, readRowsLeniently_fitted sheet rows]
    congr 2
    exact resolveDataRow_fitted r w sheet p

/-- A sheet is opened with the same announcement, and goes on as it does. -/
theorem openSheet_fitted_bind {α : Type} (name : String)
    {f f' : Sheet → Traced ResolutionFailure α} (h : ∀ sheet, f' sheet.fitted = f sheet) :
    (openSheet w.fitted name >>= f') = openSheet w name >>= f := by
  rw [openSheet, openSheet, sheet?_fitted]
  rcases w.sheet? name with _ | sheet
  · rfl
  · simp only [Option.map_some, dataRows_fitted, List.length_map]
    exact congrArg (Traced.emit (.materializing name sheet.dataRows.length) >>= fun _ => ·)
      (h sheet)

theorem sheet_fitted (name : String) : r.sheet w.fitted name = r.sheet w name := by
  refine openSheet_fitted_bind w name fun sheet => ?_
  rw [zipIdx_dataRows_fitted, readRows_fitted]

theorem sheetLeniently_fitted (name : String) :
    r.sheetLeniently w.fitted name = r.sheetLeniently w name := by
  refine openSheet_fitted_bind w name fun sheet => ?_
  rw [zipIdx_dataRows_fitted, readRowsLeniently_fitted]

/-- In a workbook the data rows may be made as long as their headers. Whatever is read from a sheet
is the same then: its values, its failures, the rows that are left out, the data that a schema makes
of them, and everything that happens on the way. -/
theorem reads_fitted (r : Resolver) (w : Workbook) (name : String) :
    (∀ sheet ∈ w.fitted.sheets, ∀ row ∈ sheet.dataRows, row.length = sheet.header.length)
      ∧ r.sheet w.fitted name = r.sheet w name
      ∧ r.sheetLeniently w.fitted name = r.sheetLeniently w name
      ∧ ∀ schema, r.parse w.fitted schema name = r.parse w schema name := by
  refine ⟨fun sheet hs row hrow => ?_, sheet_fitted r w name, sheetLeniently_fitted r w name,
    fun schema => ?_⟩
  · obtain ⟨sheet, -, rfl⟩ := List.mem_map.1 hs
    rw [dataRows_fitted] at hrow
    obtain ⟨row, -, rfl⟩ := List.mem_map.1 hrow
    rw [length_fitted, header_fitted]
  · rw [parse, parse, parseBy, parseBy, sheet_fitted]

end Resolver

end LinkedSheets
