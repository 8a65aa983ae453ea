import LinkedSheets.Text.Blank
import LinkedSheets.Workbook

/-!
# Looking up a row

A row is found by a value in a column. Column names, cells and the value are all compared without
the blanks at their ends. Of several columns of one name, and of several rows with the value, the
first counts. The header is no candidate, and a row too short to have the column is blank there.
-/

namespace LinkedSheets

namespace Sheet

variable (sheet : Sheet)

/-- The column of that name. -/
def columnIndex? (column : String) : Option Nat :=
  sheet.header.findIdx? fun name => Text.trim name == Text.trim column

/-- The first data row with the value in a column, with its number. -/
def rowWith? (column : Nat) (value : String) : Option (Row × Nat) :=
  sheet.dataRows.zipIdx.find? fun (row, _) => Text.trim (row.cell column) == Text.trim value

/-- The row that a column and a value select. Without such a column it is an error, of the sheet
and of the name that was looked for. -/
def findRow (column value : String) : Except (String × String) (Option (Row × Nat)) :=
  match sheet.columnIndex? column with
  | some index => .ok (sheet.rowWith? index value)
  | none => .error (sheet.name, Text.trim column)

end Sheet

end LinkedSheets
