import LinkedSheets.Csv.Reader
import LinkedSheets.Settings.Source
import LinkedSheets.Source.Document
import LinkedSheets.Source.Failure
import LinkedSheets.Source.Path
import LinkedSheets.Traced

/-!
# Loading a workbook

`loadWorkbook` reads the source that the settings name. A file of separated values is a sheet under
the name of the file without its extension; of two files with one such name the later one counts. A
delimiter that is not a single byte is refused before any file is opened.
-/

namespace LinkedSheets

namespace Source

/-- A delimiter as a byte. -/
def delimiterByte? (delimiter : Char) : Option UInt8 :=
  if delimiter.toNat < 0x80 then some delimiter.toUInt8 else none

def readCsvSheet (path name : String) (delimiter : UInt8) (files : Files) :
    Except LoadFailure Sheet := do
  let entry ← (files path).mapError (.cannotOpen path)
  let bytes ← entry.read.mapError (.cannotRead path)
  match Csv.read? delimiter bytes with
  | some rows => .ok ⟨name, rows⟩
  | none => .error (.badText path)

def loadCsvFile (files : Files) (delimiter : UInt8) (path : String) :
    Traced LoadFailure Sheet :=
  match SourcePath.fileStem? path with
  | none => .fail (.noSheetName path)
  | some name => do
    .emit (.readingCsv path name)
    .ofExcept (readCsvSheet path name delimiter files)

def loadCsvFiles (files : Files) (delimiter : UInt8) : List String →
    Traced LoadFailure (List Sheet)
  | [] => pure []
  | path :: paths => do
    let sheet ← loadCsvFile files delimiter path
    let sheets ← loadCsvFiles files delimiter paths
    pure (sheet :: sheets)

def loadCsv (files : Files) (delimiter : Char) (paths : List String) :
    Traced LoadFailure (List Sheet) :=
  match delimiterByte? delimiter with
  | none => .fail (.badDelimiter delimiter)
  | some delimiter => loadCsvFiles files delimiter paths

def readDocument (path : String) (files : Files) : Except LoadFailure (List Sheet) := do
  let entry ← (files path).mapError (.cannotOpen path)
  let bytes ← entry.read.mapError fun _ => .badJson path .unreadable
  let sheets ← (Document.read bytes).mapError (.badJson path)
  (Document.sheetsOf sheets).mapError fun (sheet, cell) => .nestedCell path sheet cell

/-- Extensions of spreadsheets of other kinds. -/
def otherBookExtensions : List String := ["xls", "xla", "xlsb", "ods"]

def readBook (path : String) (files : Files) : Except LoadFailure (List Sheet) :=
  match files path with
  | .ok (.book book) =>
    if (SourcePath.fileExtension? path).any otherBookExtensions.contains then
      .error (.noSpreadsheet path)
    else book.toSheets.mapError fun (sheet, fault) => .badSpreadsheetSheet path sheet fault
  | _ => .error (.noSpreadsheet path)

def loadSheets (files : Files) : SourceSettings → Traced LoadFailure (List Sheet)
  | .csv paths delimiter => loadCsv files delimiter paths
  | .json path => do
    .emit (.readingJson path)
    .ofExcept (readDocument path files)
  | .spreadsheet path => do
    .emit (.readingSpreadsheet path)
    .ofExcept (readBook path files)

end Source

/-- The workbook of a source. -/
def loadWorkbook (files : Files) (settings : SourceSettings) : Traced LoadFailure Workbook := do
  let sheets ← Source.loadSheets files settings
  pure (.ofSheets sheets)

end LinkedSheets
