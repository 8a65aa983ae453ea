import LinkedSheets.Resolution.Failure
import LinkedSheets.Text.Quoted

/-!
# Events

What happens while a workbook is read and resolved is told as events. An event has a severity, the
part of the program that it comes from, a fixed message, and fields with the particulars. A field
keeps apart texts, which a log line quotes, texts that are shown as they are, and numbers.
-/

namespace LinkedSheets

inductive Severity where
  | debug
  | info
  | warn
  | error
  deriving DecidableEq, Repr

def Severity.name : Severity → String
  | debug => "DEBUG"
  | info => "INFO"
  | warn => "WARN"
  | error => "ERROR"

inductive FieldValue where
  | text (s : String)
  | shown (s : String)
  | count (n : Nat)
  deriving DecidableEq, Repr

/-- The value by itself, without quotes. -/
def FieldValue.plain : FieldValue → String
  | text s | shown s => s
  | count n => n.repr

inductive Event where
  | readingCsv (path sheet : String)
  | readingJson (path : String)
  | readingSpreadsheet (path : String)
  | materializing (sheet : String) (rows : Nat)
  /-- A sheet is complete; where rows may be skipped, with their number. -/
  | materialized (sheet : String) (skipped : Option Nat)
  | skippingRow (sheet : String) (row : Nat) (failure : ResolutionFailure)
  /-- The row of a reference is found and is about to be resolved. -/
  | following (field : FieldPath) (target : Target)
  /-- A column has the key of an earlier one, so its value is dropped. -/
  | keyCollision (key : String) (field : FieldPath)
  | rowsUnresolved (sheet : String) (skipped : Nat)
  /-- The program gives up, for this reason. -/
  | stopped (reason : String)
  deriving DecidableEq, Repr

namespace Event

def severity : Event → Severity
  | following .. => .debug
  | skippingRow .. | keyCollision .. | rowsUnresolved .. => .warn
  | stopped .. => .error
  | _ => .info

/-- The part of the program that an event comes from. -/
def origin : Event → String
  | readingCsv .. => "sheetgraph::source::csv"
  | readingJson .. => "sheetgraph::source::json"
  | readingSpreadsheet .. => "sheetgraph::source::xlsx"
  | rowsUnresolved .. | stopped .. => "sheetgraph"
  | _ => "sheetgraph::read::read"

def message : Event → String
  | readingCsv .. => "reading csv file"
  | readingJson .. => "reading json workbook"
  | readingSpreadsheet .. => "reading spreadsheet"
  | materializing .. => "materializing sheet"
  | materialized .. => "done materializing sheet"
  | skippingRow .. => "skipping row"
  | following .. => "following reference"
  | keyCollision .. => "object key collision"
  | rowsUnresolved .. => "some rows could not be resolved"
  | stopped reason => reason

def fields : Event → List (String × FieldValue)
  | readingCsv path sheet => [("path", .shown (Text.quoted path)), ("sheet", .text sheet)]
  | readingJson path | readingSpreadsheet path => [("path", .shown (Text.quoted path))]
  | materializing sheet rows => [("sheet", .text sheet), ("rows", .count rows)]
  | materialized sheet none => [("sheet", .text sheet)]
  | materialized sheet (some skipped) => [("sheet", .text sheet), ("skipped", .count skipped)]
  | skippingRow sheet row failure =>
    [("sheet", .text sheet), ("row", .count row), ("error", .shown failure.message)]
  | following field target =>
    [("field", .shown field.text), ("sheet", .text target.sheet), ("column", .text target.column),
     ("value", .text target.value)]
  | keyCollision key field => [("key", .shown key), ("field", .shown field.text)]
  | rowsUnresolved sheet skipped => [("sheet", .text sheet), ("skipped", .count skipped)]
  | stopped _ => []

end Event

end LinkedSheets
