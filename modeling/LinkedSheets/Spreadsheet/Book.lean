import LinkedSheets.Decimal.Reader
import LinkedSheets.Spreadsheet.CellText
import LinkedSheets.Spreadsheet.Serial
import LinkedSheets.Workbook

/-!
# Spreadsheets

A spreadsheet has cells here and there on its sheets, each with a place, a type and a stored text.
`BookCell.content?` is what a cell holds. The cells that are there span a rectangle, the used range,
and `UsedRange.rows` puts it back into its place: the first row of the sheet is always the first row
of the spreadsheet, and every cell stays in its column.

A sheet is read before it is shown. A cell that does not fit its type makes the sheet unreadable
wherever it is, but a number has to have a text only where no later cell lies over it.
-/

namespace LinkedSheets

/-- What a file says about a cell. -/
inductive BookCell where
  /-- A place without a cell. -/
  | blank
  /-- A text that was typed in. -/
  | text (s : String)
  /-- A text that a formula gives, or a date that is written out. -/
  | result (s : String)
  | boolean (s : String)
  /-- The code of an error. -/
  | fault (s : String)
  | number (s : String)
  /-- A number if the text is one. -/
  | guess (s : String)
  /-- A type that does not exist. -/
  | unknown
  deriving DecidableEq, Repr

/-- A cell under the name of its place. -/
structure PlacedCell where
  place : String
  content : BookCell
  format : Option NumberFormat
  deriving DecidableEq, Repr

structure BookSheet where
  name : String
  cells : List PlacedCell
  deriving DecidableEq, Repr

/-- A spreadsheet; its dates may be counted from 1904. -/
structure Book where
  from1904 : Bool
  sheets : List BookSheet
  deriving DecidableEq, Repr

/-- Why a sheet of a spreadsheet cannot be read. -/
inductive BookFault where
  /-- A cell does not fit its type, or it has no place. -/
  | badCell
  /-- A number is too far below zero for a date or a duration. -/
  | tooFar
  deriving DecidableEq, Repr

/-- Rows and columns are counted in thirty-two bits. -/
def placeLimit : Nat := Decimal.twoTo 32

/-- The place that a name such as `AB3` gives: letters for the column and a number for the row, both
counted from zero here. -/
def placeOfName? (name : String) : Option (Nat × Nat) := do
  let cs := name.toList
  let letters := cs.takeWhile Char.isAlpha
  let number ← Decimal.readDigits? (cs.dropWhile Char.isAlpha)
  let row := number % placeLimit
  let column :=
    letters.foldl (fun n c => n * 26 + (c.toUpper.toNat - 'A'.toNat + 1)) 0 % placeLimit
  if row = 0 ∨ column = 0 then none else some (row - 1, column - 1)

/-- What a cell holds: a text, or a number that is shown in one of three ways. -/
inductive CellContent where
  | text (s : String)
  | number (kind : NumberKind) (x : Decimal.Binary)
  deriving DecidableEq, Repr

/-- The text that a cell shows, if it can be shown. -/
def CellContent.text? (from1904 : Bool) : CellContent → Option String
  | text s => some s
  | number kind x => Serial.text? from1904 kind x

namespace BookCell

def faults : List String :=
  ["#DIV/0!", "#N/A", "#NAME?", "#NULL!", "#NUM!", "#REF!", "#VALUE!"]

def number? (s : String) : Option Decimal.Binary :=
  Decimal.readBinary? Decimal.binary64 s.toList

/-- What a cell holds, and nothing if there is no cell after all. -/
def content? (kind : NumberKind) : BookCell → Except BookFault (Option CellContent)
  | blank => .ok none
  | text s => .ok (some (.text (CellText.typed s)))
  | result s => .ok (some (.text (CellText.stored s)))
  | boolean s => .ok (some (.text (if s = "0" then "false" else "true")))
  | fault s => if faults.contains s then .ok (some (.text s)) else .error .badCell
  | number s =>
    if s = "" then .ok none
    else match number? s with
      | some x => .ok (some (.number kind x))
      | none => .error .badCell
  | guess s =>
    match number? s with
    | some x => .ok (some (.number kind x))
    | none => .ok (some (.text (CellText.stored s)))
  | unknown => .error .badCell

end BookCell

/-- A rectangle of texts, with the place of its first one. -/
structure UsedRange where
  row : Nat
  column : Nat
  cells : List (List String)
  deriving DecidableEq, Repr

namespace UsedRange

/-- Something at a place. -/
abbrev Placed (α : Type) := (Nat × Nat) × α

/-- The cells over which no later one lies. -/
def visible {α : Type} : List (Placed α) → List (Placed α)
  | [] => []
  | cell :: cells =>
    if cells.any (·.1 = cell.1) then visible cells else cell :: visible cells

def least (ns : List Nat) : Nat :=
  ns.min?.getD 0

def greatest (ns : List Nat) : Nat :=
  ns.max?.getD 0

/-- The smallest rectangle around the cells. Of two cells at one place the later one counts. -/
def ofCells (cells : List (Placed String)) : UsedRange :=
  match cells with
  | [] => ⟨0, 0, []⟩
  | _ =>
    let rows := cells.map (·.1.1)
    let columns := cells.map (·.1.2)
    let top := least rows
    let left := least columns
    let newest := cells.reverse
    let cell (row column : Nat) : String := (newest.lookup (top + row, left + column)).getD ""
    ⟨top, left, (List.range (greatest rows - top + 1)).map fun row =>
      (List.range (greatest columns - left + 1)).map (cell row)⟩

/-- The rows from the first one of the sheet on: empty rows above the range, and blank cells to the
left of it. -/
def rows (range : UsedRange) : List Row :=
  List.replicate range.row [] ++
    range.cells.map (List.replicate range.column "" ++ ·)

end UsedRange

namespace BookSheet

/-- The cells that there are, with what they hold. -/
def contents : List PlacedCell → Except BookFault (List (UsedRange.Placed CellContent))
  | [] => .ok []
  | cell :: cells => do
    let some place := placeOfName? cell.place | .error .badCell
    let kind := (cell.format.map NumberFormat.kind).getD .plain
    let content ← cell.content.content? kind
    let rest ← contents cells
    .ok (match content with
      | some content => (place, content) :: rest
      | none => rest)

/-- The cells with the texts that they show. -/
def texts (from1904 : Bool) :
    List (UsedRange.Placed CellContent) → Except BookFault (List (UsedRange.Placed String))
  | [] => .ok []
  | (place, content) :: cells => do
    let some text := content.text? from1904 | .error .tooFar
    let rest ← texts from1904 cells
    .ok ((place, text) :: rest)

def usedRange (from1904 : Bool) (sheet : BookSheet) : Except BookFault UsedRange := do
  let cells ← contents sheet.cells
  let shown ← texts from1904 (UsedRange.visible cells)
  .ok (.ofCells shown)

end BookSheet

namespace Book

/-- The used range of the first sheet of that name. -/
def range? (book : Book) (name : String) : Except BookFault UsedRange :=
  match book.sheets.find? (·.name == name) with
  | some sheet => sheet.usedRange book.from1904
  | none => .ok ⟨0, 0, []⟩

/-- All the sheets, or the name of the first one that cannot be read, and why. -/
def toSheets (book : Book) : Except (String × BookFault) (List Sheet) :=
  book.sheets.mapM fun sheet =>
    match book.range? sheet.name with
    | .ok range => .ok ⟨sheet.name, range.rows⟩
    | .error fault => .error (sheet.name, fault)

end Book

end LinkedSheets
