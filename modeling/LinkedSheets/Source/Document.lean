import LinkedSheets.Json.Reader
import LinkedSheets.Json.Writer
import LinkedSheets.Workbook

/-!
# Documents of sheets

A JSON document holds a workbook if it is an object with an array of rows under the name of every
sheet, each row an array of cells. Cells are scalars: null is blank, a text is itself, and numbers
and truth values are their JSON. Of sheets with one name the last counts.

`sheetsOf` turns the sheets of a document into sheets of a workbook in the order they are given.
-/

namespace LinkedSheets

/-- A sheet before its cells were looked at. -/
abbrev DocumentSheet := String × List (List Json)

namespace Document

/-- The shapes down to the cells. -/
def shape : Nat → JsonShape
  | 0 => .object
  | 1 | 2 => .array
  | _ => .any

/-- The sheets of a document, which may be no deeper than any other one. -/
def outline : Outline := { Outline.untyped with shape }

def itemsOf : Json → List Json
  | .array items => items
  | _ => []

def membersOf : Json → List (String × Json)
  | .object members => members
  | _ => []

/-- The sheets of a document, each once. -/
def read (bytes : List UInt8) : Except JsonFault (List DocumentSheet) := do
  let document ← Json.readOutlined outline (Text.decode bytes)
  .ok ((Table.ofList (membersOf document)).map fun (name, rows) =>
    (name, (itemsOf rows).map itemsOf))

/-- The text of a cell, or the cell if it is none. -/
def cellText : Json → Except Json String
  | .null => .ok ""
  | .boolean b => .ok (if b then "true" else "false")
  | .number n => .ok (String.ofList (Json.numberText n))
  | .text s => .ok s
  | other => .error other

def sheetOf : DocumentSheet → Except (String × Json) Sheet
  | (name, rows) =>
    match rows.mapM (·.mapM cellText) with
    | .ok rows => .ok ⟨name, rows⟩
    | .error cell => .error (name, cell)

/-- The sheets, or the name of the first one that has a bad cell, with that cell. -/
def sheetsOf (sheets : List DocumentSheet) : Except (String × Json) (List Sheet) :=
  sheets.mapM sheetOf

end Document

end LinkedSheets
