import LinkedSheets.KeyNaming
import LinkedSheets.Lookup
import LinkedSheets.Traced
import LinkedSheets.Value

/-!
# Resolving rows

A row resolves to an object with a field for every column of its header. Plain cells are texts; a
reference is replaced by the row it leads to, resolved with the header of that row's own sheet, and
a list of references by the array of such rows.

How many references may be followed one after the other is limited, so that rows that lead back to
themselves come to an end. `Resolver.resolve` recurses on the number that is left; each of the
smaller functions is given a way to resolve a row one reference deeper, or none where the limit is
reached, and does one step: `follow` one specifier, `readCell` one cell, `readFields` a row.
-/

namespace LinkedSheets

/-- How keys are named, and how many references may be followed one after the other. -/
structure Resolver where
  keys : KeyNaming
  maxDepth : Nat
  deriving DecidableEq, Repr

/-- Resolves a row, given the path that leads to it and the header it is read with. -/
abbrev RowReader := FieldPath → (header : List String) → Row → Traced ResolutionFailure Value

namespace Resolver

/-- The row that a target selects, and its sheet. -/
def locate (w : Workbook) (path : FieldPath) (target : Target) :
    Except ResolutionFailure (Sheet × Row) :=
  match w.sheet? target.sheet with
  | none => .error (.unknownSheet target.sheet path)
  | some sheet =>
    match sheet.findRow target.column target.value with
    | .error (name, column) => .error (.unknownColumn name column)
    | .ok none => .error (.rowNotFound path target)
    | .ok (some (row, _)) => .ok (sheet, row)

variable (r : Resolver) (w : Workbook) (deeper : Option RowReader)

/-- The row that a specifier leads to. The specifier is checked before the limit, and the limit
before the sheet. -/
def follow (path : FieldPath) (spec : String) : Traced ResolutionFailure Value :=
  match Target.parse? spec, deeper with
  | none, _ => .fail (.malformedSpec path spec)
  | some _, none => .fail (.tooDeep r.maxDepth path)
  | some target, some deeper => do
    let (sheet, row) ← .ofExcept (locate w path target)
    .emit (.following path target)
    deeper path sheet.header row

/-- The rows of a list of specifiers, each under its position in the list. -/
def followAll (path : FieldPath) : (position : Nat) → List String →
    Traced ResolutionFailure (List Value)
  | _, [] => pure []
  | position, spec :: specs => do
    let value ← follow r w deeper (path ++ [position.repr]) spec
    let values ← followAll path (position + 1) specs
    pure (value :: values)

def readCell (path : FieldPath) : Cell → Traced ResolutionFailure Value
  | .scalar text => pure (.scalar text)
  | .reference spec => follow r w deeper path spec
  | .references specs => do
    let values ← followAll r w deeper path 0 specs
    pure (.array values)

/-- The key of a column with that cell. -/
def keyOf (column : String) (cell : Cell) : Except ResolutionFailure String :=
  match r.keys.key? column cell.isReference with
  | some key => .ok key
  | none => .error (.missingKey column)

/-- The fields for columns and their cells, given the keys that are taken. A column whose key is
taken is resolved all the same, and then dropped. -/
def readFields (path : FieldPath) : (taken : List String) → List (String × String) →
    Traced ResolutionFailure (List (String × Value))
  | _, [] => pure []
  | taken, (column, text) :: columns => do
    let cell := Cell.classify text
    let key ← .ofExcept (r.keyOf column cell)
    let value ← readCell r w deeper (path ++ [column]) cell
    if taken.contains key then
      .emit (.keyCollision key (path ++ [column]))
      readFields path taken columns
    else
      let fields ← readFields path (key :: taken) columns
      pure ((key, value) :: fields)

def readRow : RowReader := fun path header row => do
  let fields ← readFields r w deeper path [] (Row.against header row)
  pure (.object fields)

/-- Resolves a row from which at most `depth` references may be followed one after the other. -/
def resolve : (depth : Nat) → RowReader
  | 0 => readRow r w none
  | depth + 1 => readRow r w (some (resolve depth))

/-- Resolves a single row that is read with the given header. -/
def resolveRow (header : List String) (row : Row) : Traced ResolutionFailure Value :=
  r.resolve w r.maxDepth [] header row

/-- Resolves a data row of a sheet. -/
def resolveDataRow (sheet : Sheet) (index : Nat) (row : Row) : Traced ResolutionFailure Value :=
  r.resolve w r.maxDepth [sheet.name, index.repr] sheet.header row

end Resolver

end LinkedSheets
