import LinkedSheets.Resolution.Resolver

/-!
# Whole sheets

`Resolver.sheet` resolves all data rows of a sheet and fails with the first one that does not
resolve. `Resolver.sheetLeniently` goes on after such rows and lists them with their numbers. Both
fail when there is no sheet of that name.
-/

namespace LinkedSheets

/-- What became of the rows of a sheet: the values of those that resolved, and the numbers of the
others with the reason, both in the order of the sheet. -/
structure Materialized where
  values : List Value
  skipped : List (Nat × ResolutionFailure)

namespace Resolver

/-- The sheet that was asked for, announced with the number of its rows. -/
def openSheet (w : Workbook) (name : String) : Traced ResolutionFailure Sheet :=
  match w.sheet? name with
  | none => .fail (.unknownSheet name [])
  | some sheet => do
    .emit (.materializing name sheet.dataRows.length)
    pure sheet

variable (r : Resolver) (w : Workbook)

def readRows (sheet : Sheet) : List (Row × Nat) → Traced ResolutionFailure (List Value)
  | [] => pure []
  | (row, index) :: rows => do
    let value ← r.resolveDataRow w sheet index row
    let values ← readRows sheet rows
    pure (value :: values)

def sheet (name : String) : Traced ResolutionFailure (List Value) := do
  let sheet ← openSheet w name
  let values ← r.readRows w sheet sheet.dataRows.zipIdx
  .emit (.materialized name none)
  pure values

def readRowsLeniently (sheet : Sheet) : List (Row × Nat) → Traced ResolutionFailure Materialized
  | [] => pure ⟨[], []⟩
  | (row, index) :: rows => do
    match ← (r.resolveDataRow w sheet index row).attempt with
    | .ok value =>
      let rest ← readRowsLeniently sheet rows
      pure { rest with values := value :: rest.values }
    | .error failure =>
      .emit (.skippingRow sheet.name index failure)
      let rest ← readRowsLeniently sheet rows
      pure { rest with skipped := (index, failure) :: rest.skipped }

def sheetLeniently (name : String) : Traced ResolutionFailure Materialized := do
  let sheet ← openSheet w name
  let result ← r.readRowsLeniently w sheet sheet.dataRows.zipIdx
  .emit (.materialized name (some result.skipped.length))
  pure result

end Resolver

end LinkedSheets
