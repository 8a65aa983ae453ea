import LinkedSheets.Cell

/-!
# Why a row does not resolve

A `FieldPath` names a cell by the way that leads to it: the sheet and the number of a row if one
started there, then a column, and behind a list of references the position in it, and so on through
every row that was followed. A failure keeps the path of the cell it was found in, except for two:
that of a column and that of a key that is missing.
-/

namespace LinkedSheets

abbrev FieldPath := List String

def FieldPath.text (path : FieldPath) : String :=
  ".".intercalate path

inductive ResolutionFailure where
  /-- No sheet of that name. A sheet that was asked for directly has the empty path. -/
  | unknownSheet (sheet : String) (field : FieldPath)
  /-- The sheet of a target has no such column. -/
  | unknownColumn (sheet column : String)
  /-- No row of the sheet has the value in the column. -/
  | rowNotFound (field : FieldPath) (target : Target)
  /-- The specifier is no target. -/
  | malformedSpec (field : FieldPath) (spec : String)
  /-- The column has no key. -/
  | missingKey (column : String)
  /-- More references in a row than may be followed. -/
  | tooDeep (limit : Nat) (field : FieldPath)
  deriving DecidableEq, Repr

namespace ResolutionFailure

def message : ResolutionFailure → String
  | unknownSheet sheet field =>
    "unknown sheet \"" ++ sheet ++ "\"" ++
      if field.text = "" then "" else " on " ++ field.text
  | unknownColumn sheet column =>
    "unknown column \"" ++ column ++ "\" in sheet \"" ++ sheet ++ "\""
  | rowNotFound field target =>
    "couldn't find the reference on " ++ field.text ++ ": sheet = " ++ target.sheet ++
      ", column = " ++ target.column ++ ", value = " ++ target.value
  | malformedSpec field spec =>
    "malformed reference spec on " ++ field.text ++ ": " ++ Target.refusal spec
  | missingKey column => "no key mapping for column \"" ++ column ++ "\""
  | tooDeep limit field =>
    "reference depth limit of " ++ limit.repr ++ " exceeded on " ++ field.text

end ResolutionFailure

end LinkedSheets
