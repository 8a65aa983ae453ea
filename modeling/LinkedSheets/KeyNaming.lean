/-!
# Key naming

The keys of a resolved row come from the names of its columns, either as they are or through a
table of new names. A table may be limited to the columns whose cell is a reference; the others
then keep their names. A column that should be renamed and is not in the table has no key.
-/

namespace LinkedSheets

/-- The columns that a table of names is for. -/
inductive RenameScope where
  | all
  | references
  deriving DecidableEq, Repr

inductive KeyNaming where
  | verbatim
  | renamed (names : List (String × String)) (scope : RenameScope)
  deriving DecidableEq, Repr

namespace KeyNaming

/-- The new name of a column; the last entry for a column counts. -/
def rename? (names : List (String × String)) (column : String) : Option String :=
  names.reverse.lookup column

def withScope (scope : RenameScope) : KeyNaming → KeyNaming
  | verbatim => verbatim
  | renamed names _ => renamed names scope

/-- The key for a column, given whether its cell is a reference. -/
def key? (naming : KeyNaming) (column : String) (isReference : Bool) : Option String :=
  match naming with
  | verbatim => some column
  | renamed names .all => rename? names column
  | renamed names .references => if isReference then rename? names column else some column

end KeyNaming

end LinkedSheets
