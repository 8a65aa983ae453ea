import LinkedSheets.Text.Split

/-!
# The meaning of a cell

A cell is plain text unless it begins with one of two tags. `reference:` makes it a reference to a
row of some sheet, and `listReference:` a list of such references, separated by commas. There is no
way to write plain text that begins with a tag.

What is behind a tag is a target specifier, `<sheet>@<column>#<value>`: the first row of the sheet
that has the value in the column. `Target.parse?` takes one apart and `Target.spec` puts it
together. A cell keeps its specifiers as they are written, since they may well be no targets.
-/

namespace LinkedSheets

inductive Cell where
  | scalar (text : String)
  | reference (spec : String)
  | references (specs : List String)
  deriving DecidableEq, Repr

namespace Cell

def referenceTag : String := "reference:"

def referencesTag : String := "listReference:"

def classify (text : String) : Cell :=
  match referencesTag.toList.isPrefixOf? text.toList with
  | some specs => .references ((Text.split ',' specs).map String.ofList)
  | none =>
    match referenceTag.toList.isPrefixOf? text.toList with
    | some spec => .reference (String.ofList spec)
    | none => .scalar text

/-- Whether the cell stands for other rows. -/
def isReference : Cell → Bool
  | scalar _ => false
  | reference _ | references _ => true

end Cell

structure Target where
  sheet : String
  column : String
  value : String
  deriving DecidableEq, Repr

namespace Target

/-- The characters of sheet and column names. -/
def isNameChar (c : Char) : Bool :=
  c != '@' && c != '#' && c != ','

/-- A name in front, which has at least one character, and what follows the `stop` behind it. -/
def takeName? (stop : Char) (cs : List Char) : Option (List Char × List Char) :=
  match cs.takeWhile isNameChar, cs.dropWhile isNameChar with
  | c :: name, d :: rest => if d = stop then some (c :: name, rest) else none
  | _, _ => none

def parse? (spec : String) : Option Target := do
  let (sheet, rest) ← takeName? '@' spec.toList
  let (column, value) ← takeName? '#' rest
  if value.contains '#' then none
  else some ⟨String.ofList sheet, String.ofList column, String.ofList value⟩

def spec (t : Target) : String :=
  t.sheet ++ "@" ++ t.column ++ "#" ++ t.value

/-- Why a specifier is refused. -/
def refusal (spec : String) : String :=
  "expected <sheet>@<column>#<value>, got \"" ++ spec ++ "\""

end Target

end LinkedSheets
