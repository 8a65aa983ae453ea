/-!
# Number formats

A spreadsheet keeps dates and durations as numbers; only the format of the cell tells. The formats
with a number are known by heart, and the code of any other format is searched for letters that
stand for parts of a date, outside of quotes and escapes. A bracket around hours, minutes or seconds
makes it a duration, and everything behind the first semicolon is for other numbers.
-/

namespace LinkedSheets

inductive NumberFormat where
  | builtIn (id : Nat)
  | custom (code : String)
  deriving DecidableEq, Repr

/-- What a number in a cell stands for. -/
inductive NumberKind where
  | plain
  | date
  | duration
  deriving DecidableEq, Repr

/-- The state of the search through a format code. -/
structure FormatScan where
  escaped : Bool
  quoted : Bool
  /-- Whether the `a` of an am/pm mark was seen; its `m`, a `p` or the slash then decide. -/
  halfDay : Bool
  /-- Whether all since the bracket was one letter for hours, minutes or seconds. -/
  elapsed : Bool
  /-- How many brackets are open. -/
  depth : Nat
  previous : Char
  deriving DecidableEq, Repr

namespace FormatScan

def start : FormatScan := ⟨false, false, false, false, 0, ' '⟩

def isElapsedLetter (c : Char) : Bool :=
  ['h', 'm', 's'].contains c.toLower

def isDateLetter (c : Char) : Bool :=
  ['d', 'm', 'h', 'y', 's'].contains c.toLower

/-- A character that decides nothing; it may begin or continue the letters in a bracket. -/
def stepOther (s : FormatScan) (c : Char) : FormatScan :=
  if s.elapsed && c.toLower == s.previous.toLower then s
  else { s with elapsed := s.previous == '[' && isElapsedLetter c }

/-- A character outside of quotes: the kind if it is decided, or the next state. -/
def stepCode (s : FormatScan) (c : Char) : Except NumberKind FormatScan :=
  if c = '"' then .ok { s with quoted := true }
  else if c = ';' then .error .plain
  else if c = '[' then .ok { s with depth := s.depth + 1 }
  else if c = ']' then
    if s.depth = 1 && s.elapsed then .error .duration else .ok { s with depth := s.depth - 1 }
  else if s.depth = 0 && !s.halfDay && c.toLower == 'a' then .ok { s with halfDay := true }
  else if s.depth = 0 && s.halfDay && ['p', 'm', '/'].contains c.toLower then .error .date
  else if s.depth = 0 && !s.halfDay && isDateLetter c then .error .date
  else .ok (s.stepOther c)

def step (s : FormatScan) (c : Char) : Except NumberKind FormatScan := do
  let s ←
    if s.escaped then .ok { s with escaped := false }
    else if c = '_' ∨ c = '\\' then .ok { s with escaped := true }
    else if s.quoted then .ok { s with quoted := c ≠ '"' }
    else s.stepCode c
  .ok { s with previous := c }

end FormatScan

namespace NumberFormat

def codeKind (code : List Char) : NumberKind :=
  match code.foldlM FormatScan.step FormatScan.start with
  | .error kind => kind
  | .ok _ => .plain

def kind : NumberFormat → NumberKind
  | builtIn id =>
    if id = 46 then .duration
    else if (14 ≤ id ∧ id ≤ 22) ∨ id = 45 ∨ id = 47 then .date
    else .plain
  | custom code => codeKind code.toList

end NumberFormat

end LinkedSheets
