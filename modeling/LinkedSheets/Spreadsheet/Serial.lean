import LinkedSheets.Decimal.Reader
import LinkedSheets.Decimal.Shortest
import LinkedSheets.Spreadsheet.Calendar
import LinkedSheets.Spreadsheet.NumberFormat

/-!
# Numbers in cells

The text of a number is its shortest decimal, written out without an exponent. A date is a number of
days since the end of 1899, and its fraction is the time of day; the numbers below sixty are one day
off, because they are counted with a leap day in 1900 that there never was. Files may count from
1904 instead. A duration is a number of days as well.

Both are taken to the millisecond in binary arithmetic, as they were stored, and to the second when
they are written. A date out of the calendar stays a number. The least number of milliseconds that
there can be has no meaning at all: then there is no text either.
-/

namespace LinkedSheets.Serial

open Decimal (Binary binary64 plain)

def numberText (x : Binary) : String :=
  String.ofList (plain.text binary64 x)

/-- The sum with a small number, rounded. -/
def plus (x : Binary) (n : Nat) : Binary :=
  match x.toRat? with
  | some q => binary64.round (q + n)
  | none => x

def isBelow (x : Binary) (n : Nat) : Bool :=
  match x with
  | .finite .. => (x.toRat?.getD 0) < n
  | .infinite negative => negative
  | .nan => true

/-- The whole number nearest to `q`; a half goes away from zero. -/
def roundHalfAway (q : Rat) : Int :=
  if q < 0 then -(-q + 1 / 2).floor else (q + 1 / 2).floor

/-- Milliseconds have sixty-four bits, and are cut off at both ends. -/
def range : Decimal.IntegerRange := ⟨true, 64⟩

def clamp (n : Int) : Int :=
  max range.least (min n range.greatest)

/-- More milliseconds than there can be. -/
def extreme (negative : Bool) : Int :=
  if negative then range.least else range.greatest

/-- A number of days in milliseconds. -/
def milliseconds (days : Binary) : Int :=
  match days.toRat? with
  | some q =>
    match (binary64.round (q * 86400000)).toRat? with
    | some ms => clamp (roundHalfAway ms)
    | none => extreme (q < 0)
  | none =>
    match days with
    | .infinite negative => extreme negative
    | _ => 0

/-- Days between the two days from which files count. -/
def laterStart : Nat := 1462

/-- The day from which dates are counted, as a day of the calendar. -/
def epoch : Int := 693899

def leastYear : Int := -262143

def greatestYear : Int := 262142

def clockText (seconds : Nat) : String :=
  Date.padded 2 (seconds / 3600) ++ ":" ++ Date.padded 2 (seconds % 3600 / 60) ++ ":" ++
    Date.padded 2 (seconds % 60)

/-- The number of days from the day that dates are counted from. -/
def daysOfDate (from1904 : Bool) (x : Binary) : Binary :=
  let days := if from1904 then plus x laterStart else x
  if isBelow days 60 then plus days 1 else days

/-- The date of a number of milliseconds, with the time of day unless it is midnight. -/
def dateText? (ms : Int) : Option String :=
  let date := Date.ofDay (epoch + ms / 86400000)
  let seconds := (ms % 86400000).toNat / 1000
  if date.year < leastYear || greatestYear < date.year then none
  else some (if seconds = 0 then date.text else date.text ++ "T" ++ clockText seconds)

/-- Hours, minutes and seconds; there may be any number of hours. -/
def durationText (ms : Int) : String :=
  let seconds := ms.tdiv 1000
  let n := seconds.natAbs
  (if seconds < 0 then "-" else "") ++ (n / 3600).repr ++ ":" ++
    Date.padded 2 (n % 3600 / 60) ++ ":" ++ Date.padded 2 (n % 60)

/-- A number of days in milliseconds, if they mean something. -/
def meaning? (days : Binary) : Option Int :=
  let ms := milliseconds days
  if ms = range.least then none else some ms

/-- The text of a number in a cell with that format. -/
def text? (from1904 : Bool) (kind : NumberKind) (x : Binary) : Option String :=
  match kind with
  | .plain => some (numberText x)
  | .date => (meaning? (daysOfDate from1904 x)).map fun ms => (dateText? ms).getD (numberText x)
  | .duration => (meaning? x).map durationText

end LinkedSheets.Serial
