/-!
# The calendar

Days are counted in the Gregorian calendar, carried back before its introduction and with a year
zero. A cycle of four hundred years has 146097 days. Inside a cycle the years are counted from
March, so that the leap day is the last day of its year.
-/

namespace LinkedSheets

structure Date where
  year : Int
  month : Nat
  day : Nat
  deriving DecidableEq, Repr

namespace Date

/-- The year of a day in a cycle; the second to the fourth term leave out leap days. -/
def yearOfCycle (day : Nat) : Nat :=
  (day - day / 1460 + day / 36524 - day / 146096) / 365

/-- The date of a day, counted from the first of March of the year zero. -/
def ofDay (n : Int) : Date :=
  let cycle := n / 146097
  let dayOfCycle := (n % 146097).toNat
  let year := yearOfCycle dayOfCycle
  let dayOfYear := dayOfCycle - (365 * year + year / 4 - year / 100)
  let marchMonth := (5 * dayOfYear + 2) / 153
  let month := if marchMonth < 10 then marchMonth + 3 else marchMonth - 9
  let day := dayOfYear - (153 * marchMonth + 2) / 5 + 1
  ⟨year + cycle * 400 + (if month ≤ 2 then 1 else 0), month, day⟩

/-- The digits of a number, filled up with zeros. -/
def padded (width n : Nat) : String :=
  let digits := Nat.toDigits 10 n
  String.ofList (List.replicate (width - digits.length) '0' ++ digits)

/-- Years of four digits have no sign, all others have one. -/
def yearText (year : Int) : String :=
  if 0 ≤ year && year ≤ 9999 then padded 4 year.toNat
  else (if year < 0 then "-" else "+") ++ padded 4 year.natAbs

def text (d : Date) : String :=
  yearText d.year ++ "-" ++ padded 2 d.month ++ "-" ++ padded 2 d.day

end Date

end LinkedSheets
