import LinkedSheets.Decimal.Binary

/-!
# Reading numbers

What a text has to look like to be a whole number or a decimal. Whole numbers are a sign and
digits; the sign may be a minus only where negative numbers exist. Decimals are a sign and then
digits with an optional point and exponent, or one of the words for an infinity or for no number.
The caller has taken blanks away; nothing else is skipped.
-/

namespace LinkedSheets.Decimal

/-- The range of whole numbers of `bits` bits. -/
structure IntegerRange where
  signed : Bool
  bits : Nat
  deriving DecidableEq, Repr

namespace IntegerRange

def least (r : IntegerRange) : Int :=
  if r.signed then -twoTo (r.bits - 1) else 0

def greatest (r : IntegerRange) : Int :=
  if r.signed then twoTo (r.bits - 1) - 1 else twoTo r.bits - 1

def holds (r : IntegerRange) (n : Int) : Bool :=
  r.least ≤ n && n ≤ r.greatest

end IntegerRange

/-- The number that digits denote; there has to be one digit, and nothing else. -/
def readDigits? (cs : List Char) : Option Nat :=
  if cs.isEmpty || !cs.all Char.isDigit then none else some (Nat.ofDigitChars 10 cs 0)

def readInteger? (r : IntegerRange) (cs : List Char) : Option Int := do
  let n ← match cs with
    | '+' :: rest => (readDigits? rest).map Int.ofNat
    | '-' :: rest => if r.signed then (readDigits? rest).map (-Int.ofNat ·) else none
    | rest => (readDigits? rest).map Int.ofNat
  if r.holds n then some n else none

/-- A sign in front, if there is one, and the rest. -/
def takeSign : List Char → Bool × List Char
  | '-' :: rest => (true, rest)
  | '+' :: rest => (false, rest)
  | rest => (false, rest)

/-- The exponent behind the digits of a decimal; without one it is zero. -/
def readExponent? : List Char → Option Int
  | [] => some 0
  | c :: rest =>
    if c = 'e' ∨ c = 'E' then
      let (negative, rest) := takeSign rest
      (readDigits? rest).map fun n => if negative then -Int.ofNat n else Int.ofNat n
    else none

/-- Unsigned decimal digits as a whole number and a power of ten. -/
def readMagnitude? (cs : List Char) : Option (Nat × Int) :=
  let whole := cs.takeWhile Char.isDigit
  let rest := cs.dropWhile Char.isDigit
  let (fraction, rest) := match rest with
    | '.' :: rest => (rest.takeWhile Char.isDigit, rest.dropWhile Char.isDigit)
    | rest => ([], rest)
  if whole.isEmpty && fraction.isEmpty then none
  else (readExponent? rest).map fun e =>
    (Nat.ofDigitChars 10 (whole ++ fraction) 0, e - fraction.length)

def readBinary? (f : BinaryFormat) (cs : List Char) : Option Binary :=
  let (negative, rest) := takeSign cs
  let word := String.ofList (rest.map Char.toLower)
  if word = "inf" ∨ word = "infinity" then some (.infinite negative)
  else if word = "nan" then some .nan
  else (readMagnitude? rest).map fun (digits, e) => f.roundDecimal negative digits e

end LinkedSheets.Decimal
