import LinkedSheets.Decimal.Power

/-!
# Binary floating-point numbers

The numbers of a `BinaryFormat` are `± significand * 2 ^ exponent` with a bounded significand and a
bounded exponent, two infinities, and one value that is no number. Arithmetic is exact arithmetic
followed by `BinaryFormat.round`, the one place where a number is given up for its nearest
neighbour: a tie goes to the even significand, and what is too large becomes an infinity.
-/

namespace LinkedSheets.Decimal

/-- How many bits a significand has, and how many bits the exponent takes in the bit pattern. -/
structure BinaryFormat where
  precision : Nat
  exponentBits : Nat
  deriving DecidableEq, Repr

def binary64 : BinaryFormat := ⟨53, 11⟩

def binary32 : BinaryFormat := ⟨24, 8⟩

inductive Binary where
  | finite (negative : Bool) (significand : Nat) (exponent : Int)
  | infinite (negative : Bool)
  | nan
  deriving DecidableEq, Repr

/-- `num / den` to the nearest whole number, a half to the even one. -/
def roundHalfEven (num den : Nat) : Nat :=
  let q := num / den
  let twice := 2 * (num % den)
  if twice < den || (twice == den && q % 2 == 0) then q else q + 1

/-- The ratio `num / den` counted in units of `2 ^ e`, again as a ratio. -/
def inUnits (num den : Nat) (e : Int) : Nat × Nat :=
  (num * twoTo (-e).toNat, den * twoTo e.toNat)

namespace BinaryFormat

variable (f : BinaryFormat)

/-- The exponent of the smallest numbers, and of zero. -/
def minExponent : Int :=
  3 - twoTo (f.exponentBits - 1) - f.precision

def maxExponent : Int :=
  twoTo (f.exponentBits - 1) - f.precision

/-- The number nearest to `num / den`. Counted in units of `2 ^ low` the ratio is below
`2 ^ (precision + 1)`, so either that unit or the next one keeps all the bits there are. -/
def roundRatio (negative : Bool) (num den : Nat) : Binary :=
  if num = 0 then .finite negative 0 f.minExponent
  else
    let low := max f.minExponent (num.log2 - den.log2 - f.precision)
    let (n, d) := inUnits num den low
    let e := if n / d < twoTo f.precision then low else low + 1
    let (n, d) := inUnits num den e
    let m := roundHalfEven n d
    let (m, e) := if m = twoTo f.precision then (m / 2, e + 1) else (m, e)
    if e ≤ f.maxExponent then .finite negative m e else .infinite negative

def round (q : Rat) : Binary :=
  f.roundRatio (q < 0) q.num.natAbs q.den

/-- The number nearest to `digits * 10 ^ exponent`. Far outside the range of the format the answer
is known without the power of ten. -/
def roundDecimal (negative : Bool) (digits : Nat) (exponent : Int) : Binary :=
  let lead := exponent + (Nat.toDigits 10 digits).length
  if digits = 0 ∨ lead < f.minExponent then .finite negative 0 f.minExponent
  else if lead > f.maxExponent + f.precision then .infinite negative
  else f.roundRatio negative (digits * tenTo exponent.toNat) (tenTo (-exponent).toNat)

/-- The bit pattern: sign, exponent, and the significand without its leading bit. -/
def bits : Binary → Nat
  | .finite negative m e =>
    let hidden := twoTo (f.precision - 1)
    sign negative +
      if m < hidden then m else (e - f.minExponent + 1).toNat * hidden + (m - hidden)
  | .infinite negative => sign negative + ones
  | .nan => ones + twoTo (f.precision - 2)
where
  sign (negative : Bool) : Nat :=
    if negative then twoTo (f.precision - 1 + f.exponentBits) else 0
  ones : Nat := (twoTo f.exponentBits - 1) * twoTo (f.precision - 1)

end BinaryFormat

namespace Binary

/-- The magnitude of a finite number. -/
def magnitude (significand : Nat) (exponent : Int) : Rat :=
  mkRat (significand * twoTo exponent.toNat) (twoTo (-exponent).toNat)

/-- The value of a finite number; both zeros are zero. -/
def toRat? : Binary → Option Rat
  | finite negative m e => some (if negative then -magnitude m e else magnitude m e)
  | infinite _ | nan => none

def negate : Binary → Binary
  | finite negative m e => finite (!negative) m e
  | infinite negative => infinite (!negative)
  | nan => nan

end Binary

end LinkedSheets.Decimal
