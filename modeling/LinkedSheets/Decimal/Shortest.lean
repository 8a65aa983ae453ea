import LinkedSheets.Decimal.Binary

/-!
# The shortest decimal text

`shortest` finds the fewest digits that read back as a given number, and of those the nearest to
it. It tries the grids of decimal numbers from coarse to fine: the first grid that has a point
between the number's two rounding boundaries has one right beside the number. A `DecimalLayout`
then says how digits and exponent are set down.
-/

namespace LinkedSheets.Decimal

/-- The decimal exponent of the leading digit of `num / den`. -/
def leadingExponent (num den : Nat) : Int :=
  let guess : Int := (Nat.toDigits 10 num).length - (Nat.toDigits 10 den).length
  if den * tenTo guess.toNat ≤ num * tenTo (-guess).toNat then guess else guess - 1

/-- A positive number and its rounding boundaries, over one denominator. -/
structure Neighbourhood where
  lower : Nat
  value : Nat
  upper : Nat
  den : Nat
  /-- Whether the boundaries themselves still round to the number. -/
  closed : Bool

/-- In quarters of the last place the boundaries are two away, except below a power of two, where
the places are half as wide. -/
def neighbourhood (f : BinaryFormat) (m : Nat) (e : Int) : Neighbourhood :=
  let scale := twoTo (e - 2).toNat
  let below := if m = twoTo (f.precision - 1) ∧ f.minExponent < e then 1 else 2
  ⟨(4 * m - below) * scale, 4 * m * scale, (4 * m + 2) * scale, twoTo (2 - e).toNat, m % 2 = 0⟩

namespace Neighbourhood

variable (b : Neighbourhood)

/-- Whether `q` units of `num / den` lie between the boundaries. -/
def holds (num den q : Nat) : Bool :=
  let point := q * num * b.den
  if b.closed then b.lower * den ≤ point && point ≤ b.upper * den
  else b.lower * den < point && point < b.upper * den

/-- The point of the grid `10 ^ k` beside the value that reads back, if there is one. -/
def gridPoint? (tieToEven : Bool) (k : Int) : Option Nat :=
  let num := tenTo k.toNat
  let den := tenTo (-k).toNat
  let q := b.value * den / (b.den * num)
  let twice := 2 * (b.value * den % (b.den * num))
  let half := b.den * num
  let up := twice > half || (twice == half && (!tieToEven || q % 2 == 1))
  match b.holds num den q, b.holds num den (q + 1) with
  | true, true => some (if up then q + 1 else q)
  | true, false => some q
  | false, true => some (q + 1)
  | false, false => none

/-- Tries `fuel` grids, each ten times finer than the one before. -/
def search (tieToEven : Bool) : (fuel : Nat) → (k : Int) → Nat × Int
  | 0, k => (0, k)
  | fuel + 1, k =>
    match b.gridPoint? tieToEven k with
    | some q => (q, k)
    | none => search tieToEven fuel (k - 1)

end Neighbourhood

/-- Moves trailing zeros of `digits` into the exponent, at most `fuel` of them. -/
def stripZeros : (fuel : Nat) → Nat → Int → Nat × Int
  | 0, digits, k => (digits, k)
  | fuel + 1, digits, k =>
    if digits % 10 = 0 then stripZeros fuel (digits / 10) (k + 1) else (digits, k)

/-- Digits and exponent of the shortest decimal `digits * 10 ^ exponent` that reads back as the
positive number `m * 2 ^ e`. As many digits as the significand has bits always suffice. -/
def shortest (f : BinaryFormat) (tieToEven : Bool) (m : Nat) (e : Int) : Nat × Int :=
  let b := neighbourhood f m e
  let (digits, k) := b.search tieToEven (f.precision + 1) (leadingExponent b.value b.den)
  stripZeros 1 digits k

/-- How a decimal is set down. -/
structure DecimalLayout where
  /-- The least and the greatest exponent of a leading digit that are written out in zeros; without
  them every number is. -/
  positional : Option (Int × Int)
  /-- Whether a whole number still shows a point and a zero. -/
  pointAlways : Bool
  /-- Which of two equally near decimals is taken: one with an even last digit, or the greater. -/
  tieToEven : Bool

namespace DecimalLayout

variable (layout : DecimalLayout)

def isPositional (lead : Int) : Bool :=
  match layout.positional with
  | none => true
  | some (least, greatest) => least ≤ lead && lead ≤ greatest

/-- The digits with a point after the first `point` of them, filled up with zeros. -/
def positionalText (digits : List Char) (point : Int) : List Char :=
  let count : Int := digits.length
  if count ≤ point then
    digits ++ List.replicate (point - count).toNat '0' ++
      if layout.pointAlways then ['.', '0'] else []
  else if 0 < point then digits.take point.toNat ++ '.' :: digits.drop point.toNat
  else '0' :: '.' :: List.replicate (-point).toNat '0' ++ digits

/-- One digit before the point, and an exponent that always has a sign. -/
def exponentText (digits : List Char) (lead : Int) : List Char :=
  let fraction := match digits.drop 1 with
    | [] => []
    | rest => '.' :: rest
  let sign := if lead < 0 then '-' else '+'
  digits.take 1 ++ fraction ++ 'e' :: sign :: Nat.toDigits 10 lead.natAbs

/-- The text of a number that is zero or positive. -/
def magnitudeText (f : BinaryFormat) (m : Nat) (e : Int) : List Char :=
  if m = 0 then layout.positionalText ['0'] 1
  else
    let (digits, k) := shortest f layout.tieToEven m e
    let digits := Nat.toDigits 10 digits
    let lead := k + digits.length - 1
    if layout.isPositional lead then layout.positionalText digits (lead + 1)
    else exponentText digits lead

def text (f : BinaryFormat) : Binary → List Char
  | .finite negative m e => signed negative (layout.magnitudeText f m e)
  | .infinite negative => signed negative ['i', 'n', 'f']
  | .nan => ['N', 'a', 'N']
where
  signed (negative : Bool) (cs : List Char) : List Char :=
    if negative then '-' :: cs else cs

end DecimalLayout

/-- Every digit is written out, and whole numbers have no point. -/
def plain : DecimalLayout := ⟨none, false, false⟩

end LinkedSheets.Decimal
