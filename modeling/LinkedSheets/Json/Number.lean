import LinkedSheets.Json.Basic
import LinkedSheets.Json.Fault

/-!
# Numbers in JSON texts

Whole numbers that fit 64 bits are kept as they are. Everything else becomes a binary number in two
steps, which may differ in the last bit from rounding the text once: the digits are collected into
a whole number of 64 bits, leaving out those that would overflow it, and its nearest binary number
is multiplied or divided by a power of ten. Beyond the powers that exist, a division takes several
steps, and a multiplication of anything but zero is out of range.

`scan` reads a number from the front of the characters that are left and says where it ends.
-/

namespace LinkedSheets.JsonNumber

open Decimal

/-- The greatest whole number of 64 bits, and so the greatest collection of digits. -/
def limit : Nat := twoTo 64 - 1

/-- The greatest power of ten that is multiplied or divided by. -/
def greatestPower : Nat := 308

/-- Takes digits into a whole number until one of them would overflow it. Returns the number, and
how many digits were taken. -/
def collect : (significand : Nat) → List Char → Nat × Nat
  | significand, [] => (significand, 0)
  | significand, c :: cs =>
    let next := significand * 10 + (c.toNat - '0'.toNat)
    if limit < next then (significand, 0)
    else
      let (significand, taken) := collect next cs
      (significand, taken + 1)

/-- The value of the binary number nearest to `10 ^ k`. -/
def power (k : Nat) : Rat :=
  ((binary64.round (tenTo k)).toRat?).getD 0

/-- Divides by `10 ^ k`, rounding after every division. -/
def divide (x : Binary) (k : Nat) : Binary :=
  match x.toRat? with
  | none => x
  | some value =>
    if k ≤ greatestPower then binary64.round (value / power k)
    else if value = 0 then x
    else divide (binary64.round (value / power greatestPower)) (k - greatestPower)
termination_by k
decreasing_by simp [greatestPower] at *; omega

/-- Multiplies by `10 ^ k`, if the product is a number. -/
def multiply? (x : Binary) (k : Nat) : Option Binary := do
  let value ← x.toRat?
  if value = 0 then some x
  else if greatestPower < k then none
  else
    let product := binary64.round (value * power k)
    let _ ← product.toRat?
    some product

/-- The number with these digits and this exponent, unless it is out of range. -/
def scale? (negative : Bool) (significand : Nat) (exponent : Int) : Option JsonNumber :=
  let x := binary64.round (significand : Rat)
  let x? := if exponent < 0 then some (divide x exponent.natAbs) else multiply? x exponent.natAbs
  x?.map fun x => .real (if negative then x.negate else x)

/-- A number without point and exponent. -/
def ofWhole (negative : Bool) (significand : Nat) : JsonNumber :=
  if !negative then .integer significand
  else if 1 ≤ significand ∧ significand ≤ twoTo 63 then .integer (-significand)
  else .real (binary64.round (significand : Rat)).negate

/-- Characters that are left of a document; `none` is a byte that belongs to no character. -/
abbrev Rest := List (Option Char)

/-- The digits in front and what follows them. -/
def takeDigits : Rest → List Char × Rest
  | some c :: rest =>
    if c.isDigit then
      let (digits, rest) := takeDigits rest
      (c :: digits, rest)
    else ([], some c :: rest)
  | rest => ([], rest)

theorem takeDigits_length : ∀ s : Rest,
    (takeDigits s).1.length + (takeDigits s).2.length = s.length
  | [] => rfl
  | none :: _ => by simp [takeDigits]
  | some c :: rest => by
    have := takeDigits_length rest
    simp only [takeDigits]
    split
    · simp only [List.length_cons]
      omega
    · simp

theorem takeDigits_length_lt {s rest : Rest} {c : Char} {cs : List Char}
    (h : takeDigits s = (c :: cs, rest)) : rest.length < s.length := by
  have := takeDigits_length s
  simp only [h, List.length_cons] at this
  omega

/-- The fault of finding no digit where one has to be. -/
def noDigit (rest : Rest) : JsonFault :=
  if rest.isEmpty then .unfinished else .malformed

/-- A sign in front, if there is one, and what follows it. -/
def takeSign : Rest → Bool × Rest
  | some '-' :: rest => (true, rest)
  | some '+' :: rest => (false, rest)
  | rest => (false, rest)

/-- The exponent, from behind its letter. -/
def scanExponent (s : Rest) : Except JsonFault (Int × Rest) :=
  match takeDigits (takeSign s).2 with
  | ([], rest) => .error (noDigit rest)
  | (digits, rest) =>
    let e : Int := Nat.ofDigitChars 10 digits 0
    .ok (if (takeSign s).1 then -e else e, rest)

/-- The exponent of a real number, which may be missing. -/
def scanExponentPart : Rest → Except JsonFault (Int × Rest)
  | some 'e' :: rest | some 'E' :: rest => scanExponent rest
  | rest => .ok (0, rest)

/-- The digits behind the point, without the point, and whether there is one. -/
def scanFractionPart : Rest → Except JsonFault (List Char × Rest)
  | some '.' :: rest =>
    match takeDigits rest with
    | ([], rest) => .error (noDigit rest)
    | (fraction, rest) => .ok (fraction, rest)
  | rest => .ok ([], rest)

/-- The digits of a number before its point. A zero in front stands alone. -/
def scanWhole (rest : Rest) : Except JsonFault (List Char × Rest) :=
  match takeDigits rest with
  | ([], rest) => .error (noDigit rest)
  | ('0' :: _ :: _, _) => .error .malformed
  | (whole, rest) => .ok (whole, rest)

/-- Whether a point or an exponent follows. -/
def isRealNext : Rest → Bool
  | some c :: _ => c == '.' || c == 'e' || c == 'E'
  | _ => false

/-- A number, from behind its sign. -/
def scan (negative : Bool) (s : Rest) : Except JsonFault (JsonNumber × Rest) := do
  let (whole, rest) ← scanWhole s
  let (significand, taken) := collect 0 whole
  let left := whole.length - taken
  if left = 0 && !isRealNext rest then .ok (ofWhole negative significand, rest)
  else
    let (fraction, rest) ← scanFractionPart rest
    let (significand, taken) := collect significand fraction
    let (e, rest) ← scanExponentPart rest
    match scale? negative significand (left - taken + e) with
    | some n => .ok (n, rest)
    | none => .error .malformed

theorem takeSign_length_le (s : Rest) : (takeSign s).2.length ≤ s.length := by
  unfold takeSign
  split <;> simp

theorem length_lt_of_scanWhole {s rest : Rest} {whole : List Char}
    (h : scanWhole s = .ok (whole, rest)) : rest.length < s.length := by
  unfold scanWhole at h
  split at h
  · cases h
  · cases h
  · rename_i w r hne _ hw
    cases h
    cases whole with
    | nil => exact (hne rfl).elim
    | cons => exact takeDigits_length_lt hw

theorem length_le_of_scanFractionPart {s rest : Rest} {fraction : List Char}
    (h : scanFractionPart s = .ok (fraction, rest)) : rest.length ≤ s.length := by
  unfold scanFractionPart at h
  split at h
  · rename_i r
    have := takeDigits_length r
    split at h
    · cases h
    · rename_i hw
      cases h
      simp only [hw] at this
      simp only [List.length_cons]
      omega
  · cases h; exact Nat.le_refl _

theorem length_le_of_scanExponentPart {s rest : Rest} {e : Int}
    (h : scanExponentPart s = .ok (e, rest)) : rest.length ≤ s.length := by
  have key : ∀ r : Rest, scanExponent r = .ok (e, rest) → rest.length ≤ r.length := by
    intro r h
    unfold scanExponent at h
    have := takeDigits_length (takeSign r).2
    have := takeSign_length_le r
    split at h
    · cases h
    · rename_i hw
      cases h
      simp only [hw] at *
      omega
  unfold scanExponentPart at h
  split at h
  · exact Nat.le_succ_of_le (key _ h)
  · exact Nat.le_succ_of_le (key _ h)
  · cases h; exact Nat.le_refl _

theorem length_lt_of_scan {negative : Bool} {s rest : Rest} {n : JsonNumber}
    (h : scan negative s = .ok (n, rest)) : rest.length < s.length := by
  unfold scan at h
  cases hw : scanWhole s with
  | error => rw [hw] at h; cases h
  | ok p =>
    have hlt := length_lt_of_scanWhole hw
    rw [hw] at h
    simp only [bind, Except.bind] at h
    split at h
    · cases h; exact hlt
    · split at h
      · cases h
      · rename_i q hf
        have := length_le_of_scanFractionPart hf
        split at h
        · cases h
        · rename_i r he
          have := length_le_of_scanExponentPart he
          split at h
          · cases h; omega
          · cases h

end LinkedSheets.JsonNumber
