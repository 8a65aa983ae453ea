import LinkedSheets.Proofs.RowLookup
import LinkedSheets.Resolution.Typed
import LinkedSheets.Schema.Catalog
import Mathlib.Data.Nat.Digits.Defs
import Mathlib.Tactic.Ring

/-!
# Whole numbers in cells

A numeral is an optional sign and at least one digit, with a minus only where there are negative
numbers, and it denotes one number however long it is (`IsNumeral`). A cell is read as a whole
number just when it is a numeral between white space, and then as the number that it denotes, as
long as the range has that number (`readInteger?_eq_some_iff`). Every other text is refused, and the
refusal quotes it with its white space.

Zeros in front change nothing, so every number has numerals of any length (`isNumeral_padded`). A
number outside of the range is refused by the same rule: it never comes out as another one.
-/

namespace LinkedSheets

open Decimal (IntegerRange readInteger? readDigits?)

/-- Digits as they are written. -/
def digitText (digits : List (Fin 10)) : List Char :=
  digits.map fun d => Nat.digitChar d.val

/-- The number that digits denote, the last of which counts ones. -/
def digitValue (digits : List (Fin 10)) : Nat :=
  Nat.ofDigits 10 (digits.reverse.map Fin.val)

/-- The text is a numeral for the number. Without a sign in the range there is no minus. -/
inductive IsNumeral (signed : Bool) : List Char → Int → Prop
  | bare (digits : List (Fin 10)) (h : digits ≠ []) :
      IsNumeral signed (digitText digits) (digitValue digits)
  | plus (digits : List (Fin 10)) (h : digits ≠ []) :
      IsNumeral signed ('+' :: digitText digits) (digitValue digits)
  | minus (digits : List (Fin 10)) (h : digits ≠ []) (hs : signed = true) :
      IsNumeral signed ('-' :: digitText digits) (-digitValue digits)

/-- The range, with both of its ends, has the number. -/
def Decimal.IntegerRange.Has (r : IntegerRange) (n : Int) : Prop :=
  if r.signed then -2 ^ (r.bits - 1) ≤ n ∧ n < 2 ^ (r.bits - 1) else 0 ≤ n ∧ n < 2 ^ r.bits

instance (r : IntegerRange) (n : Int) : Decidable (r.Has n) :=
  inferInstanceAs (Decidable (if r.signed then _ else _))

/-- A number in decimal, with so many zeros in front of its digits. -/
def paddedText (zeros : Nat) (n : Int) : List Char :=
  (if n < 0 then ['-'] else []) ++ (List.replicate zeros '0' ++ Nat.toDigits 10 n.natAbs)

section Digits

theorem digitText_cons (d : Fin 10) (digits : List (Fin 10)) :
    digitText (d :: digits) = Nat.digitChar d.val :: digitText digits :=
  rfl

theorem digitText_eq_nil_iff {digits : List (Fin 10)} : digitText digits = [] ↔ digits = [] :=
  List.map_eq_nil_iff

theorem isDigit_of_mem_digitText {digits : List (Fin 10)} {c : Char} (h : c ∈ digitText digits) :
    c.isDigit := by
  obtain ⟨d, -, rfl⟩ := List.mem_map.1 h
  rw [Nat.isDigit_digitChar]
  exact decide_eq_true d.isLt

theorem digitValue_cons (d : Fin 10) (digits : List (Fin 10)) :
    digitValue (d :: digits) = 10 ^ digits.length * d + digitValue digits := by
  rw [digitValue, List.reverse_cons, List.map_append, Nat.ofDigits_append, Nat.add_comm]
  simp [digitValue]

/-- Going through the digits from the front comes to the number that they denote. -/
theorem ofDigitChars_digitText : ∀ (digits : List (Fin 10)) (n : Nat),
    Nat.ofDigitChars 10 (digitText digits) n = 10 ^ digits.length * n + digitValue digits
  | [], n => by simp [digitText, digitValue]
  | d :: digits, n => by
    rw [digitText_cons, Nat.ofDigitChars_cons_digitChar_of_lt_ten d.isLt,
      ofDigitChars_digitText digits, digitValue_cons, List.length_cons, Nat.pow_succ]
    ring

theorem exists_digitText_of_isDigit : ∀ {cs : List Char}, (∀ c ∈ cs, c.isDigit) →
    ∃ digits, cs = digitText digits
  | [], _ => ⟨[], rfl⟩
  | c :: cs, h => by
    obtain ⟨hc, hcs⟩ := List.forall_mem_cons.1 h
    obtain ⟨digits, rfl⟩ := exists_digitText_of_isDigit hcs
    have hbound : 48 ≤ c.toNat ∧ c.toNat ≤ 57 := by
      simpa [Char.isDigit, UInt32.le_iff_toNat_le] using hc
    refine ⟨⟨c.toNat - 48, by omega⟩ :: digits, ?_⟩
    rw [digitText_cons, List.cons.injEq, ← Char.toNat_inj,
      Nat.toNat_digitChar_of_lt_ten (by omega)]
    exact ⟨by dsimp only; omega, rfl⟩

theorem readDigits?_eq_some_iff {cs : List Char} {n : Nat} :
    readDigits? cs = some n ↔ ∃ digits ≠ [], cs = digitText digits ∧ n = digitValue digits := by
  constructor
  · intro h
    unfold readDigits? at h
    split at h
    · simp at h
    rename_i hcs
    obtain ⟨hne, hdigits⟩ : cs ≠ [] ∧ ∀ c ∈ cs, c.isDigit := by simpa using hcs
    obtain ⟨digits, rfl⟩ := exists_digitText_of_isDigit hdigits
    refine ⟨digits, mt digitText_eq_nil_iff.2 hne, rfl, ?_⟩
    simpa [ofDigitChars_digitText] using h.symm
  · rintro ⟨digits, hne, rfl, rfl⟩
    have hdigits : (digitText digits).all Char.isDigit = true :=
      List.all_eq_true.2 fun c => isDigit_of_mem_digitText
    simp [readDigits?, hdigits, ofDigitChars_digitText, digitText_eq_nil_iff, hne]

end Digits

section Sign

variable {r : IntegerRange} {cs : List Char} {n : Int}

theorem digitText_ne_cons {digits : List (Fin 10)} {c : Char} (hc : ¬ c.isDigit) :
    c :: cs ≠ digitText digits := by
  intro h
  exact hc (isDigit_of_mem_digitText (h ▸ List.mem_cons_self))

theorem map_readDigits?_eq_some_iff {f : Nat → Int} :
    (readDigits? cs).map f = some n ↔
      ∃ digits ≠ [], cs = digitText digits ∧ n = f (digitValue digits) := by
  simp only [Option.map_eq_some_iff, readDigits?_eq_some_iff]
  constructor
  · rintro ⟨m, ⟨digits, hne, rfl, rfl⟩, rfl⟩
    exact ⟨digits, hne, rfl, rfl⟩
  · rintro ⟨digits, hne, rfl, rfl⟩
    exact ⟨_, ⟨digits, hne, rfl, rfl⟩, rfl⟩

theorem isNumeral_plus_iff {signed : Bool} :
    IsNumeral signed ('+' :: cs) n ↔ (readDigits? cs).map Int.ofNat = some n := by
  rw [map_readDigits?_eq_some_iff]
  constructor
  · intro h
    generalize htext : '+' :: cs = text at h
    cases h with
    | bare digits _ => exact absurd htext (digitText_ne_cons (by decide))
    | plus digits hne => exact ⟨digits, hne, (List.cons.inj htext).2, rfl⟩
    | minus digits _ _ => simp at htext
  · rintro ⟨digits, hne, rfl, rfl⟩
    exact .plus digits hne

theorem isNumeral_minus_iff {signed : Bool} :
    IsNumeral signed ('-' :: cs) n ↔
      (if signed then (readDigits? cs).map (-Int.ofNat ·) else none) = some n := by
  constructor
  · intro h
    generalize htext : '-' :: cs = text at h
    cases h with
    | bare digits _ => exact absurd htext (digitText_ne_cons (by decide))
    | plus digits _ => simp at htext
    | minus digits hne hs =>
      rw [if_pos hs, map_readDigits?_eq_some_iff]
      exact ⟨digits, hne, (List.cons.inj htext).2, rfl⟩
  · intro h
    split at h
    · rename_i hs
      obtain ⟨digits, hne, rfl, rfl⟩ := map_readDigits?_eq_some_iff.1 h
      exact .minus digits hne hs
    · simp at h

theorem isNumeral_iff_of_no_sign {signed : Bool} (hplus : ∀ rest, cs ≠ '+' :: rest)
    (hminus : ∀ rest, cs ≠ '-' :: rest) :
    IsNumeral signed cs n ↔ (readDigits? cs).map Int.ofNat = some n := by
  rw [map_readDigits?_eq_some_iff]
  constructor
  · rintro (⟨digits, hne⟩ | _ | _)
    · exact ⟨digits, hne, rfl, rfl⟩
    · exact absurd rfl (hplus _)
    · exact absurd rfl (hminus _)
  · rintro ⟨digits, hne, rfl, rfl⟩
    exact .bare digits hne

theorem holds_iff_has : r.holds n ↔ r.Has n := by
  have htwo : ∀ k, ((Decimal.twoTo k : Nat) : Int) = 2 ^ k := fun k => by
    rw [Decimal.twoTo, Nat.pow_eq]
    exact Nat.cast_pow 2 k
  rw [IntegerRange.holds, Bool.and_eq_true, decide_eq_true_iff, decide_eq_true_iff,
    IntegerRange.least, IntegerRange.greatest, IntegerRange.Has]
  split
  · rw [htwo]
    omega
  · rw [htwo]
    omega

/-- What is read is a numeral, and then the number that it denotes, if the range has it. -/
theorem readInteger?_eq_some_iff :
    readInteger? r cs = some n ↔ IsNumeral r.signed cs n ∧ r.Has n := by
  have hrange : ∀ number : Option Int,
      (number.bind fun m => if r.holds m then some m else none) = some n ↔
        number = some n ∧ r.Has n := by
    intro number
    rw [← holds_iff_has]
    rcases number with _ | m
    · simp
    rw [Option.bind_some]
    split
    · rename_i hm
      refine ⟨fun h => ⟨h, ?_⟩, And.left⟩
      exact Option.some.inj h ▸ hm
    · rename_i hm
      refine iff_of_false nofun ?_
      rintro ⟨h, hn⟩
      exact hm (Option.some.inj h ▸ hn)
  unfold readInteger?
  simp only [Option.bind_eq_bind]
  split
  · rw [hrange, isNumeral_plus_iff]
  · rw [isNumeral_minus_iff]
    split <;> exact hrange _
  · rename_i hplus hminus
    rw [hrange, isNumeral_iff_of_no_sign hplus hminus]

theorem IsNumeral.unique {signed : Bool} {m : Int} (hn : IsNumeral signed cs n)
    (hm : IsNumeral signed cs m) : n = m := by
  by_cases hplus : ∃ rest, cs = '+' :: rest
  · obtain ⟨rest, rfl⟩ := hplus
    rw [isNumeral_plus_iff] at hn hm
    exact Option.some.inj (hn.symm.trans hm)
  by_cases hminus : ∃ rest, cs = '-' :: rest
  · obtain ⟨rest, rfl⟩ := hminus
    rw [isNumeral_minus_iff] at hn hm
    exact Option.some.inj (hn.symm.trans hm)
  · rw [isNumeral_iff_of_no_sign (not_exists.1 hplus) (not_exists.1 hminus)] at hn hm
    exact Option.some.inj (hn.symm.trans hm)

end Sign

section Padded

variable {signed : Bool} {n : Int} (zeros : Nat)

theorem isDigit_of_mem_toDigits {n : Nat} {c : Char} (h : c ∈ Nat.toDigits 10 n) : c.isDigit :=
  Nat.isDigit_of_mem_toDigits (by decide) (by decide) h

theorem readDigits?_padded (n : Nat) :
    readDigits? (List.replicate zeros '0' ++ Nat.toDigits 10 n) = some n := by
  have hdigits : (List.replicate zeros '0' ++ Nat.toDigits 10 n).all Char.isDigit = true := by
    refine List.all_eq_true.2 fun c hc => ?_
    rcases List.mem_append.1 hc with hc | hc
    · rw [List.eq_of_mem_replicate hc]
      decide
    · exact isDigit_of_mem_toDigits hc
  have hvalue : Nat.ofDigitChars 10 (List.replicate zeros '0' ++ Nat.toDigits 10 n) 0 = n := by
    rw [Nat.ofDigitChars_append, Nat.ofDigitChars_replicate_zero, Nat.mul_zero]
    exact Nat.ofDigitChars_toDigits (by decide) (by decide)
  simp [readDigits?, hdigits, hvalue]

theorem paddedText_of_neg (h : n < 0) :
    paddedText zeros n = '-' :: (List.replicate zeros '0' ++ Nat.toDigits 10 n.natAbs) := by
  simp [paddedText, h]

theorem paddedText_of_nonneg (h : 0 ≤ n) :
    paddedText zeros n = List.replicate zeros '0' ++ Nat.toDigits 10 n.natAbs := by
  simp [paddedText, Int.not_lt.2 h]

/-- Zeros in front do not change what is denoted. Where there are no negative numbers, the text of
one is no numeral. -/
theorem isNumeral_padded {m : Int} :
    IsNumeral signed (paddedText zeros n) m ↔ m = n ∧ (n < 0 → signed = true) := by
  have hnumeral : (n < 0 → signed = true) → IsNumeral signed (paddedText zeros n) n := by
    intro hs
    rcases Int.lt_or_le n 0 with hn | hn
    · rw [paddedText_of_neg zeros hn, isNumeral_minus_iff, if_pos (hs hn), readDigits?_padded]
      have hneg : -Int.ofNat n.natAbs = n := by
        rw [Int.ofNat_eq_natCast]
        omega
      exact congrArg some hneg
    · obtain ⟨digits, hne, hdigits, hvalue⟩ :=
        readDigits?_eq_some_iff.1 (readDigits?_padded zeros n.natAbs)
      have habs : (n.natAbs : Int) = n := Int.natAbs_of_nonneg hn
      rw [paddedText_of_nonneg zeros hn, hdigits, ← habs, hvalue]
      exact .bare digits hne
  constructor
  · intro h
    have hs : n < 0 → signed = true := by
      intro hn
      rw [paddedText_of_neg zeros hn, isNumeral_minus_iff] at h
      by_contra hs
      simp [hs] at h
    exact ⟨h.unique (hnumeral hs), hs⟩
  · rintro ⟨rfl, hs⟩
    exact hnumeral hs

theorem signed_of_has {r : IntegerRange} (h : r.Has n) :
    n < 0 → r.signed = true := by
  intro hn
  by_contra hs
  rw [IntegerRange.Has, if_neg hs] at h
  omega

end Padded

section White

open Text (IsWhite)

theorem not_isWhite_of_isDigit {c : Char} (h : c.isDigit) : ¬ IsWhite c := by
  have hc : 48 ≤ c.toNat ∧ c.toNat ≤ 57 := by simpa [Char.isDigit, UInt32.le_iff_toNat_le] using h
  simp only [IsWhite, Text.whiteSpace, List.mem_cons, List.not_mem_nil, or_false]
  omega

theorem IsNumeral.not_isWhite {signed : Bool} {cs : List Char} {n : Int}
    (h : IsNumeral signed cs n) : ∀ c ∈ cs, ¬ IsWhite c := by
  have hdigit : ∀ digits, ∀ c ∈ digitText digits, ¬ IsWhite c := fun digits c hc =>
    not_isWhite_of_isDigit (isDigit_of_mem_digitText hc)
  cases h with
  | bare digits _ => exact hdigit digits
  | plus digits _ => exact List.forall_mem_cons.2 ⟨mt Text.isBlank_iff.2 (by decide), hdigit digits⟩
  | minus digits _ _ =>
    exact List.forall_mem_cons.2 ⟨mt Text.isBlank_iff.2 (by decide), hdigit digits⟩

/-- White space around a numeral is all that trimming takes away. -/
theorem trim_padded {before after : List Char} (h : ∀ c ∈ before ++ after, IsWhite c)
    (zeros : Nat) (n : Int) :
    Text.trim (String.ofList (before ++ paddedText zeros n ++ after))
      = String.ofList (paddedText zeros n) := by
  have hnumeral : IsNumeral true (paddedText zeros n) n := (isNumeral_padded zeros).2 ⟨rfl, by simp⟩
  refine Text.trim_eq_iff.2 ⟨before, after, by simp, h, ?_, ?_⟩
  · intro c hc
    rw [String.toList_ofList] at hc
    exact hnumeral.not_isWhite c (List.mem_of_mem_head? hc)
  · intro c hc
    rw [String.toList_ofList] at hc
    exact hnumeral.not_isWhite c (List.mem_of_mem_getLast? hc)

end White

/-- The integer types that numbers are read for, by their names. -/
def Catalog.integerTypes : List (String × IntegerRange) :=
  [("i8", ⟨true, 8⟩), ("i16", ⟨true, 16⟩), ("i32", ⟨true, 32⟩), ("i64", ⟨true, 64⟩),
    ("u8", ⟨false, 8⟩), ("u16", ⟨false, 16⟩), ("u32", ⟨false, 32⟩), ("u64", ⟨false, 64⟩)]

theorem Catalog.named?_integerTypes : ∀ type ∈ integerTypes,
    named? type.1 = some (.leaf (.integer type.2)) ∧ Leaf.integerName type.2 = type.1 := by
  intro type h
  simp only [integerTypes, List.mem_cons, List.not_mem_nil, or_false] at h
  rcases h with rfl | rfl | rfl | rfl | rfl | rfl | rfl | rfl <;> exact ⟨rfl, by decide⟩

namespace Value

variable {r : IntegerRange}

theorem decode_integer (r : IntegerRange) (text : String) :
    (scalar text).decode (.leaf (.integer r)) = Leaf.parsed (Leaf.integerName r) text
      ((readInteger? r (Text.trim text).toList).map .integer) :=
  rfl

theorem decode_integer_eq_ok_iff {text : String} {d : Datum} :
    (scalar text).decode (.leaf (.integer r)) = .ok d ↔
      ∃ n, d = .integer n ∧ IsNumeral r.signed (Text.trim text).toList n ∧ r.Has n := by
  simp only [← readInteger?_eq_some_iff]
  rw [decode_integer]
  rcases readInteger? r (Text.trim text).toList with _ | n
  · simp [Leaf.parsed]
  · simp [Leaf.parsed, eq_comm]

theorem decode_integer_of_forall_not_has {text : String}
    (h : ∀ n, IsNumeral r.signed (Text.trim text).toList n → ¬ r.Has n) :
    (scalar text).decode (.leaf (.integer r))
      = .error (.invalidValue (.text text) (Leaf.integerName r)) := by
  have hnone : readInteger? r (Text.trim text).toList = none :=
    Option.eq_none_iff_forall_ne_some.2 fun n hn =>
      h n (readInteger?_eq_some_iff.1 hn).1 (readInteger?_eq_some_iff.1 hn).2
  rw [decode_integer, hnone]
  rfl

section Padded

variable {before after : List Char} (hwhite : ∀ c ∈ before ++ after, Text.IsWhite c)
  (zeros : Nat) {n : Int}
include hwhite

theorem decode_padded_of_has (h : r.Has n) :
    (scalar (String.ofList (before ++ paddedText zeros n ++ after))).decode (.leaf (.integer r))
      = .ok (.integer n) := by
  rw [decode_integer_eq_ok_iff, trim_padded hwhite, String.toList_ofList]
  exact ⟨n, rfl, (isNumeral_padded zeros).2 ⟨rfl, signed_of_has h⟩, h⟩

theorem decode_padded_of_not_has (h : ¬ r.Has n) :
    (scalar (String.ofList (before ++ paddedText zeros n ++ after))).decode (.leaf (.integer r))
      = .error (.invalidValue (.text (String.ofList (before ++ paddedText zeros n ++ after)))
        (Leaf.integerName r)) := by
  refine decode_integer_of_forall_not_has fun m hm => ?_
  rw [trim_padded hwhite, String.toList_ofList, isNumeral_padded] at hm
  exact hm.1 ▸ h

end Padded

/-- A cell is read as a whole number when it is a numeral between white space and the range of the
type has the number; every other text is refused, and quoted as it stands. So a number is read with
any number of zeros in front of it, and one that is outside of the range is not read as another. -/
theorem decode_integer_exact :
    (∀ type ∈ Catalog.integerTypes, Catalog.named? type.1 = some (.leaf (.integer type.2))
        ∧ Leaf.integerName type.2 = type.1)
      ∧ ∀ r : IntegerRange,
        (∀ text d, (scalar text).decode (.leaf (.integer r)) = .ok d ↔
            ∃ n, d = .integer n ∧ IsNumeral r.signed (Text.trim text).toList n ∧ r.Has n)
          ∧ (∀ text, (∀ n, IsNumeral r.signed (Text.trim text).toList n → ¬ r.Has n) →
            ∃ failure, (scalar text).decode (.leaf (.integer r)) = .error failure
              ∧ failure = .invalidValue (.text text) (Leaf.integerName r)
              ∧ failure.message = "invalid value: string " ++ Text.quoted text ++ ", expected "
                ++ Leaf.integerName r)
          ∧ ∀ before after : List Char, (∀ c ∈ before ++ after, Text.IsWhite c) →
            ∀ (zeros : Nat) (n : Int) (text : String),
              text = String.ofList (before ++ paddedText zeros n ++ after) →
                (r.Has n → (scalar text).decode (.leaf (.integer r)) = .ok (.integer n))
                  ∧ (¬ r.Has n → (scalar text).decode (.leaf (.integer r))
                    = .error (.invalidValue (.text text) (Leaf.integerName r))) := by
  refine ⟨Catalog.named?_integerTypes, fun r => ⟨fun text d => decode_integer_eq_ok_iff,
    fun text h => ⟨_, decode_integer_of_forall_not_has h, rfl, rfl⟩, ?_⟩⟩
  rintro before after hwhite zeros n _ rfl
  exact ⟨decode_padded_of_has hwhite zeros, decode_padded_of_not_has hwhite zeros⟩

/-- The least number of eight bits with a zero in front, and the first one that is too great. -/
theorem decode_integer_exact_byte :
    ("i8", ⟨true, 8⟩) ∈ Catalog.integerTypes
      ∧ Catalog.named? "i8" = some (.leaf (.integer ⟨true, 8⟩))
      ∧ (∀ c ∈ ['\t'] ++ ['\u3000'], Text.IsWhite c)
      ∧ (⟨true, 8⟩ : IntegerRange).Has (-128) ∧ ¬ (⟨true, 8⟩ : IntegerRange).Has 128
      ∧ (scalar "\t-0128\u3000").decode (.leaf (.integer ⟨true, 8⟩)) = .ok (.integer (-128))
      ∧ (scalar "\t0128\u3000").decode (.leaf (.integer ⟨true, 8⟩))
        = .error (.invalidValue (.text "\t0128\u3000") "i8") := by
  have htype : ("i8", ⟨true, 8⟩) ∈ Catalog.integerTypes := List.mem_cons_self
  have hall : (['\t'] ++ ['\u3000']).all Text.isBlank = true := by decide
  have hwhite : ∀ c ∈ ['\t'] ++ ['\u3000'], Text.IsWhite c := fun c hc =>
    Text.isBlank_iff.1 (List.all_eq_true.1 hall c hc)
  have hleast : (⟨true, 8⟩ : IntegerRange).Has (-128) := by decide
  have hgreat : ¬ (⟨true, 8⟩ : IntegerRange).Has 128 := by decide
  obtain ⟨htypes, hread⟩ := decode_integer_exact
  obtain ⟨-, -, hpadded⟩ := hread ⟨true, 8⟩
  exact ⟨htype, (htypes _ htype).1, hwhite, hleast, hgreat,
    (hpadded _ _ hwhite 1 (-128) "\t-0128\u3000" (by decide)).1 hleast,
    (hpadded _ _ hwhite 1 128 "\t0128\u3000" (by decide)).2 hgreat⟩

end Value

end LinkedSheets
