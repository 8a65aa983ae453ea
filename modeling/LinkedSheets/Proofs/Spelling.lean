import LinkedSheets.Proofs.Numeral
import LinkedSheets.Proofs.ReadTokens
import LinkedSheets.Proofs.Utf8Text
import Mathlib.Data.List.Chain

/-!
# How documents are spelled

The tokens of a document can be spelled in several ways and have any blanks between them. Characters
spell a token if they are cut off as that token wherever they stand (`JsonToken.Spells`). Only
behind a literal there must be nothing that a number could go on with, and where a document has a
literal there is a comma or a closing bracket behind it (`Json.isChain_tokens`). So a document that
is written in any such way is read as what it is (`Json.WrittenAs.readOutlined`).

Words are spelled as they are, and a whole number of 64 bits in decimal
(`JsonToken.spells_integer`): all its digits are taken, and there is no zero in front of them.
-/

namespace LinkedSheets

open JsonNumber (Rest)

namespace JsonNumber

/-- The characters that a number can go on with behind a digit. -/
def isNumberChar (c : Char) : Bool :=
  c.isDigit || c == '.' || c == 'e' || c == 'E'

/-- Whether a number that ends here would go on with what is left. -/
def goesOn : Rest → Bool
  | some c :: _ => isNumberChar c
  | _ => false

variable {rest : Rest}

theorem takeDigits_append {digits : List Char} (hdigits : ∀ c ∈ digits, c.isDigit)
    (hrest : goesOn rest = false) : takeDigits (digits.map some ++ rest) = (digits, rest) := by
  induction digits with
  | nil =>
    rcases rest with _ | ⟨_ | c, rest⟩
    · rfl
    · rfl
    · have hc : c.isDigit = false := by
        simp only [goesOn, isNumberChar, Bool.or_eq_false_iff] at hrest
        exact hrest.1.1.1
      simp [takeDigits, hc]
  | cons c digits ih =>
    obtain ⟨hc, hdigits⟩ := List.forall_mem_cons.1 hdigits
    rw [List.map_cons, List.cons_append, takeDigits, if_pos hc, ih hdigits]

theorem isRealNext_eq_false (hrest : goesOn rest = false) : isRealNext rest = false := by
  rcases rest with _ | ⟨_ | c, rest⟩
  · rfl
  · rfl
  · simp only [goesOn, isNumberChar, Bool.or_eq_false_iff] at hrest
    simp [isRealNext, hrest]

theorem le_ofDigitChars (cs : List Char) (n : Nat) : n ≤ Nat.ofDigitChars 10 cs n := by
  induction cs generalizing n with
  | nil => simp
  | cons c cs ih =>
    rw [Nat.ofDigitChars_cons]
    exact le_trans (by omega) (ih _)

/-- Digits whose number is within the limit are all taken. -/
theorem collect_eq {digits : List Char} {n : Nat} (h : Nat.ofDigitChars 10 digits n ≤ limit) :
    collect n digits = (Nat.ofDigitChars 10 digits n, digits.length) := by
  induction digits generalizing n with
  | nil => simp [collect]
  | cons c digits ih =>
    rw [Nat.ofDigitChars_cons, Nat.mul_comm] at h
    have hle := (le_ofDigitChars digits (n * 10 + (c.toNat - '0'.toNat))).trans h
    rw [collect, if_neg (Nat.not_lt.2 hle), ih h, Nat.ofDigitChars_cons, Nat.mul_comm 10]
    rfl

theorem exists_toDigits_eq_cons (n : Nat) : ∃ c cs, Nat.toDigits 10 n = c :: cs :=
  List.exists_cons_of_ne_nil Nat.toDigits_ne_nil

theorem head?_toDigits_ne_zero {n : Nat} (hn : 0 < n) : (Nat.toDigits 10 n).head? ≠ some '0' := by
  have hdigit : ∀ d < 10, 0 < d → Nat.digitChar d ≠ '0' := by decide
  induction n using Nat.strong_induction_on with
  | h n ih =>
    rcases Nat.lt_or_ge n 10 with hlt | hge
    · simpa [Nat.toDigits_of_lt_base hlt] using hdigit n hlt hn
    · have hhead := ih (n / 10) (by omega) (by omega)
      obtain ⟨c, cs, hcs⟩ := exists_toDigits_eq_cons (n / 10)
      rw [hcs] at hhead
      rw [Nat.toDigits_of_base_le (by decide) hge, hcs]
      exact hhead

/-- A number in decimal digits begins with a zero only if it is zero. -/
theorem scanWhole_toDigits (n : Nat) (hrest : goesOn rest = false) :
    scanWhole ((Nat.toDigits 10 n).map some ++ rest) = .ok (Nat.toDigits 10 n, rest) := by
  have htake := takeDigits_append (fun c => isDigit_of_mem_toDigits (n := n)) hrest
  rw [scanWhole, htake]
  rcases Nat.eq_zero_or_pos n with rfl | hn
  · rfl
  · have hhead := head?_toDigits_ne_zero hn
    have hne := Nat.toDigits_ne_nil (n := n) (b := 10)
    split
    · simp_all
    · simp_all
    · rename_i h
      exact congrArg _ h.symm

theorem scan_toDigits (negative : Bool) {n : Nat} (hn : n ≤ limit) (hrest : goesOn rest = false) :
    scan negative ((Nat.toDigits 10 n).map some ++ rest) = .ok (ofWhole negative n, rest) := by
  have hvalue : Nat.ofDigitChars 10 (Nat.toDigits 10 n) 0 = n :=
    Nat.ofDigitChars_toDigits (by decide) (by decide)
  have hcollect : collect 0 (Nat.toDigits 10 n) = (n, (Nat.toDigits 10 n).length) := by
    rw [collect_eq (by rwa [hvalue]), hvalue]
  rw [scan, scanWhole_toDigits n hrest, ok_bind]
  simp [hcollect, isRealNext_eq_false hrest]

end JsonNumber

namespace JsonToken

/-- Some characters are a token wherever they stand, if it is a literal wherever nothing goes on
with it. -/
def Spells (cs : List Char) (t : JsonToken) : Prop :=
  ∀ rest, (t.IsPlain ∨ JsonNumber.goesOn rest = false) →
    tokens (cs.map some ++ rest) = t :: tokens rest

section Literals

variable {rest : Rest}

theorem tokens_of_scanLiteral {c : Char} {s : Rest} {value : Json} (hspace : isSpace c = false)
    (hpunctuation : punctuation? c = none) (hquote : c ≠ '"')
    (h : scanLiteral c s = .ok (value, rest)) :
    tokens (some c :: s) = literal value :: tokens rest := by
  rw [tokens]
  simp only [hspace, hpunctuation, Bool.false_eq_true, if_false, if_neg hquote]
  split
  · rename_i h'
    obtain ⟨rfl, rfl⟩ : value = _ ∧ rest = _ := by simpa [h] using h'
    rfl
  · rename_i h'
    simp [h] at h'

theorem spells_null : Spells ['n', 'u', 'l', 'l'] (literal .null) :=
  fun _ _ => tokens_of_scanLiteral rfl rfl (by decide) rfl

theorem spells_boolean (b : Bool) :
    Spells (Json.scalarChars (.boolean b)) (literal (.boolean b)) := by
  cases b <;> exact fun _ _ => tokens_of_scanLiteral rfl rfl (by decide) rfl

theorem ne_of_isNumberChar {c d : Char} (hc : JsonNumber.isNumberChar c)
    (hd : JsonNumber.isNumberChar d = false) : c ≠ d := by
  rintro rfl
  simp [hd] at hc

/-- Characters of numbers are no blanks and no brackets, and do not begin a text. -/
theorem of_isNumberChar {c : Char} (hc : JsonNumber.isNumberChar c) :
    isSpace c = false ∧ punctuation? c = none ∧ c ≠ '"' := by
  refine ⟨?_, ?_, ne_of_isNumberChar hc rfl⟩
  · simp [isSpace, ne_of_isNumberChar hc, JsonNumber.isNumberChar]
  · unfold punctuation?
    split <;> first | rfl | simp [JsonNumber.isNumberChar] at hc

/-- A digit begins a number. -/
theorem tokens_of_isDigit {c : Char} {s : Rest} {n : JsonNumber} (hc : c.isDigit)
    (h : JsonNumber.scan false (some c :: s) = .ok (n, rest)) :
    tokens (some c :: s) = literal (.number n) :: tokens rest := by
  have hnumber : JsonNumber.isNumberChar c := by simp [JsonNumber.isNumberChar, hc]
  obtain ⟨hspace, hpunctuation, hquote⟩ := of_isNumberChar hnumber
  have hne {d : Char} (hd : d.isDigit = false) : c ≠ d := by
    rintro rfl
    simp [hd] at hc
  refine tokens_of_scanLiteral hspace hpunctuation hquote ?_
  simp [scanLiteral, hne, hc, h, Except.map]

theorem numberText_of_nonneg (n : Nat) : Json.numberText (.integer n) = Nat.toDigits 10 n := by
  simp [Json.numberText, Int.not_lt.2 (Int.natCast_nonneg n)]

theorem numberText_of_neg (n : Nat) :
    Json.numberText (.integer (Int.negSucc n)) = '-' :: Nat.toDigits 10 (n + 1) := by
  simp [Json.numberText, Int.negSucc_lt_zero]

theorem numberText_integer (n : Int) : Json.numberText (.integer n) = (toString n).toList := by
  rw [Int.toString_eq_repr]
  cases n with
  | ofNat n =>
    rw [Int.ofNat_eq_natCast, numberText_of_nonneg]
    exact Nat.toList_repr.symm
  | negSucc n =>
    rw [numberText_of_neg, Int.repr]
    simp

/-- A whole number of 64 bits is spelled in decimal. -/
theorem spells_integer {n : Int} (hlow : -2 ^ 63 ≤ n) (hhigh : n < 2 ^ 64) :
    Spells (toString n).toList (literal (.number (.integer n))) := by
  intro rest hrest
  replace hrest := hrest.resolve_left id
  rw [← numberText_integer]
  cases n with
  | ofNat n =>
    have hlimit : JsonNumber.limit = 2 ^ 64 - 1 := rfl
    have hlt : (n : Int) < 2 ^ 64 := hhigh
    have hscan := JsonNumber.scan_toDigits false (n := n) (by omega) hrest
    rw [Int.ofNat_eq_natCast, numberText_of_nonneg]
    obtain ⟨c, cs, hcs⟩ := JsonNumber.exists_toDigits_eq_cons n
    rw [hcs, List.map_cons, List.cons_append] at hscan ⊢
    exact tokens_of_isDigit (isDigit_of_mem_toDigits (hcs ▸ List.mem_cons_self)) hscan
  | negSucc n =>
    have hn : n + 1 ≤ 2 ^ 63 := by omega
    have hscan := JsonNumber.scan_toDigits true (hn.trans (by decide)) hrest
    have hwhole : JsonNumber.ofWhole true (n + 1) = .integer (Int.negSucc n) := by
      rw [JsonNumber.ofWhole, if_neg (by decide), if_pos ⟨Nat.le_add_left 1 n, hn⟩]
      rfl
    rw [numberText_of_neg, List.map_cons, List.cons_append]
    refine tokens_of_scanLiteral rfl rfl (by decide) ?_
    rw [← hwhole]
    simp [scanLiteral, hscan, Except.map]

end Literals

section Layout

/-- Where a number would go on there is no plain token in front. -/
theorem not_isPlain_of_goesOn {s : Rest} (h : JsonNumber.goesOn s = true) :
    ∃ t ts, tokens s = t :: ts ∧ ¬ t.IsPlain := by
  rcases s with _ | ⟨_ | c, s⟩
  · cases h
  · cases h
  · obtain ⟨hspace, hpunctuation, hquote⟩ := of_isNumberChar h
    rw [tokens]
    simp only [hspace, hpunctuation, Bool.false_eq_true, if_false, if_neg hquote]
    split <;> exact ⟨_, _, rfl, id⟩

theorem spells_spelling {t : JsonToken} (h : t.IsPlain) : Spells t.spelling t :=
  fun rest _ => tokens_spelling h rest

/-- A token in a text, with the blanks in front of it. -/
structure Spelled where
  blanks : List Char
  chars : List Char
  token : JsonToken
  isSpace_of_mem : ∀ c ∈ blanks, isSpace c
  spells : Spells chars token

def layout (pieces : List Spelled) : List Char :=
  pieces.flatMap fun piece => piece.blanks ++ piece.chars

theorem tokens_blanks {blanks : List Char} (h : ∀ c ∈ blanks, isSpace c) (s : Rest) :
    tokens (blanks.map some ++ s) = tokens s := by
  induction blanks with
  | nil => rfl
  | cons c blanks ih =>
    obtain ⟨hc, hblanks⟩ := List.forall_mem_cons.1 h
    rw [List.map_cons, List.cons_append, tokens_space hc, ih hblanks]

/-- Of two tokens one behind the other, one is no literal. -/
def Apart (t u : JsonToken) : Prop :=
  t.IsPlain ∨ u.IsPlain

/-- Pieces are cut apart again if no literal stands behind another one. -/
theorem tokens_layout {pieces : List Spelled} {after : List Char} (hafter : ∀ c ∈ after, isSpace c)
    (h : (pieces.map (·.token)).IsChain Apart) :
    tokens ((layout pieces ++ after).map some) = pieces.map (·.token) := by
  induction pieces with
  | nil => simpa [layout, tokens] using tokens_blanks hafter []
  | cons piece pieces ih =>
    obtain ⟨hhead, htail⟩ := List.isChain_cons.1 h
    have hrest := ih htail
    have hnext : piece.token.IsPlain
        ∨ JsonNumber.goesOn ((layout pieces ++ after).map some) = false := by
      by_contra hnot
      obtain ⟨hplain, hgoes⟩ := not_or.1 hnot
      obtain ⟨t, ts, ht, htplain⟩ := not_isPlain_of_goesOn ((Bool.not_eq_false _).mp hgoes)
      rw [hrest] at ht
      exact htplain ((hhead t (by simp [ht])).resolve_left hplain)
    have hchars : (layout (piece :: pieces) ++ after).map some = piece.blanks.map some
        ++ (piece.chars.map some ++ (layout pieces ++ after).map some) := by simp [layout]
    calc tokens ((layout (piece :: pieces) ++ after).map some)
        = tokens (piece.blanks.map some
            ++ (piece.chars.map some ++ (layout pieces ++ after).map some)) := by rw [hchars]
      _ = piece.token :: tokens ((layout pieces ++ after).map some) := by
        rw [tokens_blanks piece.isSpace_of_mem, piece.spells _ hnext]
      _ = (piece :: pieces).map (·.token) := by rw [hrest, List.map_cons]

theorem isChain_cons_of_isPlain {t : JsonToken} {ts : List JsonToken} (h : ts.IsChain Apart)
    (ht : t.IsPlain) : (t :: ts).IsChain Apart :=
  List.isChain_cons.2 ⟨fun _ _ => .inl ht, h⟩

theorem isChain_append_of_isPlain {ts us : List JsonToken} (hts : ts.IsChain Apart)
    (hus : us.IsChain Apart) (hhead : ∀ u ∈ us.head?, u.IsPlain) : (ts ++ us).IsChain Apart :=
  List.isChain_append.2 ⟨hts, hus, fun _ _ u hu => .inr (hhead u hu)⟩

end Layout

end JsonToken

namespace Json

open JsonToken (Apart Spells Spelled layout isChain_cons_of_isPlain isChain_append_of_isPlain)

theorem isPlain_of_mem_head?_itemTokens (items : List Json) :
    ∀ t ∈ (itemTokens items).head?, t.IsPlain := by
  cases items <;> simp [itemTokens, JsonToken.IsPlain]

theorem isPlain_of_mem_head?_memberTokens (members : List (String × Json)) :
    ∀ t ∈ (memberTokens members).head?, t.IsPlain := by
  rcases members with _ | ⟨⟨name, value⟩, members⟩ <;> simp [memberTokens, JsonToken.IsPlain]

mutual

/-- Behind a literal comes a comma or a closing bracket. -/
theorem isChain_tokens : ∀ j : Json, j.tokens.IsChain Apart
  | null | boolean _ | number _ | text _ => .singleton _
  | array [] | object [] => isChain_cons_of_isPlain (.singleton _) trivial
  | array (item :: items) => by
    rw [tokens]
    exact isChain_cons_of_isPlain (isChain_append_of_isPlain (isChain_tokens item)
      (isChain_itemTokens items) (isPlain_of_mem_head?_itemTokens items)) trivial
  | object ((name, value) :: members) => by
    have hbehind := isChain_append_of_isPlain (isChain_tokens value) (isChain_memberTokens members)
      (isPlain_of_mem_head?_memberTokens members)
    exact isChain_cons_of_isPlain
      (isChain_cons_of_isPlain (isChain_cons_of_isPlain hbehind trivial) trivial) trivial

theorem isChain_itemTokens : ∀ items : List Json, (itemTokens items).IsChain Apart
  | [] => .singleton _
  | item :: items => by
    rw [itemTokens]
    exact isChain_cons_of_isPlain (isChain_append_of_isPlain (isChain_tokens item)
      (isChain_itemTokens items) (isPlain_of_mem_head?_itemTokens items)) trivial

theorem isChain_memberTokens : ∀ members : List (String × Json),
    (memberTokens members).IsChain Apart
  | [] => .singleton _
  | (name, value) :: members => by
    have hbehind := isChain_append_of_isPlain (isChain_tokens value) (isChain_memberTokens members)
      (isPlain_of_mem_head?_memberTokens members)
    exact isChain_cons_of_isPlain
      (isChain_cons_of_isPlain (isChain_cons_of_isPlain hbehind trivial) trivial) trivial

end

/-- The bytes are a text of the value: its tokens in their order, each spelled in some way, with any
blanks between them. -/
def WrittenAs (j : Json) (bytes : List UInt8) : Prop :=
  ∃ (pieces : List Spelled) (after : List Char), (∀ c ∈ after, JsonToken.isSpace c)
    ∧ pieces.map (·.token) = j.tokens
    ∧ bytes = (String.ofList (layout pieces ++ after)).toUTF8.toList

theorem WrittenAs.tokens_decode {j : Json} {bytes : List UInt8} (h : j.WrittenAs bytes) :
    JsonToken.tokens (Text.decode bytes) = j.tokens := by
  obtain ⟨pieces, after, hafter, htokens, rfl⟩ := h
  rw [Text.decode_toUTF8, String.toList_ofList, ← htokens]
  exact JsonToken.tokens_layout hafter (htokens ▸ isChain_tokens j)

/-- A text is read as the value that it is a text of, if there is room for the brackets. -/
theorem WrittenAs.readOutlined {j : Json} {bytes : List UInt8} (h : j.WrittenAs bytes)
    {outline : Outline} (hfits : j.Fits outline 0) :
    readOutlined outline (Text.decode bytes) = .ok j :=
  readOutlined_eq_ok_iff.2 ⟨h.tokens_decode, hfits⟩

theorem writtenAs_compact {j : Json} (h : ∀ t ∈ j.tokens, Spells t.spelling t) :
    j.WrittenAs j.compact.toUTF8.toList := by
  refine ⟨j.tokens.attach.map fun t => ⟨[], t.1.spelling, t.1, by simp, h t.1 t.2⟩, [], by simp,
    by simp, ?_⟩
  rw [compact, compactChars_eq_flatMap_spelling]
  simp [layout, List.flatMap_map]

end Json

end LinkedSheets
