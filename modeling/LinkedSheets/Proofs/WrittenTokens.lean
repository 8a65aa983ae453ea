import LinkedSheets.Json.Token
import LinkedSheets.Json.Writer

/-!
# Cutting off what was written

A bracket, a separator or a text in front of other characters is one token, and then come the tokens
of those characters, whatever they are. Blanks and line ends are no tokens.

A text is cut off character by character, and every character is read back from what it is written
as (`JsonToken.next_escapeChar`), so a quote inside never ends it (`JsonToken.tokens_textChars`).
-/

namespace LinkedSheets

open JsonNumber (Rest)

namespace JsonToken

section Text

theorem hexValue?_hexDigit : ∀ n < 16, hexValue? (Json.hexDigit n) = some n := by
  decide

/-- The escape of a control character denotes it. -/
theorem unicodeEscape_control {n : Nat} (h : n < 0x20) (rest : Rest) :
    unicodeEscape (some '0' :: some '0' :: some (Json.hexDigit (n / 16)) ::
      some (Json.hexDigit (n % 16)) :: rest) = .ok (Char.ofNat n, 4) := by
  have hzero : hexValue? '0' = some 0 := rfl
  have hhigh : hexValue? (Json.hexDigit (n / 16)) = some (n / 16) :=
    hexValue?_hexDigit _ (by omega)
  have hlow : hexValue? (Json.hexDigit (n % 16)) = some (n % 16) :=
    hexValue?_hexDigit _ (by omega)
  have hn : n / 16 * 16 + n % 16 = n := by omega
  have hlt : n < 0xD800 := by omega
  simp [unicodeEscape, hexQuad, hzero, hhigh, hlow, hn, hlt, bind, Except.bind]

theorem next_ordinary {c : Char} (hquote : c ≠ '"') (hslash : c ≠ '\\') (hc : ¬ c.toNat < 0x20)
    (rest : Rest) : Piece.next (some c :: rest) = .more (some c) rest := by
  unfold Piece.next
  split <;> simp_all

/-- A character is read back from what it is written as. -/
theorem next_escapeChar (c : Char) (rest : Rest) :
    Piece.next ((Json.escapeChar c).map some ++ rest) = .more (some c) rest := by
  unfold Json.escapeChar
  iterate 7
    split
    · subst_vars
      rfl
  split
  · rename_i h
    simp only [List.map_cons, List.map_nil, List.cons_append, List.nil_append, Piece.next,
      unicodeEscape_control h, Char.ofNat_toNat, List.drop_succ_cons, List.drop_zero]
  · exact next_ordinary ‹_› ‹_› ‹_› rest

theorem scanText_of_more {s rest : Rest} {c : Char} (h : Piece.next s = .more (some c) rest) :
    scanText s = (scanText rest).map fun p => (c :: p.1, p.2) := by
  rw [scanText]
  split
  · rename_i h'
    simp [h] at h'
  · rename_i h'
    simp [h] at h'
  · rename_i c' rest' h'
    obtain ⟨rfl, rfl⟩ : some c = c' ∧ rest = rest' := by simpa [h] using h'
    rcases scanText rest with f | ⟨cs, rest'⟩ <;> rfl

theorem scanText_quote (rest : Rest) : scanText (some '"' :: rest) = .ok ([], rest) := by
  have h : Piece.next (some '"' :: rest) = .finish rest := rfl
  rw [scanText]
  split <;> simp_all

theorem scanText_escaped (rest : Rest) : ∀ cs : List Char,
    scanText ((cs.flatMap Json.escapeChar).map some ++ some '"' :: rest) = .ok (cs, rest)
  | [] => scanText_quote rest
  | c :: cs => by
    rw [List.flatMap_cons, List.map_append, List.append_assoc,
      scanText_of_more (next_escapeChar c _), scanText_escaped rest cs]
    rfl

end Text

section Tokens

theorem tokens_space {c : Char} (h : isSpace c = true) (s : Rest) :
    tokens (some c :: s) = tokens s := by
  rw [tokens, if_pos h]

theorem tokens_punctuation {c : Char} {t : JsonToken} (hspace : isSpace c = false)
    (h : punctuation? c = some t) (s : Rest) : tokens (some c :: s) = t :: tokens s := by
  rw [tokens]
  simp [hspace, h]

@[simp] theorem tokens_openArray (s : Rest) : tokens (some '[' :: s) = openArray :: tokens s :=
  tokens_punctuation rfl rfl s

@[simp] theorem tokens_closeArray (s : Rest) : tokens (some ']' :: s) = closeArray :: tokens s :=
  tokens_punctuation rfl rfl s

@[simp] theorem tokens_openObject (s : Rest) :
    tokens (some '\x7b' :: s) = openObject :: tokens s :=
  tokens_punctuation rfl rfl s

@[simp] theorem tokens_closeObject (s : Rest) :
    tokens (some '\x7d' :: s) = closeObject :: tokens s :=
  tokens_punctuation rfl rfl s

@[simp] theorem tokens_comma (s : Rest) : tokens (some ',' :: s) = comma :: tokens s :=
  tokens_punctuation rfl rfl s

@[simp] theorem tokens_colon (s : Rest) : tokens (some ':' :: s) = colon :: tokens s :=
  tokens_punctuation rfl rfl s

@[simp] theorem tokens_blank (s : Rest) : tokens (some ' ' :: s) = tokens s :=
  tokens_space rfl s

theorem tokens_quote {s rest : Rest} {cs : List Char} (h : scanText s = .ok (cs, rest)) :
    tokens (some '"' :: s) = text (String.ofList cs) :: tokens rest := by
  have hspace : isSpace '"' = false := rfl
  have hnone : punctuation? '"' = none := rfl
  rw [tokens]
  simp only [hspace, hnone, Bool.false_eq_true, if_false, if_true]
  split
  · rename_i cs' rest' h'
    obtain ⟨rfl, rfl⟩ : cs = cs' ∧ rest = rest' := by simpa [h] using h'
    rfl
  · rename_i f h'
    simp [h] at h'

/-- A text is written as one token, whatever comes behind it. -/
@[simp] theorem tokens_textChars (s : String) (rest : Rest) :
    tokens ((Json.textChars s).map some ++ rest) = text s :: tokens rest := by
  have hchars : (Json.textChars s).map some ++ rest
      = some '"' :: ((s.toList.flatMap Json.escapeChar).map some ++ some '"' :: rest) := by
    simp [Json.textChars]
  rw [hchars, tokens_quote (scanText_escaped rest s.toList), String.ofList_toList]

theorem tokens_spaces (rest : Rest) : ∀ n : Nat,
    tokens (List.replicate n (some ' ') ++ rest) = tokens rest
  | 0 => rfl
  | n + 1 => by
    rw [List.replicate_succ, List.cons_append, tokens_blank, tokens_spaces rest n]

/-- Line ends and indentation are no tokens. -/
@[simp] theorem tokens_lineBreak (depth : Nat) (rest : Rest) :
    tokens ((Json.lineBreak depth).map some ++ rest) = tokens rest := by
  rw [Json.lineBreak, List.map_cons, List.map_replicate, List.cons_append, tokens_space rfl,
    tokens_spaces]

end Tokens

end JsonToken

end LinkedSheets
