import LinkedSheets.Proofs.WrittenTokens
import LinkedSheets.Value

/-!
# The layouts of a text

A value is written as its tokens, `Json.tokens`. The compact text has them spelled one behind the
other, with nothing in between (`Json.compactChars_eq_flatMap_spelling`). Where it is written in
lines, the tokens tell where a line ends and how deep the next one begins, whatever values they
belong to (`Json.prettyChars_eq_inLines`). A character is spelled by a table: those before the blank
have a letter each, and the letter `u` needs the number behind it.

Brackets, separators and texts are cut off again as they were spelled, so both texts of a value that
has no other scalars are cut into its tokens (`JsonToken.tokens_flatMap_spelling`,
`JsonToken.tokens_inLines`).
-/

namespace LinkedSheets

open JsonNumber (Rest)

namespace Json

mutual

/-- The tokens that a value is written with. -/
def tokens : Json → List JsonToken
  | array [] => [.openArray, .closeArray]
  | array (item :: items) => .openArray :: tokens item ++ itemTokens items
  | object [] => [.openObject, .closeObject]
  | object ((name, value) :: members) =>
    .openObject :: .text name :: .colon :: tokens value ++ memberTokens members
  | text s => [.text s]
  | scalar => [.literal scalar]

/-- The items behind the first one, and the closing bracket. -/
def itemTokens : List Json → List JsonToken
  | [] => [.closeArray]
  | item :: items => .comma :: tokens item ++ itemTokens items

/-- The members behind the first one, and the closing bracket. -/
def memberTokens : List (String × Json) → List JsonToken
  | [] => [.closeObject]
  | (name, value) :: members =>
    .comma :: .text name :: .colon :: tokens value ++ memberTokens members

end

end Json

namespace JsonToken

section Spelling

/-- The letters behind the backslash for the characters before the blank, by their numbers. -/
def escapeLetters : List Char :=
  "uuuuuuuubtnufruuuuuuuuuuuuuuuuuu".toList

/-- A character as texts spell it. -/
def spellChar (c : Char) : List Char :=
  if c = '"' ∨ c = '\\' then ['\\', c]
  else match escapeLetters[c.toNat]? with
    | none => [c]
    | some 'u' =>
      ['\\', 'u', '0', '0', Json.hexDigit (c.toNat / 16), Json.hexDigit (c.toNat % 16)]
    | some letter => ['\\', letter]

def spellText (s : String) : List Char :=
  '"' :: s.toList.flatMap spellChar ++ ['"']

/-- A token as it is written anywhere. -/
def spelling : JsonToken → List Char
  | openArray => ['[']
  | closeArray => [']']
  | openObject => ['\x7b']
  | closeObject => ['\x7d']
  | comma => [',']
  | colon => [':']
  | text s => spellText s
  | literal value => Json.scalarChars value
  | broken .. => []

theorem spellChar_control : ∀ n < 0x20,
    spellChar (Char.ofNat n) = Json.escapeChar (Char.ofNat n) := by
  decide

theorem spellChar_eq_escapeChar (c : Char) : spellChar c = Json.escapeChar c := by
  by_cases h : c.toNat < 0x20
  · rw [← Char.ofNat_toNat c]
    exact spellChar_control _ h
  · have hnone : escapeLetters[c.toNat]? = none :=
      List.getElem?_eq_none (Nat.le_of_not_lt h)
    have hne : ∀ d : Char, d.toNat < 0x20 → c ≠ d := fun d hd hc => h (hc ▸ hd)
    simp only [spellChar, hnone, Json.escapeChar, if_neg h, if_neg (hne '\x08' (by decide)),
      if_neg (hne '\x0c' (by decide)), if_neg (hne '\n' (by decide)),
      if_neg (hne '\r' (by decide)), if_neg (hne '\t' (by decide))]
    by_cases hquote : c = '"'
    · rw [if_pos (.inl hquote), if_pos hquote, hquote]
    by_cases hslash : c = '\\'
    · rw [if_pos (.inr hslash), if_neg hquote, if_pos hslash, hslash]
    · rw [if_neg (not_or.2 ⟨hquote, hslash⟩), if_neg hquote, if_neg hslash]

@[simp] theorem spellText_eq_textChars (s : String) : spellText s = Json.textChars s := by
  rw [spellText, Json.textChars, funext spellChar_eq_escapeChar]

end Spelling

section Lines

/-- Tokens in lines, from inside `depth` brackets. An opening bracket and a comma end a line, and so
does what stands in front of a closing bracket; only brackets with nothing inside stay together. -/
def inLines : (depth : Nat) → List JsonToken → List Char
  | _, [] => []
  | depth, openArray :: closeArray :: rest => '[' :: ']' :: inLines depth rest
  | depth, openObject :: closeObject :: rest => '\x7b' :: '\x7d' :: inLines depth rest
  | depth, openArray :: rest => '[' :: Json.lineBreak (depth + 1) ++ inLines (depth + 1) rest
  | depth, openObject :: rest => '\x7b' :: Json.lineBreak (depth + 1) ++ inLines (depth + 1) rest
  | depth, closeArray :: rest => Json.lineBreak (depth - 1) ++ ']' :: inLines (depth - 1) rest
  | depth, closeObject :: rest => Json.lineBreak (depth - 1) ++ '\x7d' :: inLines (depth - 1) rest
  | depth, comma :: rest => ',' :: Json.lineBreak depth ++ inLines depth rest
  | depth, colon :: rest => ':' :: ' ' :: inLines depth rest
  | depth, scalar :: rest => scalar.spelling ++ inLines depth rest

theorem inLines_openArray {t : JsonToken} (h : t ≠ closeArray) (depth : Nat)
    (rest : List JsonToken) : inLines depth (openArray :: t :: rest)
      = '[' :: Json.lineBreak (depth + 1) ++ inLines (depth + 1) (t :: rest) := by
  rw [inLines]
  exact fun rest' hrest => h (List.cons.inj hrest).1

theorem inLines_openObject {t : JsonToken} (h : t ≠ closeObject) (depth : Nat)
    (rest : List JsonToken) : inLines depth (openObject :: t :: rest)
      = '\x7b' :: Json.lineBreak (depth + 1) ++ inLines (depth + 1) (t :: rest) := by
  rw [inLines]
  exact fun rest' hrest => h (List.cons.inj hrest).1

end Lines

section Plain

/-- Brackets, separators and texts: what values without other scalars are written with. -/
def IsPlain : JsonToken → Prop
  | literal _ | broken .. => False
  | _ => True

theorem tokens_spelling {t : JsonToken} (h : t.IsPlain) (s : Rest) :
    tokens (t.spelling.map some ++ s) = t :: tokens s := by
  cases t with
  | literal value => exact h.elim
  | broken inText fault => exact h.elim
  | _ => simp [spelling]

theorem tokens_flatMap_spelling {ts : List JsonToken} (h : ∀ t ∈ ts, t.IsPlain) :
    tokens ((ts.flatMap spelling).map some) = ts := by
  induction ts with
  | nil => simp [tokens]
  | cons t ts ih =>
    obtain ⟨ht, hts⟩ := List.forall_mem_cons.1 h
    rw [List.flatMap_cons, List.map_append, tokens_spelling ht, ih hts]

theorem tokens_inLines (depth : Nat) {ts : List JsonToken} (h : ∀ t ∈ ts, t.IsPlain) :
    tokens ((inLines depth ts).map some) = ts := by
  fun_induction inLines depth ts with
  | case1 depth => simp [tokens]
  | case2 depth rest ih | case3 depth rest ih =>
    obtain ⟨-, hrest⟩ := List.forall_mem_cons.1 (List.forall_mem_cons.1 h).2
    simp [ih hrest]
  | case4 depth rest _ ih | case5 depth rest _ ih | case6 depth rest ih | case7 depth rest ih
  | case8 depth rest ih | case9 depth rest ih => simp [ih (List.forall_mem_cons.1 h).2]
  | case10 depth t rest _ _ _ _ _ _ _ _ ih =>
    obtain ⟨ht, hrest⟩ := List.forall_mem_cons.1 h
    rw [List.map_append, tokens_spelling ht, ih hrest]

end Plain

end JsonToken

namespace Json

open JsonToken (spelling inLines)

section Compact

mutual

theorem compactChars_eq_flatMap_spelling : ∀ j : Json, compactChars j = j.tokens.flatMap spelling
  | null | boolean _ | number _ => by simp [compactChars, tokens, spelling]
  | text s => by simp [compactChars, tokens, spelling, scalarChars]
  | array [] | object [] => by simp [compactChars, tokens, spelling]
  | array (item :: items) => by
    simp [compactChars, tokens, spelling, compactChars_eq_flatMap_spelling item,
      compactItems_eq_flatMap_spelling items]
  | object ((name, value) :: members) => by
    simp [compactChars, tokens, spelling, compactChars_eq_flatMap_spelling value,
      compactMembers_eq_flatMap_spelling members]

theorem compactItems_eq_flatMap_spelling : ∀ items : List Json,
    compactItems items = (itemTokens items).flatMap spelling
  | [] => rfl
  | item :: items => by
    simp [compactItems, itemTokens, spelling, compactChars_eq_flatMap_spelling item,
      compactItems_eq_flatMap_spelling items]

theorem compactMembers_eq_flatMap_spelling : ∀ members : List (String × Json),
    compactMembers members = (memberTokens members).flatMap spelling
  | [] => rfl
  | (name, value) :: members => by
    simp [compactMembers, memberTokens, spelling, compactChars_eq_flatMap_spelling value,
      compactMembers_eq_flatMap_spelling members]

end

end Compact

section Pretty

theorem exists_tokens_eq_cons (j : Json) :
    ∃ t rest, j.tokens = t :: rest ∧ t ≠ .closeArray := by
  rcases j with _ | _ | _ | _ | (_ | ⟨item, items⟩) | (_ | ⟨⟨name, value⟩, members⟩) <;>
    exact ⟨_, _, rfl, by simp⟩

mutual

theorem inLines_tokens (rest : List JsonToken) : ∀ (depth : Nat) (j : Json),
    inLines depth (j.tokens ++ rest) = prettyChars depth j ++ inLines depth rest
  | depth, null | depth, boolean _ | depth, number _ => by
    simp [prettyChars, tokens, spelling, inLines]
  | depth, text s => by simp [prettyChars, tokens, spelling, scalarChars, inLines]
  | depth, array [] | depth, object [] => by simp [prettyChars, tokens, inLines]
  | depth, array (item :: items) => by
    obtain ⟨t, tokens', htokens, ht⟩ := exists_tokens_eq_cons item
    have hopen : inLines depth ((array (item :: items)).tokens ++ rest)
        = '[' :: lineBreak (depth + 1)
          ++ inLines (depth + 1) (item.tokens ++ (itemTokens items ++ rest)) := by
      simp [tokens, htokens, JsonToken.inLines_openArray ht]
    rw [hopen, inLines_tokens _ (depth + 1) item, inLines_itemTokens rest depth items]
    simp [prettyChars]
  | depth, object ((name, value) :: members) => by
    have hopen : inLines depth ((object ((name, value) :: members)).tokens ++ rest)
        = '\x7b' :: lineBreak (depth + 1) ++ textChars name ++ ':' :: ' '
          :: inLines (depth + 1) (value.tokens ++ (memberTokens members ++ rest)) := by
      simp [tokens, JsonToken.inLines_openObject, inLines, spelling]
    rw [hopen, inLines_tokens _ (depth + 1) value, inLines_memberTokens rest depth members]
    simp [prettyChars]

theorem inLines_itemTokens (rest : List JsonToken) : ∀ (depth : Nat) (items : List Json),
    inLines (depth + 1) (itemTokens items ++ rest)
      = prettyItems depth items ++ inLines depth rest
  | depth, [] => by simp [itemTokens, inLines, prettyItems]
  | depth, item :: items => by
    simp [itemTokens, inLines, prettyItems, inLines_tokens _ (depth + 1) item,
      inLines_itemTokens rest depth items]

theorem inLines_memberTokens (rest : List JsonToken) :
    ∀ (depth : Nat) (members : List (String × Json)),
      inLines (depth + 1) (memberTokens members ++ rest)
        = prettyMembers depth members ++ inLines depth rest
  | depth, [] => by simp [memberTokens, inLines, prettyMembers]
  | depth, (name, value) :: members => by
    simp [memberTokens, inLines, spelling, prettyMembers, inLines_tokens _ (depth + 1) value,
      inLines_memberTokens rest depth members]

end

theorem prettyChars_eq_inLines (j : Json) : prettyChars 0 j = inLines 0 j.tokens := by
  have hlines := inLines_tokens [] 0 j
  rw [List.append_nil, inLines, List.append_nil] at hlines
  exact hlines.symm

end Pretty

end Json

namespace Value

open JsonToken (IsPlain)

mutual

theorem isPlain_of_mem_tokens : ∀ v : Value, ∀ t ∈ v.toJson.tokens, t.IsPlain
  | scalar s => by simp [toJson, Json.tokens, IsPlain]
  | array [] => by simp [toJson, itemsToJson, Json.tokens, IsPlain]
  | array (item :: items) => by
    simp only [toJson, itemsToJson, Json.tokens, List.cons_append, List.forall_mem_cons,
      List.forall_mem_append]
    exact ⟨trivial, isPlain_of_mem_tokens item, isPlain_of_mem_itemTokens items⟩
  | object [] => by simp [toJson, fieldsToJson, Json.tokens, IsPlain]
  | object ((key, value) :: fields) => by
    simp only [toJson, fieldsToJson, Json.tokens, List.cons_append, List.forall_mem_cons,
      List.forall_mem_append]
    exact ⟨trivial, trivial, trivial, isPlain_of_mem_tokens value,
      isPlain_of_mem_memberTokens fields⟩

theorem isPlain_of_mem_itemTokens : ∀ items : List Value,
    ∀ t ∈ Json.itemTokens (itemsToJson items), t.IsPlain
  | [] => by simp [itemsToJson, Json.itemTokens, IsPlain]
  | item :: items => by
    simp only [itemsToJson, Json.itemTokens, List.cons_append, List.forall_mem_cons,
      List.forall_mem_append]
    exact ⟨trivial, isPlain_of_mem_tokens item, isPlain_of_mem_itemTokens items⟩

theorem isPlain_of_mem_memberTokens : ∀ fields : List (String × Value),
    ∀ t ∈ Json.memberTokens (fieldsToJson fields), t.IsPlain
  | [] => by simp [fieldsToJson, Json.memberTokens, IsPlain]
  | (key, value) :: fields => by
    simp only [fieldsToJson, Json.memberTokens, List.cons_append, List.forall_mem_cons,
      List.forall_mem_append]
    exact ⟨trivial, trivial, trivial, isPlain_of_mem_tokens value,
      isPlain_of_mem_memberTokens fields⟩

end

end Value

end LinkedSheets
