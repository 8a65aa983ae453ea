import LinkedSheets.Proofs.ReadBack
import Mathlib.Data.List.Basic

/-!
# What a reader accepts

A reader accepts a list of tokens as a value just when they are the tokens of that value and the
value fits its outline (`Json.ofTokens_eq_ok_iff`); so readers with different outlines read the same
value where they read one at all. At every moment the tokens that were read are those of the values
that the reader keeps, with the open brackets between them (`Json.readSoFar`), and every token adds
itself to them (`Json.readSoFar_of_step`).

What a text is cut into are tokens of the kind this needs: a literal is a scalar and no text
(`JsonToken.isLiteral_of_mem_tokens`).
-/

namespace LinkedSheets

namespace Json

/-- A scalar that is not a text. -/
def IsLiteral : Json → Prop
  | null | boolean _ | number _ => True
  | _ => False

section Joined

/-- Items with a comma behind each. -/
def commaItems (items : List Json) : List JsonToken :=
  items.flatMap fun item => item.tokens ++ [.comma]

def commaMembers (members : List (String × Json)) : List JsonToken :=
  members.flatMap fun m => .text m.1 :: .colon :: m.2.tokens ++ [.comma]

theorem itemTokens_concat (items : List Json) (last : Json) : itemTokens (items ++ [last])
    = .comma :: commaItems items ++ last.tokens ++ [.closeArray] := by
  induction items with
  | nil => simp [itemTokens, commaItems]
  | cons item items ih => simp [itemTokens, commaItems, ih]

theorem tokens_array_concat (items : List Json) (last : Json) : (array (items ++ [last])).tokens
    = .openArray :: commaItems items ++ last.tokens ++ [.closeArray] := by
  cases items with
  | nil => simp [tokens, itemTokens, commaItems]
  | cons item items => simp [tokens, itemTokens_concat, commaItems]

theorem memberTokens_concat (members : List (String × Json)) (name : String) (last : Json) :
    memberTokens (members ++ [(name, last)]) = .comma :: commaMembers members
      ++ .text name :: .colon :: last.tokens ++ [.closeObject] := by
  induction members with
  | nil => simp [memberTokens, commaMembers]
  | cons m members ih => simp [memberTokens, commaMembers, ih]

theorem tokens_object_concat (members : List (String × Json)) (name : String) (last : Json) :
    (object (members ++ [(name, last)])).tokens = .openObject :: commaMembers members
      ++ .text name :: .colon :: last.tokens ++ [.closeObject] := by
  cases members with
  | nil => simp [tokens, memberTokens, commaMembers]
  | cons m members => simp [tokens, memberTokens_concat, commaMembers]

theorem mem_tokens_array {items : List Json} {t : JsonToken} (h : t ∈ (array items).tokens) :
    t.IsPlain ∨ ∃ item ∈ items, t ∈ item.tokens := by
  rcases List.eq_nil_or_concat' items with rfl | ⟨items, last, rfl⟩
  · simp only [tokens, List.mem_cons, List.not_mem_nil, or_false] at h
    rcases h with rfl | rfl <;> exact .inl trivial
  · rw [tokens_array_concat] at h
    simp only [commaItems, List.cons_append, List.mem_cons, List.mem_append, List.mem_flatMap,
      List.not_mem_nil, or_false] at h
    rcases h with rfl | (⟨item, hitem, hmem | rfl⟩ | hmem) | rfl
    · exact .inl trivial
    · exact .inr ⟨item, List.mem_append_left _ hitem, hmem⟩
    · exact .inl trivial
    · exact .inr ⟨last, by simp, hmem⟩
    · exact .inl trivial

theorem mem_tokens_object {members : List (String × Json)} {t : JsonToken}
    (h : t ∈ (object members).tokens) : t.IsPlain ∨ ∃ m ∈ members, t ∈ m.2.tokens := by
  rcases List.eq_nil_or_concat' members with rfl | ⟨members, ⟨name, last⟩, rfl⟩
  · simp only [tokens, List.mem_cons, List.not_mem_nil, or_false] at h
    rcases h with rfl | rfl <;> exact .inl trivial
  · rw [tokens_object_concat] at h
    simp only [commaMembers, List.cons_append, List.mem_cons, List.mem_append, List.mem_flatMap,
      List.not_mem_nil, or_false] at h
    rcases h with rfl | (⟨m, hm, rfl | rfl | hmem | rfl⟩ | rfl | rfl | hmem) | rfl
    · exact .inl trivial
    · exact .inl trivial
    · exact .inl trivial
    · exact .inr ⟨m, List.mem_append_left _ hm, hmem⟩
    · exact .inl trivial
    · exact .inl trivial
    · exact .inl trivial
    · exact .inr ⟨(name, last), by simp, hmem⟩
    · exact .inl trivial

end Joined

section SoFar

/-- The tokens that were read up to the place inside of open brackets where a value may stand. -/
def readBefore : List OpenBracket → List JsonToken
  | [] => []
  | .array items :: brackets => readBefore brackets ++ .openArray :: commaItems items.reverse
  | .object members name :: brackets =>
    readBefore brackets ++ .openObject :: commaMembers members.reverse ++ [.text name, .colon]

def readSoFar : ReaderState → List JsonToken
  | (.value _, brackets) => readBefore brackets
  | (.name members _, brackets) =>
    readBefore brackets ++ .openObject :: commaMembers members.reverse
  | (.colon members name, brackets) =>
    readBefore brackets ++ .openObject :: commaMembers members.reverse ++ [.text name]
  | (.more value, brackets) => readBefore brackets ++ value.tokens

variable (outline : Outline)

theorem itemsFit_iff_forall {outline : Outline} {level : Nat} {items : List Json} :
    ItemsFit outline level items ↔ ∀ item ∈ items, item.Fits outline level := by
  induction items with
  | nil => simp [ItemsFit]
  | cons item items ih => simp [ItemsFit, ih]

theorem membersFit_iff_forall {outline : Outline} {level : Nat} {members : List (String × Json)} :
    MembersFit outline level members ↔ ∀ m ∈ members, m.2.Fits outline level := by
  induction members with
  | nil => simp [MembersFit]
  | cons m members ih => simp [MembersFit, ih]

/-- Open brackets are where they may be, with what may be in them. -/
def BracketsFit : List OpenBracket → Prop
  | [] => True
  | .array items :: brackets => (array items).Fits outline brackets.length
    ∧ BracketsFit brackets
  | .object members _ :: brackets => (object members).Fits outline brackets.length
    ∧ BracketsFit brackets

/-- Nothing that is kept goes beyond the outline, and brackets can be closed at once only while they
are empty. -/
def StateFits : ReaderState → Prop
  | (.value closable, brackets) => BracketsFit outline brackets
    ∧ (closable = true → ∀ items outer, brackets = .array items :: outer → items = [])
  | (.name members closable, brackets) => (object members).Fits outline brackets.length
    ∧ BracketsFit outline brackets ∧ (closable = true → members = [])
  | (.colon members _, brackets) => (object members).Fits outline brackets.length
    ∧ BracketsFit outline brackets
  | (.more value, brackets) => value.Fits outline brackets.length ∧ BracketsFit outline brackets

end SoFar

section Step

variable {outline : Outline} {brackets : List OpenBracket} {token : JsonToken}
  {state state' : ReaderState}

theorem checkOpen_eq_ok_iff {shape : JsonShape} {level : Nat} :
    checkOpen outline shape level = .ok () ↔
      (outline.shape level).admits shape ∧ outline.isRoom level := by
  unfold checkOpen
  split
  · simp_all
  split <;> simp_all

theorem map_scalar_eq_ok {level : Nat} {value : Json}
    (h : (scalar outline level value).map (·, brackets) = .ok state') :
    outline.shape level = .any ∧ state' = (.more value, brackets) := by
  unfold scalar at h
  split at h
  · exact ⟨‹_›, (Except.ok.inj h).symm⟩
  · cases h

theorem fits_of_stepValue {closable : Bool} (hfits : StateFits outline (.value closable, brackets))
    (hliteral : ∀ value, token = .literal value → value.IsLiteral)
    (h : stepValue outline closable brackets token = .ok state') :
    StateFits outline state'
      ∧ readSoFar state' = readSoFar (.value closable, brackets) ++ [token] := by
  obtain ⟨hbrackets, hempty⟩ := hfits
  cases token with
  | text s =>
    obtain ⟨hshape, rfl⟩ := map_scalar_eq_ok h
    exact ⟨⟨hshape, hbrackets⟩, by simp [readSoFar, tokens]⟩
  | literal value =>
    obtain ⟨hshape, rfl⟩ := map_scalar_eq_ok h
    have hvalue := hliteral value rfl
    cases value with
    | null | boolean b | number n => exact ⟨⟨hshape, hbrackets⟩, by simp [readSoFar, tokens]⟩
    | text s | array items | object members => exact hvalue.elim
  | openArray =>
    obtain ⟨⟨⟩, hopen, hstate⟩ := bind_eq_ok_iff.1 h
    obtain rfl := Except.ok.inj hstate
    obtain ⟨hshape, hroom⟩ := checkOpen_eq_ok_iff.1 hopen
    exact ⟨⟨⟨⟨hshape, hroom, trivial⟩, hbrackets⟩, by simp⟩,
      by simp [readSoFar, readBefore, commaItems]⟩
  | openObject =>
    obtain ⟨⟨⟩, hopen, hstate⟩ := bind_eq_ok_iff.1 h
    obtain rfl := Except.ok.inj hstate
    obtain ⟨hshape, hroom⟩ := checkOpen_eq_ok_iff.1 hopen
    exact ⟨⟨⟨hshape, hroom, trivial⟩, hbrackets, by simp⟩, by simp [readSoFar, commaMembers]⟩
  | closeArray =>
    simp only [stepValue] at h
    split at h
    · rename_i items outer
      obtain rfl := Except.ok.inj h
      obtain rfl := hempty rfl items outer rfl
      exact ⟨hbrackets, by simp [readSoFar, readBefore, tokens, commaItems]⟩
    · cases h
  | closeObject | comma | colon | broken => cases h

theorem fits_of_stepName {members : List (String × Json)} {closable : Bool}
    (hfits : StateFits outline (.name members closable, brackets))
    (h : stepName members closable brackets token = .ok state') : StateFits outline state'
      ∧ readSoFar state' = readSoFar (.name members closable, brackets) ++ [token] := by
  obtain ⟨hmembers, hbrackets, hempty⟩ := hfits
  cases token with
  | text name =>
    obtain rfl := Except.ok.inj h
    exact ⟨⟨hmembers, hbrackets⟩, rfl⟩
  | closeObject =>
    simp only [stepName] at h
    split at h
    · obtain rfl := Except.ok.inj h
      obtain rfl := hempty ‹_›
      exact ⟨⟨hmembers, hbrackets⟩, by simp [readSoFar, commaMembers, tokens]⟩
    · cases h
  | broken inText fault => cases inText <;> cases h
  | openArray | closeArray | openObject | comma | colon | literal => cases h

theorem fits_of_stepMore {value : Json} (hfits : StateFits outline (.more value, brackets))
    (h : stepMore value brackets token = .ok state') : StateFits outline state'
      ∧ readSoFar state' = readSoFar (.more value, brackets) ++ [token] := by
  obtain ⟨hvalue, hbrackets⟩ := hfits
  rcases brackets with _ | ⟨items | ⟨members, name⟩, brackets⟩
  · cases h
  · obtain ⟨⟨hshape, hroom, hitems⟩, hbrackets⟩ := hbrackets
    have hfits : ItemsFit outline (brackets.length + 1) (value :: items) := ⟨hvalue, hitems⟩
    cases token with
    | comma =>
      obtain rfl := Except.ok.inj h
      exact ⟨⟨⟨⟨hshape, hroom, hfits⟩, hbrackets⟩, by simp⟩,
        by simp [readSoFar, readBefore, commaItems]⟩
    | closeArray =>
      obtain rfl := Except.ok.inj h
      have hreverse : ItemsFit outline (brackets.length + 1) (value :: items).reverse := by
        simpa only [itemsFit_iff_forall, List.mem_reverse] using hfits
      exact ⟨⟨⟨hshape, hroom, hreverse⟩, hbrackets⟩,
        by simp [readSoFar, readBefore, tokens_array_concat]⟩
    | _ => cases h
  · obtain ⟨⟨hshape, hroom, hmembers⟩, hbrackets⟩ := hbrackets
    have hfits : MembersFit outline (brackets.length + 1) ((name, value) :: members) :=
      ⟨hvalue, hmembers⟩
    cases token with
    | comma =>
      obtain rfl := Except.ok.inj h
      exact ⟨⟨⟨hshape, hroom, hfits⟩, hbrackets, by simp⟩,
        by simp [readSoFar, readBefore, commaMembers]⟩
    | closeObject =>
      obtain rfl := Except.ok.inj h
      have hreverse :
          MembersFit outline (brackets.length + 1) ((name, value) :: members).reverse := by
        simpa only [membersFit_iff_forall, List.mem_reverse] using hfits
      exact ⟨⟨⟨hshape, hroom, hreverse⟩, hbrackets⟩,
        by simp [readSoFar, readBefore, tokens_object_concat]⟩
    | _ => cases h

/-- A token that is read adds itself to those before it, and what is kept stays within the
outline. -/
theorem fits_of_step (hfits : StateFits outline state)
    (hliteral : ∀ value, token = .literal value → value.IsLiteral)
    (h : step outline state token = .ok state') :
    StateFits outline state' ∧ readSoFar state' = readSoFar state ++ [token] := by
  obtain ⟨expecting, brackets⟩ := state
  cases expecting with
  | value closable => exact fits_of_stepValue hfits hliteral h
  | name members closable => exact fits_of_stepName hfits h
  | colon members name =>
    cases token with
    | colon =>
      obtain rfl := Except.ok.inj h
      exact ⟨⟨hfits, by simp⟩, by simp [readSoFar, readBefore]⟩
    | _ => cases h
  | more value => exact fits_of_stepMore hfits h

theorem fits_of_run {ts : List JsonToken} (hfits : StateFits outline state)
    (hliteral : ∀ value, .literal value ∈ ts → value.IsLiteral)
    (h : run outline state ts = .ok state') :
    StateFits outline state' ∧ readSoFar state' = readSoFar state ++ ts := by
  induction ts generalizing state with
  | nil =>
    obtain rfl := Except.ok.inj h
    exact ⟨hfits, (List.append_nil _).symm⟩
  | cons token ts ih =>
    rw [run_cons] at h
    obtain ⟨next, hstep, hrun⟩ := bind_eq_ok_iff.1 h
    obtain ⟨hnext, hread⟩ := fits_of_step hfits
      (fun value heq => hliteral value (heq ▸ List.mem_cons_self)) hstep
    obtain ⟨hfits', hread'⟩ :=
      ih hnext (fun value hmem => hliteral value (List.mem_cons_of_mem _ hmem)) hrun
    exact ⟨hfits', by rw [hread', hread, List.append_assoc, List.singleton_append]⟩

/-- A reader accepts the tokens of the values that fit its outline, and no others. -/
theorem ofTokens_eq_ok_iff {ts : List JsonToken}
    (hliteral : ∀ value, .literal value ∈ ts → value.IsLiteral) {j : Json} :
    ofTokens outline ts = .ok j ↔ ts = j.tokens ∧ j.Fits outline 0 := by
  constructor
  · intro h
    obtain ⟨state, hrun, hend⟩ := bind_eq_ok_iff.1 h
    have hstart : StateFits outline (.value false, []) := ⟨trivial, by simp⟩
    obtain ⟨hfits, hread⟩ := fits_of_run hstart hliteral hrun
    split at hend
    · obtain rfl := Except.ok.inj hend
      exact ⟨hread.symm, hfits.1⟩
    · cases hend
  · rintro ⟨rfl, hfits⟩
    exact ofTokens_tokens hfits

end Step

end Json

namespace JsonToken

open JsonNumber (Rest)

theorem isLiteral_of_scanLiteral {c : Char} {s rest : Rest} {value : Json}
    (h : scanLiteral c s = .ok (value, rest)) : value.IsLiteral := by
  have hmap {α : Type} {x : Except JsonFault α} {f : α → Json × Rest}
      (hx : x.map f = .ok (value, rest)) (hf : ∀ a, (f a).1.IsLiteral) : value.IsLiteral := by
    obtain ⟨a, -, ha⟩ := exceptMap_eq_ok_iff.1 hx
    exact (congrArg (·.1.IsLiteral) ha).mpr (hf a)
  unfold scanLiteral at h
  iterate 5
    split at h
    · exact hmap h fun _ => trivial
  cases h

theorem punctuation?_ne_literal {c : Char} {value : Json} :
    punctuation? c ≠ some (literal value) := by
  unfold punctuation?
  split <;> simp

theorem isLiteral_of_mem_tokens {s : Rest} {value : Json} (h : .literal value ∈ tokens s) :
    value.IsLiteral := by
  fun_induction tokens s with
  | case1 => cases h
  | case2 | case6 | case8 => simp at h
  | case3 c s hspace ih => exact ih h
  | case4 c s hspace t hpunctuation ih =>
    rcases List.mem_cons.1 h with rfl | h
    · exact absurd hpunctuation punctuation?_ne_literal
    · exact ih h
  | case5 s cs rest hscan hlt hspace hpunctuation ih =>
    exact ih ((List.mem_cons.1 h).resolve_left nofun)
  | case7 c s hspace hpunctuation hquote other rest hscan hle ih =>
    rcases List.mem_cons.1 h with heq | h
    · exact JsonToken.literal.inj heq ▸ isLiteral_of_scanLiteral hscan
    · exact ih h

end JsonToken

namespace Json

variable {outline : Outline} {s : JsonNumber.Rest} {j : Json}

/-- A text is read as a value just when it is cut into the tokens of the value. -/
theorem readOutlined_eq_ok_iff :
    readOutlined outline s = .ok j ↔ JsonToken.tokens s = j.tokens ∧ j.Fits outline 0 :=
  ofTokens_eq_ok_iff fun _ => JsonToken.isLiteral_of_mem_tokens

end Json

end LinkedSheets
