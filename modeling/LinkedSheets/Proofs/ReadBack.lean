import LinkedSheets.Json.Reader
import LinkedSheets.Proofs.FirstFailure
import LinkedSheets.Proofs.Layout
import Mathlib.Order.MinMax

/-!
# Reading back what was written

Where a value may stand, its tokens bring the reader to where that value is complete, with the
brackets that were open before (`Json.run_tokens`). The value has to be one that the outline of the
reader admits: `Json.Fits` goes down the value and asks for the right shape and for room at every
bracket. Behind a comma the reader holds what it has read of the array or object so far, so the
items and members behind the first one are cases of their own in the induction.

A document is therefore read from its tokens (`Json.ofTokens_tokens`), and a value from both texts
it is written as (`Value.readFrom_compact`, `Value.readFrom_pretty`). Where any shape will do, a
value that does not fit has a bracket too many, and the reader stops there
(`Json.ofTokens_tokens_of_not_fits`). So a text is refused as a document just when it is too deep
for one (`Value.read_of_tokens`).
-/

namespace LinkedSheets

namespace Json

section Fits

mutual

/-- A value has the shapes that an outline asks for, inside of `level` brackets, and needs no more
brackets than the outline allows. -/
def Fits (outline : Outline) : (level : Nat) → Json → Prop
  | level, array items => (outline.shape level).admits .array ∧ outline.isRoom level
      ∧ ItemsFit outline (level + 1) items
  | level, object members => (outline.shape level).admits .object ∧ outline.isRoom level
      ∧ MembersFit outline (level + 1) members
  | level, _ => outline.shape level = .any

def ItemsFit (outline : Outline) : (level : Nat) → List Json → Prop
  | _, [] => True
  | level, item :: items => Fits outline level item ∧ ItemsFit outline level items

def MembersFit (outline : Outline) : (level : Nat) → List (String × Json) → Prop
  | _, [] => True
  | level, (_, value) :: members => Fits outline level value ∧ MembersFit outline level members

end

mutual

/-- How many brackets are open at once. -/
def levels : Json → Nat
  | array items => itemLevels items + 1
  | object members => memberLevels members + 1
  | _ => 0

def itemLevels : List Json → Nat
  | [] => 0
  | item :: items => max (levels item) (itemLevels items)

def memberLevels : List (String × Json) → Nat
  | [] => 0
  | (_, value) :: members => max (levels value) (memberLevels members)

end

variable {outline : Outline}

theorem forall_isRoom_succ_iff {level count : Nat} :
    (∀ n < count + 1, outline.isRoom (level + n)) ↔
      outline.isRoom level ∧ ∀ n < count, outline.isRoom (level + 1 + n) := by
  rw [Nat.forall_lt_succ_left]
  simp only [Nat.add_zero, Nat.add_assoc, Nat.add_comm 1]

mutual

/-- Where any shape will do it is only a matter of brackets. -/
theorem fits_iff_isRoom (hshape : ∀ level, outline.shape level = .any) :
    ∀ (level : Nat) (j : Json), j.Fits outline level ↔ ∀ n < j.levels, outline.isRoom (level + n)
  | level, array items => by
    rw [Fits, itemsFit_iff_isRoom hshape (level + 1) items, levels, forall_isRoom_succ_iff, hshape]
    exact and_iff_right rfl
  | level, object members => by
    rw [Fits, membersFit_iff_isRoom hshape (level + 1) members, levels, forall_isRoom_succ_iff,
      hshape]
    exact and_iff_right rfl
  | level, null | level, boolean _ | level, number _ | level, text _ => by
    simp [Fits, levels, hshape]

theorem itemsFit_iff_isRoom (hshape : ∀ level, outline.shape level = .any) :
    ∀ (level : Nat) (items : List Json), ItemsFit outline level items ↔
      ∀ n < itemLevels items, outline.isRoom (level + n)
  | level, [] => by simp [ItemsFit, itemLevels]
  | level, item :: items => by
    rw [ItemsFit, fits_iff_isRoom hshape level item, itemsFit_iff_isRoom hshape level items,
      itemLevels]
    simp only [lt_max_iff, or_imp, forall_and]

theorem membersFit_iff_isRoom (hshape : ∀ level, outline.shape level = .any) :
    ∀ (level : Nat) (members : List (String × Json)), MembersFit outline level members ↔
      ∀ n < memberLevels members, outline.isRoom (level + n)
  | level, [] => by simp [MembersFit, memberLevels]
  | level, (_, value) :: members => by
    rw [MembersFit, fits_iff_isRoom hshape level value,
      membersFit_iff_isRoom hshape level members, memberLevels]
    simp only [lt_max_iff, or_imp, forall_and]

end

theorem fits_any (j : Json) : j.Fits .any 0 :=
  (fits_iff_isRoom (fun _ => rfl) 0 j).2 fun _ _ => rfl

/-- A value fits a limit that its brackets do not go beyond. -/
theorem fits_limited_iff {j : Json} {limit : Nat} :
    j.Fits ⟨fun _ => .any, some limit⟩ 0 ↔ j.levels ≤ limit := by
  rw [fits_iff_isRoom fun _ => rfl]
  simp only [Outline.isRoom, Nat.zero_add, decide_eq_true_eq]
  exact forall_lt_iff_le

theorem fits_untyped_iff {j : Json} : j.Fits .untyped 0 ↔ j.levels ≤ 127 :=
  fits_limited_iff

end Fits

section Run

variable {outline : Outline}

theorem run_cons (outline : Outline) (state : ReaderState) (token : JsonToken)
    (tokens : List JsonToken) : run outline state (token :: tokens)
      = step outline state token >>= fun state => run outline state tokens := by
  rw [run, List.foldlM_cons]
  rfl

theorem checkOpen_eq_ok {shape : JsonShape} {level : Nat}
    (hshape : (outline.shape level).admits shape) (hroom : outline.isRoom level) :
    checkOpen outline shape level = .ok () := by
  simp [checkOpen, hshape, hroom]

theorem scalar_eq_ok {level : Nat} (h : outline.shape level = .any) (j : Json) :
    scalar outline level j = .ok (.more j) :=
  if_pos h

section Open

variable {closable : Bool} {brackets : List OpenBracket} (rest : List JsonToken)

/-- Behind the opening bracket the first item may stand. -/
theorem run_array_cons (item : Json) (items : List Json)
    (hopen : checkOpen outline .array brackets.length = .ok ()) :
    run outline (.value closable, brackets) ((array (item :: items)).tokens ++ rest)
      = run outline (.value true, .array [] :: brackets)
        (item.tokens ++ (itemTokens items ++ rest)) := by
  simp [tokens, run_cons, step, stepValue, hopen]

theorem run_object_cons (name : String) (value : Json) (members : List (String × Json))
    (hopen : checkOpen outline .object brackets.length = .ok ()) :
    run outline (.value closable, brackets) ((object ((name, value) :: members)).tokens ++ rest)
      = run outline (.value false, .object [] name :: brackets)
        (value.tokens ++ (memberTokens members ++ rest)) := by
  simp [tokens, run_cons, step, stepValue, stepName, hopen]

/-- Behind a comma the next item may stand. -/
theorem run_itemTokens_cons (read : List Json) (last item : Json) (items : List Json) :
    run outline (.more last, .array read :: brackets) (itemTokens (item :: items) ++ rest)
      = run outline (.value false, .array (last :: read) :: brackets)
        (item.tokens ++ (itemTokens items ++ rest)) := by
  simp [itemTokens, run_cons, step, stepMore]

theorem run_memberTokens_cons (read : List (String × Json)) (name name' : String)
    (last value : Json) (members : List (String × Json)) :
    run outline (.more last, .object read name :: brackets)
        (memberTokens ((name', value) :: members) ++ rest)
      = run outline (.value false, .object ((name, last) :: read) name' :: brackets)
        (value.tokens ++ (memberTokens members ++ rest)) := by
  simp [memberTokens, run_cons, step, stepMore, stepName]

end Open

mutual

/-- Reading the tokens of a value, where one may stand, completes the value and leaves what is
behind. -/
theorem run_tokens (rest : List JsonToken) : ∀ (j : Json) (closable : Bool)
    (brackets : List OpenBracket), j.Fits outline brackets.length →
      run outline (.value closable, brackets) (j.tokens ++ rest)
        = run outline (.more j, brackets) rest
  | null, _, _, h => by simp [tokens, run_cons, step, stepValue, scalar_eq_ok h, Except.map]
  | boolean b, _, _, h => by simp [tokens, run_cons, step, stepValue, scalar_eq_ok h, Except.map]
  | number n, _, _, h => by simp [tokens, run_cons, step, stepValue, scalar_eq_ok h, Except.map]
  | text s, _, _, h => by simp [tokens, run_cons, step, stepValue, scalar_eq_ok h, Except.map]
  | array [], _, _, ⟨hshape, hroom, _⟩ => by
    simp [tokens, run_cons, step, stepValue, checkOpen_eq_ok hshape hroom]
  | array (item :: items), closable, brackets, ⟨hshape, hroom, hitem, hitems⟩ => by
    rw [run_array_cons _ _ _ (checkOpen_eq_ok hshape hroom),
      run_tokens _ item true (.array [] :: brackets) hitem,
      run_itemTokens rest items [] item brackets hitems]
    rfl
  | object [], _, _, ⟨hshape, hroom, _⟩ => by
    simp [tokens, run_cons, step, stepValue, stepName, checkOpen_eq_ok hshape hroom]
  | object ((name, value) :: members), closable, brackets, ⟨hshape, hroom, hvalue, hmembers⟩ => by
    rw [run_object_cons _ _ _ _ (checkOpen_eq_ok hshape hroom),
      run_tokens _ value false (.object [] name :: brackets) hvalue,
      run_memberTokens rest members [] name value brackets hmembers]
    rfl

theorem run_itemTokens (rest : List JsonToken) : ∀ (items read : List Json) (last : Json)
    (brackets : List OpenBracket), ItemsFit outline (brackets.length + 1) items →
      run outline (.more last, .array read :: brackets) (itemTokens items ++ rest)
        = run outline (.more (.array (read.reverse ++ last :: items)), brackets) rest
  | [], _, _, _, _ => by simp [itemTokens, run_cons, step, stepMore]
  | item :: items, read, last, brackets, ⟨hitem, hitems⟩ => by
    rw [run_itemTokens_cons, run_tokens _ item false (.array (last :: read) :: brackets) hitem,
      run_itemTokens rest items (last :: read) item brackets hitems]
    simp

theorem run_memberTokens (rest : List JsonToken) : ∀ (members read : List (String × Json))
    (name : String) (last : Json) (brackets : List OpenBracket),
    MembersFit outline (brackets.length + 1) members →
      run outline (.more last, .object read name :: brackets) (memberTokens members ++ rest)
        = run outline (.more (.object (read.reverse ++ (name, last) :: members)), brackets) rest
  | [], _, _, _, _, _ => by simp [memberTokens, run_cons, step, stepMore]
  | (name', value) :: members, read, name, last, brackets, ⟨hvalue, hmembers⟩ => by
    rw [run_memberTokens_cons,
      run_tokens _ value false (.object ((name, last) :: read) name' :: brackets) hvalue,
      run_memberTokens rest members ((name, last) :: read) name' value brackets hmembers]
    simp

end

/-- The tokens of a value, and nothing else, are a document. -/
theorem ofTokens_tokens {j : Json} (h : j.Fits outline 0) : ofTokens outline j.tokens = .ok j := by
  have hrun := run_tokens [] j false [] h
  rw [List.append_nil] at hrun
  rw [ofTokens, hrun]
  rfl

section TooDeep

theorem checkOpen_of_any (hshape : ∀ level, outline.shape level = .any) (shape : JsonShape)
    (level : Nat) : checkOpen outline shape level
      = if outline.isRoom level then .ok () else .error .malformed := by
  simp [checkOpen, hshape, JsonShape.admits]

mutual

/-- Where any shape will do, the bracket that there is no room for is where reading fails. -/
theorem run_tokens_of_not_fits (hshape : ∀ level, outline.shape level = .any)
    (rest : List JsonToken) : ∀ (j : Json) (closable : Bool) (brackets : List OpenBracket),
    ¬ j.Fits outline brackets.length →
      run outline (.value closable, brackets) (j.tokens ++ rest) = .error .malformed
  | null, _, _, h | boolean _, _, _, h | number _, _, _, h | text _, _, _, h =>
    absurd (hshape _) h
  | array items, closable, brackets, h => by
    by_cases hroom : outline.isRoom brackets.length
    · have hitems : ¬ ItemsFit outline (brackets.length + 1) items :=
        fun hitems => h ⟨by rw [hshape]; rfl, hroom, hitems⟩
      rcases items with _ | ⟨item, items⟩
      · exact absurd trivial hitems
      rw [run_array_cons _ _ _ (by rw [checkOpen_of_any hshape, if_pos hroom])]
      by_cases hitem : item.Fits outline (brackets.length + 1)
      · rw [run_tokens _ item true (.array [] :: brackets) hitem]
        exact run_itemTokens_of_not_fits hshape rest items [] item brackets
          fun h => hitems ⟨hitem, h⟩
      · exact run_tokens_of_not_fits hshape _ item true (.array [] :: brackets) hitem
    · cases items <;>
        simp [tokens, run_cons, step, stepValue, checkOpen_of_any hshape, hroom]
  | object members, closable, brackets, h => by
    by_cases hroom : outline.isRoom brackets.length
    · have hmembers : ¬ MembersFit outline (brackets.length + 1) members :=
        fun hmembers => h ⟨by rw [hshape]; rfl, hroom, hmembers⟩
      rcases members with _ | ⟨⟨name, value⟩, members⟩
      · exact absurd trivial hmembers
      rw [run_object_cons _ _ _ _ (by rw [checkOpen_of_any hshape, if_pos hroom])]
      by_cases hvalue : value.Fits outline (brackets.length + 1)
      · rw [run_tokens _ value false (.object [] name :: brackets) hvalue]
        exact run_memberTokens_of_not_fits hshape rest members [] name value brackets
          fun h => hmembers ⟨hvalue, h⟩
      · exact run_tokens_of_not_fits hshape _ value false (.object [] name :: brackets) hvalue
    · cases members <;>
        simp [tokens, run_cons, step, stepValue, checkOpen_of_any hshape, hroom]

theorem run_itemTokens_of_not_fits (hshape : ∀ level, outline.shape level = .any)
    (rest : List JsonToken) : ∀ (items read : List Json) (last : Json)
    (brackets : List OpenBracket), ¬ ItemsFit outline (brackets.length + 1) items →
      run outline (.more last, .array read :: brackets) (itemTokens items ++ rest)
        = .error .malformed
  | [], _, _, _, h => absurd trivial h
  | item :: items, read, last, brackets, h => by
    rw [run_itemTokens_cons]
    by_cases hitem : item.Fits outline (brackets.length + 1)
    · rw [run_tokens _ item false (.array (last :: read) :: brackets) hitem]
      exact run_itemTokens_of_not_fits hshape rest items (last :: read) item brackets
        fun hitems => h ⟨hitem, hitems⟩
    · exact run_tokens_of_not_fits hshape _ item false (.array (last :: read) :: brackets) hitem

theorem run_memberTokens_of_not_fits (hshape : ∀ level, outline.shape level = .any)
    (rest : List JsonToken) : ∀ (members read : List (String × Json)) (name : String) (last : Json)
    (brackets : List OpenBracket), ¬ MembersFit outline (brackets.length + 1) members →
      run outline (.more last, .object read name :: brackets) (memberTokens members ++ rest)
        = .error .malformed
  | [], _, _, _, _, h => absurd trivial h
  | (name', value) :: members, read, name, last, brackets, h => by
    rw [run_memberTokens_cons]
    by_cases hvalue : value.Fits outline (brackets.length + 1)
    · rw [run_tokens _ value false (.object ((name, last) :: read) name' :: brackets) hvalue]
      exact run_memberTokens_of_not_fits hshape rest members ((name, last) :: read) name' value
        brackets fun hmembers => h ⟨hvalue, hmembers⟩
    · exact run_tokens_of_not_fits hshape _ value false
        (.object ((name, last) :: read) name' :: brackets) hvalue

end

theorem ofTokens_tokens_of_not_fits (hshape : ∀ level, outline.shape level = .any) {j : Json}
    (h : ¬ j.Fits outline 0) : ofTokens outline j.tokens = .error .malformed := by
  have hrun := run_tokens_of_not_fits hshape [] j false [] h
  rw [List.append_nil] at hrun
  rw [ofTokens, hrun]
  rfl

end TooDeep

end Run

end Json

namespace Value

/-- A text is read as a value: by a reader of any JSON, and by one that limits the brackets inside
each other to no fewer than the value has. -/
structure ReadFrom (v : Value) (text : String) : Prop where
  read : Json.readOutlined .any (text.toList.map some) = .ok v.toJson
  limited (more : Nat) : Json.readOutlined ⟨fun _ => .any, some (v.toJson.levels + more)⟩
    (text.toList.map some) = .ok v.toJson

section Tokens

variable {v : Value} {text : String}
  (h : JsonToken.tokens (text.toList.map some) = v.toJson.tokens)
include h

theorem readFrom_of_tokens : v.ReadFrom text where
  read := by
    rw [Json.readOutlined, h, Json.ofTokens_tokens (Json.fits_any _)]
  limited more := by
    rw [Json.readOutlined, h, Json.ofTokens_tokens (Json.fits_limited_iff.2 (Nat.le_add_right ..))]

/-- A text is refused as a document if it is too deep, and only then. -/
theorem read_of_tokens : Json.read text
    = if v.toJson.levels ≤ 127 then .ok v.toJson else .error .malformed := by
  rw [Json.read, Json.readOutlined, h]
  split
  · exact Json.ofTokens_tokens (Json.fits_untyped_iff.2 ‹_›)
  · exact Json.ofTokens_tokens_of_not_fits (fun _ => rfl) (mt Json.fits_untyped_iff.1 ‹_›)

end Tokens

theorem tokens_compact (v : Value) :
    JsonToken.tokens (v.toJson.compact.toList.map some) = v.toJson.tokens := by
  rw [Json.compact, String.toList_ofList, Json.compactChars_eq_flatMap_spelling,
    JsonToken.tokens_flatMap_spelling (isPlain_of_mem_tokens v)]

theorem tokens_pretty (v : Value) :
    JsonToken.tokens (v.toJson.pretty.toList.map some) = v.toJson.tokens := by
  rw [Json.pretty, String.toList_ofList, Json.prettyChars_eq_inLines,
    JsonToken.tokens_inLines 0 (isPlain_of_mem_tokens v)]

theorem readFrom_compact (v : Value) : v.ReadFrom v.toJson.compact :=
  readFrom_of_tokens (tokens_compact v)

theorem readFrom_pretty (v : Value) : v.ReadFrom v.toJson.pretty :=
  readFrom_of_tokens (tokens_pretty v)

end Value

end LinkedSheets
