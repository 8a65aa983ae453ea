import LinkedSheets.Proofs.CellGrammar
import LinkedSheets.Proofs.Embedded

/-!
# The shape of a resolved value

In the value of a row no reference is left. A field holds a plain text, which is that of a cell as
it stands or the empty one, or the object of another row, or a list of such objects, which is never
empty (`RowValue.proper_of_holds`).

Every object in the value, but for the value itself, was come to by following a reference, so on no
way down are there more objects than references that may be followed, and one
(`RowValue.countP_isObject_le`).
-/

namespace LinkedSheets

open Value

section Plain

theorem isPrefixOf?_eq_none_iff {cs ds : List Char} : cs.isPrefixOf? ds = none ↔ ¬ cs <+: ds := by
  rw [Option.eq_none_iff_forall_ne_some]
  constructor
  · rintro h ⟨rest, hrest⟩
    exact h rest (List.isPrefixOf?_eq_some_iff_append_eq.2 hrest)
  · intro h rest hrest
    exact h ⟨rest, List.isPrefixOf?_eq_some_iff_append_eq.1 hrest⟩

/-- Plain texts are the texts without a tag. -/
theorem Cell.classify_eq_scalar_iff {text s : String} :
    classify text = .scalar s ↔
      s = text ∧ ¬ referenceTag.toList <+: text.toList
        ∧ ¬ referencesTag.toList <+: text.toList := by
  rw [← isPrefixOf?_eq_none_iff, ← isPrefixOf?_eq_none_iff, classify]
  rcases referencesTag.toList.isPrefixOf? text.toList with _ | specs
  · rcases referenceTag.toList.isPrefixOf? text.toList with _ | spec <;> simp [eq_comm]
  · simp

end Plain

namespace Value

def isObject : Value → Bool
  | object _ => true
  | _ => false

/-- One is a field or an item of the other. -/
def HasPart (v x : Value) : Prop :=
  ∃ step, v.Holds [step] x

/-- Such values as there are in that of a row: texts without a tag, taken from a cell of the row or
of a data row of the workbook, lists of objects with at least one, and objects. -/
inductive Proper (w : Workbook) (row : Row) : Value → Prop
  | scalar {text : String} (hplain : ¬ Cell.referenceTag.toList <+: text.toList
        ∧ ¬ Cell.referencesTag.toList <+: text.toList) (hcell : Cell.classify text = .scalar text)
      (hfrom : text = "" ∨ text ∈ row ∨ ∃ d : DataRow w, text ∈ d.row) : Proper w row (.scalar text)
  | array {items : List Value} (hne : items ≠ [])
      (hobjects : ∀ u ∈ items, ∃ fields, u = .object fields) : Proper w row (.array items)
  | object (fields : List (String × Value)) : Proper w row (.object fields)

theorem Proper.of_dataRow {w : Workbook} {row : Row} {d : DataRow w} {x : Value}
    (h : x.Proper w d.row) : x.Proper w row := by
  cases h with
  | scalar hplain hcell hfrom =>
    refine .scalar hplain hcell ?_
    rcases hfrom with hempty | hd | hother
    · exact .inl hempty
    · exact .inr (.inr ⟨d, hd⟩)
    · exact .inr (.inr hother)
  | array hne hobjects => exact .array hne hobjects
  | object fields => exact .object fields

theorem holds_cons_iff {v x : Value} {step : Step} {path : List Step} :
    v.Holds (step :: path) x ↔ ∃ u, v.Holds [step] u ∧ u.Holds path x := by
  constructor
  · intro h
    cases h with
    | field hmem hu => exact ⟨_, .field hmem (.self _), hu⟩
    | item hn hu => exact ⟨_, .item hn (.self _), hu⟩
  · rintro ⟨u, hv, hu⟩
    cases hv with
    | field hmem hself =>
      obtain rfl := holds_nil_iff.1 hself
      exact .field hmem hu
    | item hn hself =>
      obtain rfl := holds_nil_iff.1 hself
      exact .item hn hu

theorem not_hasPart_scalar {text : String} {x : Value} : ¬ (scalar text).HasPart x := by
  rintro ⟨step, hx⟩
  cases hx

theorem hasPart_array_iff {items : List Value} {x : Value} :
    (array items).HasPart x ↔ x ∈ items := by
  rw [List.mem_iff_getElem?]
  constructor
  · rintro ⟨step, hx⟩
    cases hx with
    | @item _ n _ _ _ hn hself =>
      obtain rfl := holds_nil_iff.1 hself
      exact ⟨n, hn⟩
  · rintro ⟨n, hn⟩
    exact ⟨.item n, .item hn (.self x)⟩

end Value

variable {keys : KeyNaming} {w : Workbook} {height : Nat} {header : List String} {row : Row}
  {v x : Value}

/-- The value of a data row that a specifier leads to. -/
def IsFollowed (keys : KeyNaming) (w : Workbook) (height : Nat) (x : Value) : Prop :=
  ∃ height', height = height' + 1 ∧ ∃ d : DataRow w, RowValue keys w height' d.sheet.header d.row x

theorem SpecValue.isFollowed {spec : String} (h : SpecValue keys w height spec x) :
    IsFollowed keys w height x := by
  cases height with
  | zero => exact absurd h not_specValue_zero
  | succ height =>
    obtain ⟨d, -, hd⟩ := specValue_succ_iff.1 h
    exact ⟨height, rfl, d, hd⟩

/-- A part of the value of a row is the plain text of a cell, or the value of a row that was
followed, or a list of such values. -/
theorem RowValue.cases_hasPart (h : RowValue keys w height header row v) (hx : v.HasPart x) :
    (∃ i, Cell.classify (row.cell i) = .scalar (row.cell i) ∧ x = .scalar (row.cell i))
      ∨ IsFollowed keys w height x
      ∨ ∃ items, items ≠ [] ∧ (∀ u ∈ items, IsFollowed keys w height u) ∧ x = .array items := by
  obtain ⟨key, value, -, hvalue, rfl⟩ := rowValue_iff.1 h
  obtain ⟨step, hx⟩ := hx
  rw [← Resolver.untaken_nil] at hx
  cases hx with
  | field hmem hself =>
    obtain rfl := holds_nil_iff.1 hself
    obtain ⟨-, hlookup⟩ := Resolver.mem_untaken_iff.1 hmem
    obtain ⟨i, -, -, rfl⟩ := Resolver.lookup_ofFn_eq_some_iff.1 hlookup
    have hi := hvalue i
    rcases hcell : Cell.classify (row.cell i) with text | spec | specs <;> rw [hcell] at hi
    · obtain ⟨rfl, -⟩ := Cell.classify_eq_scalar_iff.1 hcell
      generalize value i = x at hi
      cases hi
      exact .inl ⟨i, hcell, rfl⟩
    · generalize value i = x at hi
      cases hi with
      | reference hs => exact .inr (.inl hs.isFollowed)
    · generalize value i = x at hi
      cases hi with
      | references items hs =>
        refine .inr (.inr ⟨_, ?_, fun u hu => ?_, rfl⟩)
        · have hne := (Cell.classify_eq_iff.1 hcell).1.1
          simpa [List.ofFn_eq_nil_iff] using hne
        · obtain ⟨n, rfl⟩ := List.mem_ofFn.1 hu
          exact (hs n).isFollowed

theorem Row.cell_eq_or_mem (row : Row) (i : Nat) : row.cell i = "" ∨ row.cell i ∈ row := by
  rcases hi : row[i]? with _ | text
  · exact .inl (by simp [Row.cell, hi])
  · exact .inr (by simpa [Row.cell, hi] using List.mem_of_getElem? hi)

theorem IsFollowed.exists_object (h : IsFollowed keys w height x) :
    ∃ fields, x = .object fields := by
  obtain ⟨height', -, d, hd⟩ := h
  exact hd.exists_object

/-- All that is in the value of a row is as it should be. -/
theorem RowValue.proper_of_holds : ∀ {height : Nat} {header : List String} {row : Row} {v : Value},
    RowValue keys w height header row v → ∀ {path : List Step} {x : Value}, v.Holds path x →
      x.Proper w row
  | height, header, row, v, h, [], x, hx => by
    obtain rfl := holds_nil_iff.1 hx
    obtain ⟨fields, rfl⟩ := h.exists_object
    exact .object fields
  | height, header, row, v, h, step :: path, x, hx => by
    have hrows : ∀ {u : Value} {path' : List Step}, IsFollowed keys w height u →
        u.Holds path' x → x.Proper w row := by
      rintro u path' ⟨height', rfl, d, hd⟩ hu
      exact (hd.proper_of_holds hu).of_dataRow
    obtain ⟨u, hu, hx⟩ := holds_cons_iff.1 hx
    rcases h.cases_hasPart ⟨step, hu⟩ with ⟨i, hcell, rfl⟩ | hrow | ⟨items, hne, hitems, rfl⟩
    · cases hx
      obtain ⟨-, hplain⟩ := Cell.classify_eq_scalar_iff.1 hcell
      exact .scalar hplain hcell ((row.cell_eq_or_mem i).imp_right .inl)
    · exact hrows hrow hx
    · cases path with
      | nil =>
        obtain rfl := holds_nil_iff.1 hx
        exact .array hne fun u hu => (hitems u hu).exists_object
      | cons step' path =>
        obtain ⟨u, hu, hx⟩ := holds_cons_iff.1 hx
        exact hrows (hitems u (hasPart_array_iff.1 ⟨step', hu⟩)) hx

/-- On a way down from the value of a row there is one object more than references followed. -/
theorem RowValue.countP_isObject_le : ∀ {height : Nat} {header : List String} {row : Row}
    {v : Value}, RowValue keys w height header row v → ∀ {way : List Value},
      List.IsChain HasPart (v :: way) → (v :: way).countP isObject ≤ height + 1
  | height, header, row, v, h, [], _ => by
    rw [List.countP_singleton]
    split <;> omega
  | height, header, row, v, h, u :: way, .cons_cons hu hway => by
    have hrows : ∀ {x : Value} {way' : List Value}, IsFollowed keys w height x →
        List.IsChain HasPart (x :: way') → (x :: way').countP isObject ≤ height := by
      rintro x way' ⟨height', rfl, d, hd⟩ hway'
      exact hd.countP_isObject_le hway'
    have hv : (v :: u :: way).countP isObject ≤ (u :: way).countP isObject + 1 := by
      rw [List.countP_cons]
      split <;> omega
    have hle : (u :: way).countP isObject ≤ height := by
      rcases h.cases_hasPart hu with ⟨i, -, rfl⟩ | hrow | ⟨items, -, hitems, rfl⟩
      · cases way with
        | nil => simp [isObject]
        | cons x way =>
          cases hway with
          | cons_cons hx _ => exact absurd hx not_hasPart_scalar
      · exact hrows hrow hway
      · rw [List.countP_cons_of_neg (by simp [isObject])]
        cases way with
        | nil => simp
        | cons x way =>
          cases hway with
          | cons_cons hx hway => exact hrows (hitems x (hasPart_array_iff.1 hx)) hway
    omega

/-- What a row resolves to is an object. All that is in it is a plain text of a cell, or a list of
objects that is not empty, or an object, and no way down from it has more objects than the limit,
and one. -/
theorem resolveRow_shape (r : Resolver) (w : Workbook) {header : List String} {row : Row}
    {v : Value} (h : (r.resolveRow w header row).outcome = .ok v) :
    (∃ fields, v = .object fields)
      ∧ (∀ path x, v.Holds path x → x.Proper w row)
      ∧ ∀ way : List Value, List.IsChain HasPart (v :: way) →
        (v :: way).countP isObject ≤ r.maxDepth + 1 := by
  have hv : RowValue r.keys w r.maxDepth header row v := (resolve_eq_ok_iff r.maxDepth).1 h
  exact ⟨hv.exists_object, fun path x hx => hv.proper_of_holds hx,
    fun way hway => hv.countP_isObject_le hway⟩

/-- With two references there is a way through three objects, by the owner to a telephone. -/
theorem resolveRow_shape_accounts :
    (Resolver.resolveRow ⟨.verbatim, 2⟩ accounts ["owner"] ["reference:contact@who#c"]).outcome
        = .ok accountValue
      ∧ (∀ path x, accountValue.Holds path x → x.Proper accounts ["reference:contact@who#c"])
      ∧ (∀ way : List Value, List.IsChain HasPart (accountValue :: way) →
        (accountValue :: way).countP isObject ≤ 3)
      ∧ ∃ way : List Value, List.IsChain HasPart (accountValue :: way)
        ∧ (accountValue :: way).countP isObject = 3 := by
  have h : (Resolver.resolveRow ⟨.verbatim, 2⟩ accounts ["owner"]
      ["reference:contact@who#c"]).outcome = .ok accountValue := rfl
  obtain ⟨-, hproper, hcount⟩ := resolveRow_shape _ _ h
  refine ⟨h, hproper, hcount, [_, _, .object [("id", .scalar "p"), ("number", .scalar "555")]],
    .cons_cons ⟨.field "owner", .field List.mem_cons_self (.self _)⟩ (.cons_cons
      ⟨.field "phones", .field (List.mem_cons_of_mem _ List.mem_cons_self) (.self _)⟩
      (.cons_cons ⟨.item 0, .item rfl (.self _)⟩ (.singleton _))), rfl⟩

end LinkedSheets
