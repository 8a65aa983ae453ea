import LinkedSheets.Proofs.RowValue

/-!
# Rows inside rows

A path into a value goes from objects to fields, by key, and from arrays to items, by position. A
path into a row goes to cells: to that of a field, which is the one of the first column with that
key, and through a specifier in it to the cells of the row that the specifier selects (`CellAt`).

Along a path the two stay together. What is in the value of a row at the path of a cell is the value
of the cell, and nothing else is there (`RowValue.exists_cellValue_at`). What a specifier embeds is
the value of the row that it selects (`RowValue.exists_rowValue_at`), and an object is always
embedded by a specifier (`RowValue.exists_embeds`). Values do not depend on how the row was come to,
nor on the height as long as it suffices, so an embedded row is what the row resolves to by itself
(`resolveRow_of_embeds`).
-/

namespace LinkedSheets

namespace Value

/-- A step into a value, to the field of a key or to the item at a position. -/
inductive Step where
  | field (key : String)
  | item (position : Nat)

/-- The value has the other one in it, at a path. -/
inductive Holds : Value → List Step → Value → Prop
  | self (v : Value) : Holds v [] v
  | field {fields : List (String × Value)} {key : String} {u x : Value} {path : List Step}
      (h : (key, u) ∈ fields) (hu : Holds u path x) : Holds (.object fields) (.field key :: path) x
  | item {items : List Value} {position : Nat} {u x : Value} {path : List Step}
      (h : items[position]? = some u) (hu : Holds u path x) :
      Holds (.array items) (.item position :: path) x

variable {v x : Value} {path : List Step}

@[simp] theorem holds_nil_iff : v.Holds [] x ↔ x = v := by
  constructor
  · rintro ⟨⟩
    rfl
  · rintro rfl
    exact .self x

theorem holds_field_iff {fields : List (String × Value)} {key : String} :
    (object fields).Holds (.field key :: path) x ↔ ∃ u, (key, u) ∈ fields ∧ u.Holds path x := by
  constructor
  · rintro ⟨⟩
    exact ⟨_, ‹_›, ‹_›⟩
  · rintro ⟨u, hmem, hu⟩
    exact .field hmem hu

theorem holds_item_iff {items : List Value} {position : Nat} :
    (array items).Holds (.item position :: path) x ↔
      ∃ u, items[position]? = some u ∧ u.Holds path x := by
  constructor
  · rintro ⟨⟩
    exact ⟨_, ‹_›, ‹_›⟩
  · rintro ⟨u, hu, hx⟩
    exact .item hu hx

end Value

open Value

/-- The cell that the field of a key comes from: of the columns with that key the first counts. -/
def FieldCell (keys : KeyNaming) (header : List String) (row : Row) (key : String) (cell : Cell) :
    Prop :=
  ∃ i : Fin header.length,
    (∀ j < i, keys.key? (header.get j) (Cell.classify (row.cell j)).isReference ≠ some key)
      ∧ keys.key? (header.get i) (Cell.classify (row.cell i)).isReference = some key
      ∧ Cell.classify (row.cell i) = cell

/-- The steps from the value of a cell to that of its specifier at a position. -/
def stepsTo (position : Option Nat) : List Step :=
  (position.map .item).toList

/-- The cell at a path, from a row that is read with a header. -/
inductive CellAt (keys : KeyNaming) (w : Workbook) :
    (header : List String) → Row → List Step → Cell → Prop
  | field {header : List String} {row : Row} {key : String} {cell : Cell}
      (h : FieldCell keys header row key cell) : CellAt keys w header row [.field key] cell
  | inside {header : List String} {row : Row} {key : String} {cell cell' : Cell}
      {position : Option Nat} {spec : String} {path : List Step}
      (h : FieldCell keys header row key cell) (hspec : cell.spec? position = some spec)
      (d : DataRow w) (hd : Selects spec d)
      (hinside : CellAt keys w d.sheet.header d.row path cell') :
      CellAt keys w header row (.field key :: (stepsTo position ++ path)) cell'

/-- The specifier of the reference that is at a path, or of the one that is there in a list. -/
def Embeds (keys : KeyNaming) (w : Workbook) (header : List String) (row : Row) (path : List Step)
    (spec : String) : Prop :=
  ∃ path' cell position, CellAt keys w header row path' cell ∧ cell.spec? position = some spec
    ∧ path = path' ++ stepsTo position

variable {keys : KeyNaming} {w : Workbook} {height : Nat} {header : List String} {row : Row}

theorem Embeds.inside {key spec spec' : String} {cell : Cell} {position : Option Nat}
    {path : List Step} (h : FieldCell keys header row key cell)
    (hspec : cell.spec? position = some spec) {d : DataRow w} (hd : Selects spec d)
    (hinside : Embeds keys w d.sheet.header d.row path spec') :
    Embeds keys w header row (.field key :: (stepsTo position ++ path)) spec' := by
  obtain ⟨path', cell', position', hcell, hspec', rfl⟩ := hinside
  exact ⟨_, cell', position', .inside h hspec d hd hcell, hspec', by simp⟩

section Step

variable {v u x : Value} {key spec : String} {cell : Cell} {position : Option Nat}
  {path : List Step}

/-- Behind a key a row holds what the value of the field's cell holds, and nothing else. -/
theorem RowValue.exists_cellValue (h : RowValue keys w height header row v)
    (hcell : FieldCell keys header row key cell) :
    ∃ u, CellValue keys w height cell u ∧ ∀ path x, v.Holds (.field key :: path) x ↔
      u.Holds path x := by
  obtain ⟨keyOf, valueOf, hkey, hvalue, rfl⟩ := rowValue_iff.1 h
  obtain ⟨i, hfirst, hi, rfl⟩ := hcell
  simp only [hkey, ne_eq, Option.some.injEq] at hfirst hi
  refine ⟨valueOf i, hvalue i, fun path x => ?_⟩
  rw [← Resolver.untaken_nil, holds_field_iff]
  simp only [Resolver.mem_untaken_iff, Resolver.lookup_ofFn_eq_some_iff]
  constructor
  · rintro ⟨u, ⟨-, j, hfirst', hj, rfl⟩, hu⟩
    rcases Nat.lt_trichotomy i j with hlt | hij | hlt
    · exact absurd hi (hfirst' i hlt)
    · rwa [Fin.ext hij]
    · exact absurd hj (hfirst j hlt)
  · intro hu
    exact ⟨valueOf i, ⟨List.not_mem_nil, i, hfirst, hi, rfl⟩, hu⟩

theorem RowValue.exists_fieldCell (h : RowValue keys w height header row v)
    (hx : v.Holds (.field key :: path) x) : ∃ cell, FieldCell keys header row key cell := by
  obtain ⟨keyOf, valueOf, hkey, hvalue, rfl⟩ := rowValue_iff.1 h
  rw [← Resolver.untaken_nil, holds_field_iff] at hx
  obtain ⟨u, hmem, -⟩ := hx
  obtain ⟨-, hlookup⟩ := Resolver.mem_untaken_iff.1 hmem
  obtain ⟨i, hfirst, rfl, -⟩ := Resolver.lookup_ofFn_eq_some_iff.1 hlookup
  refine ⟨_, i, fun j hj => ?_, hkey i, rfl⟩
  rw [hkey j]
  exact fun heq => hfirst j hj (Option.some.inj heq)

/-- At a position a cell holds what the value of the specifier there holds, and nothing else. -/
theorem CellValue.exists_specValue_at (h : CellValue keys w height cell u)
    (hspec : cell.spec? position = some spec) :
    ∃ x, SpecValue keys w height spec x ∧ ∀ path y, u.Holds (stepsTo position ++ path) y ↔
      x.Holds path y := by
  cases h with
  | scalar text => simp [Cell.spec?] at hspec
  | reference hv =>
    rcases position with _ | n
    · obtain rfl := Option.some.inj hspec
      exact ⟨u, hv, fun path y => by simp [stepsTo]⟩
    · simp [Cell.spec?] at hspec
  | @references _ specs value hv =>
    rcases position with _ | n
    · simp [Cell.spec?] at hspec
    · obtain ⟨hlt, rfl⟩ := List.getElem?_eq_some_iff.1 hspec
      refine ⟨value ⟨n, hlt⟩, hv ⟨n, hlt⟩, fun path y => ?_⟩
      simp [stepsTo, holds_item_iff, hlt]

/-- An object in a cell is that of a specifier, or in it. -/
theorem CellValue.exists_spec?_of_holds (h : CellValue keys w height cell u)
    {fields : List (String × Value)} (hx : u.Holds path (.object fields)) :
    ∃ position spec path', cell.spec? position = some spec ∧ path = stepsTo position ++ path' := by
  cases h with
  | scalar text => cases hx
  | @reference _ spec _ hv => exact ⟨none, spec, path, rfl, rfl⟩
  | @references _ specs value hv =>
    cases hx with
    | @item _ n _ _ path' hn hx =>
      have hlt : n < specs.length := by
        by_contra hle
        simp [hle] at hn
      exact ⟨some n, specs.get ⟨n, hlt⟩, path', by simp [Cell.spec?, hlt], rfl⟩

end Step

section Path

/-- At the path of a cell, the value of a row holds the value of the cell, and nothing else. -/
theorem RowValue.exists_cellValue_at {path : List Step} {cell : Cell}
    (hcell : CellAt keys w header row path cell) : ∀ {height : Nat} {v : Value},
      RowValue keys w height header row v → ∃ height' ≤ height, ∃ u,
        CellValue keys w height' cell u ∧ ∀ path' x, v.Holds (path ++ path') x ↔
          u.Holds path' x := by
  induction hcell with
  | field h =>
    intro height v hv
    obtain ⟨u, hu, hholds⟩ := hv.exists_cellValue h
    exact ⟨height, Nat.le_refl _, u, hu, hholds⟩
  | inside h hspec d hd _ ih =>
    intro height v hv
    obtain ⟨u, hu, hfield⟩ := hv.exists_cellValue h
    obtain ⟨x, hx, hstep⟩ := hu.exists_specValue_at hspec
    cases height with
    | zero => exact absurd hx not_specValue_zero
    | succ height =>
      obtain ⟨d', hd', hx'⟩ := specValue_succ_iff.1 hx
      obtain rfl := hd.unique hd'
      obtain ⟨height', hle, y, hy, hholds⟩ := ih hx'
      refine ⟨height', by omega, y, hy, fun path' z => ?_⟩
      rw [List.cons_append, List.append_assoc, hfield, hstep, hholds]

/-- What a specifier embeds is the value of the row that it selects, at a lower height. -/
theorem RowValue.exists_rowValue_at {v : Value} (hv : RowValue keys w height header row v)
    {path : List Step} {spec : String} (h : Embeds keys w header row path spec) :
    ∃ height' ≤ height, ∃ (d : DataRow w) (x : Value), Selects spec d
      ∧ RowValue keys w height' d.sheet.header d.row x ∧ ∀ path' y, v.Holds (path ++ path') y ↔
        x.Holds path' y := by
  obtain ⟨path', cell, position, hcell, hspec, rfl⟩ := h
  obtain ⟨height', hle, u, hu, hholds⟩ := RowValue.exists_cellValue_at hcell hv
  obtain ⟨x, hx, hstep⟩ := hu.exists_specValue_at hspec
  cases height' with
  | zero => exact absurd hx not_specValue_zero
  | succ height' =>
    obtain ⟨d, hd, hx'⟩ := specValue_succ_iff.1 hx
    refine ⟨height', by omega, d, x, hd, hx', fun path'' y => ?_⟩
    rw [List.append_assoc, hholds, hstep]

/-- An object in the value of a row is the value itself, or it is embedded by a specifier. -/
theorem RowValue.exists_embeds : ∀ {height : Nat} {header : List String} {row : Row} {v : Value},
    RowValue keys w height header row v → ∀ {path : List Step} {fields : List (String × Value)},
      path ≠ [] → v.Holds path (.object fields) → ∃ spec, Embeds keys w header row path spec
  | height, header, row, v, hv, path, fields, hpath, hx => by
    obtain ⟨fields', rfl⟩ := hv.exists_object
    cases hx with
    | self => exact absurd rfl hpath
    | @field _ key _ _ path hmem hheld =>
      have hx' : (Value.object fields').Holds (.field key :: path) (.object fields) :=
        .field hmem hheld
      obtain ⟨cell, hcell⟩ := hv.exists_fieldCell hx'
      obtain ⟨u, hu, hfield⟩ := hv.exists_cellValue hcell
      rw [hfield] at hx'
      obtain ⟨position, spec, path', hspec, rfl⟩ := hu.exists_spec?_of_holds hx'
      obtain ⟨x, hx, hstep⟩ := hu.exists_specValue_at hspec
      rw [hstep] at hx'
      by_cases hpath' : path' = []
      · subst hpath'
        exact ⟨spec, [.field key], cell, position, .field hcell, hspec, by simp⟩
      cases height with
      | zero => exact absurd hx not_specValue_zero
      | succ height =>
        obtain ⟨d, hd, hxv⟩ := specValue_succ_iff.1 hx
        obtain ⟨spec', hembeds⟩ := RowValue.exists_embeds hxv hpath' hx'
        exact ⟨spec', .inside hcell hspec hd hembeds⟩

end Path

section Resolved

variable {r : Resolver} {v : Value} (h : (r.resolveRow w header row).outcome = .ok v)
include h

theorem resolveRow_of_embeds {path : List Step} {spec : String}
    (he : Embeds r.keys w header row path spec) :
    ∃ (d : DataRow w) (fields : List (String × Value)), Selects spec d
      ∧ (r.resolveRow w d.sheet.header d.row).outcome = .ok (.object fields)
      ∧ ∀ u, v.Holds path u ↔ u = .object fields := by
  have hv : RowValue r.keys w r.maxDepth header row v := (resolve_eq_ok_iff r.maxDepth).1 h
  obtain ⟨height, hle, d, x, hd, hx, hholds⟩ := hv.exists_rowValue_at he
  obtain ⟨fields, rfl⟩ := hx.exists_object
  refine ⟨d, fields, hd, (resolve_eq_ok_iff r.maxDepth).2 (hx.mono hle), fun u => ?_⟩
  rw [← holds_nil_iff, ← hholds, List.append_nil]

/-- A list of references is an array with an item for each of its specifiers, in their order. -/
theorem exists_items_of_cellAt {path : List Step} {specs : List String}
    (hcell : CellAt r.keys w header row path (.references specs)) :
    ∃ items : List Value, (∀ u, v.Holds path u ↔ u = .array items) ∧ items.length = specs.length
      ∧ ∀ (n : Nat) (spec : String), specs[n]? = some spec →
        ∃ (d : DataRow w) (fields : List (String × Value)), Selects spec d
          ∧ items[n]? = some (Value.object fields)
          ∧ (r.resolveRow w d.sheet.header d.row).outcome = .ok (.object fields) := by
  have hv : RowValue r.keys w r.maxDepth header row v := (resolve_eq_ok_iff r.maxDepth).1 h
  obtain ⟨height, hle, u, hu, hholds⟩ := RowValue.exists_cellValue_at hcell hv
  cases hu with
  | references value hvalue =>
    refine ⟨List.ofFn value, fun u => ?_, List.length_ofFn, fun n spec hspec => ?_⟩
    · rw [← holds_nil_iff, ← hholds, List.append_nil]
    · have he : Embeds r.keys w header row (path ++ [.item n]) spec :=
        ⟨path, .references specs, some n, hcell, hspec, rfl⟩
      obtain ⟨d, fields, hd, hfields, hitem⟩ := resolveRow_of_embeds h he
      refine ⟨d, fields, hd, ?_, hfields⟩
      have hn := (hitem (.object fields)).2 rfl
      rw [hholds, holds_item_iff] at hn
      obtain ⟨u, hu, hx⟩ := hn
      rwa [holds_nil_iff.1 hx]

omit h

/-- An object in the value of a row is embedded by a specifier, and it is what the row that the
specifier selects resolves to by itself. A list of references is the array of such objects in the
order of its specifiers, and equal specifiers give equal ones. -/
theorem resolveRow_embedded (r : Resolver) (w : Workbook) {header : List String} {row : Row}
    {v : Value} (h : (r.resolveRow w header row).outcome = .ok v) :
    (∀ path fields, path ≠ [] → v.Holds path (.object fields) →
        ∃ spec, Embeds r.keys w header row path spec)
      ∧ (∀ path spec, Embeds r.keys w header row path spec →
        ∃ (d : DataRow w) (fields : List (String × Value)), Selects spec d
          ∧ (r.resolveRow w d.sheet.header d.row).outcome = .ok (.object fields)
          ∧ ∀ u, v.Holds path u ↔ u = .object fields)
      ∧ ∀ path specs, CellAt r.keys w header row path (.references specs) →
        ∃ items : List Value, (∀ u, v.Holds path u ↔ u = .array items) ∧ items.length = specs.length
          ∧ (∀ (n : Nat) (spec : String), specs[n]? = some spec →
            ∃ (d : DataRow w) (fields : List (String × Value)), Selects spec d
              ∧ items[n]? = some (Value.object fields)
              ∧ (r.resolveRow w d.sheet.header d.row).outcome = .ok (.object fields))
          ∧ ∀ m n : Nat, specs[m]? = specs[n]? → items[m]? = items[n]? := by
  have hv : RowValue r.keys w r.maxDepth header row v := (resolve_eq_ok_iff r.maxDepth).1 h
  refine ⟨fun path fields hpath hx => hv.exists_embeds hpath hx,
    fun path spec he => resolveRow_of_embeds h he, fun path specs hcell => ?_⟩
  obtain ⟨items, harray, hlen, hitems⟩ := exists_items_of_cellAt h hcell
  refine ⟨items, harray, hlen, hitems, fun m n hmn => ?_⟩
  rcases hm : specs[m]? with _ | spec
  · have hm' : specs.length ≤ m := List.getElem?_eq_none_iff.1 hm
    have hn' : specs.length ≤ n := List.getElem?_eq_none_iff.1 (hmn ▸ hm)
    rw [List.getElem?_eq_none (hlen ▸ hm'), List.getElem?_eq_none (hlen ▸ hn')]
  · obtain ⟨d, fields, hd, hmitem, hmfields⟩ := hitems m spec hm
    obtain ⟨d', fields', hd', hnitem, hnfields⟩ := hitems n spec (hmn ▸ hm)
    obtain rfl := hd.unique hd'
    rw [hmfields, Except.ok.injEq] at hnfields
    rw [hmitem, hnitem, hnfields]

end Resolved

section Accounts

/-- An account has an owner, and the owner two telephones, one of which is listed twice. -/
def accounts : Workbook where
  sheets := [⟨"account", [["owner"], ["reference:contact@who#c"]]⟩,
    ⟨"contact", [["who", "phones"], ["c", "listReference:phone@id#p,phone@id#q,phone@id#p"]]⟩,
    ⟨"phone", [["id", "number"], ["p", "555"], ["q", "556"]]⟩]
  sorted := by decide

/-- The third telephone of the owner. -/
def thirdPhone : List Step :=
  [.field "owner", .field "phones", .item 2]

theorem embeds_thirdPhone : Embeds .verbatim accounts ["owner"] ["reference:contact@who#c"]
    thirdPhone "phone@id#p" := by
  have howner : FieldCell .verbatim ["owner"] ["reference:contact@who#c"] "owner"
      (.reference "contact@who#c") := ⟨0, by decide, rfl, rfl⟩
  have hspec : (Cell.reference "contact@who#c").spec? none = some "contact@who#c" := rfl
  let contact : DataRow accounts :=
    ⟨⟨"contact", [["who", "phones"], ["c", "listReference:phone@id#p,phone@id#q,phone@id#p"]]⟩, 0,
      ["c", "listReference:phone@id#p,phone@id#q,phone@id#p"], rfl, rfl⟩
  have hcontact : Selects "contact@who#c" contact := ⟨⟨"contact", "who", "c"⟩, rfl, rfl, rfl⟩
  have hphones : FieldCell .verbatim contact.sheet.header contact.row "phones"
      (.references ["phone@id#p", "phone@id#q", "phone@id#p"]) :=
    ⟨⟨1, by decide⟩, by decide, rfl, by decide⟩
  exact .inside howner hspec hcontact ⟨[.field "phones"], _, some 2, .field hphones, rfl, rfl⟩

def accountValue : Value :=
  .object [("owner", .object [("who", .scalar "c"), ("phones", .array [
    .object [("id", .scalar "p"), ("number", .scalar "555")],
    .object [("id", .scalar "q"), ("number", .scalar "556")],
    .object [("id", .scalar "p"), ("number", .scalar "555")]])])]

theorem resolveRow_embedded_thirdPhone :
    (Resolver.resolveRow ⟨.verbatim, 2⟩ accounts ["owner"] ["reference:contact@who#c"]).outcome
        = .ok accountValue
      ∧ ∃ (d : DataRow accounts) (fields : List (String × Value)), Selects "phone@id#p" d
        ∧ (Resolver.resolveRow ⟨.verbatim, 2⟩ accounts d.sheet.header d.row).outcome
          = .ok (.object fields)
        ∧ ∀ u, accountValue.Holds thirdPhone u ↔ u = .object fields := by
  have h : (Resolver.resolveRow ⟨.verbatim, 2⟩ accounts ["owner"]
      ["reference:contact@who#c"]).outcome = .ok accountValue := rfl
  exact ⟨h, (resolveRow_embedded _ _ h).2.1 thirdPhone "phone@id#p" embeds_thirdPhone⟩

end Accounts

end LinkedSheets
