import LinkedSheets.Proofs.FirstFailure
import LinkedSheets.Resolution.Materialize

/-!
# What a row comes to

The outcome of a row, apart from its events, is the sequence of its columns (`outcome_readRow`),
that of a list of references the sequence of its specifiers (`outcome_followAll`), and that of a
sheet the sequence of its rows (`outcome_sheet`). Keys that are taken play no part in whether a row
resolves: the columns are read first, and then the first one of each key is kept.

A row fails as the first of its columns that fails (`readRow_eq_error_iff`), and a column for want
of a key or as the first of its specifiers that fails (`readColumn_eq_error_iff`,
`readCell_eq_error_iff`).
-/

namespace LinkedSheets

/-- The specifiers in a cell. -/
def Cell.specs : Cell → List String
  | scalar _ => []
  | reference spec => [spec]
  | references specs => specs

/-- The specifier in a cell at a position. A list of references has one at each position, a single
reference has one without a position. -/
def Cell.spec? : Cell → (position : Option Nat) → Option String
  | reference spec, none => some spec
  | references specs, some n => specs[n]?
  | _, _ => none

theorem Cell.mem_specs_of_spec? {cell : Cell} {position : Option Nat} {spec : String}
    (h : cell.spec? position = some spec) : spec ∈ cell.specs := by
  unfold Cell.spec? at h
  split at h
  · obtain rfl := Option.some.inj h
    exact List.mem_singleton_self _
  · exact List.mem_of_getElem? h
  · simp at h

/-- The object of some columns: of those with one key the first counts. -/
def Value.ofColumns (columns : List (String × Value)) : Value :=
  .object (columns.eraseDupsBy (·.1 == ·.1))

theorem Row.against_eq_ofFn : ∀ (header : List String) (row : Row),
    Row.against header row = List.ofFn fun i : Fin header.length => (header.get i, row.cell i)
  | [], _ => by simp [Row.against]
  | column :: header, [] => by
    simp [Row.against, Row.cell, Row.against_eq_ofFn header, List.ofFn_succ]
  | column :: header, text :: row => by
    simp [Row.against, Row.cell, Row.against_eq_ofFn header, List.ofFn_succ]

namespace Resolver

section Columns

/-- The columns whose key is not taken, the first of each key. -/
def untaken (taken : List String) (columns : List (String × Value)) : List (String × Value) :=
  (columns.filter (·.1 ∉ taken)).eraseDupsBy (·.1 == ·.1)

theorem untaken_nil (columns : List (String × Value)) :
    .object (untaken [] columns) = Value.ofColumns columns := by
  rw [untaken, List.filter_eq_self.2 (by simp), Value.ofColumns]

theorem untaken_cons_of_mem {taken : List String} {key : String} (h : key ∈ taken) (value : Value)
    (columns : List (String × Value)) :
    untaken taken ((key, value) :: columns) = untaken taken columns := by
  simp [untaken, h]

theorem untaken_cons_of_not_mem {taken : List String} {key : String} (h : key ∉ taken)
    (value : Value) (columns : List (String × Value)) :
    untaken taken ((key, value) :: columns) = (key, value) :: untaken (key :: taken) columns := by
  simp only [untaken, h, not_false_eq_true, decide_true, List.filter_cons_of_pos,
    List.eraseDupsBy_cons, List.filter_filter]
  congr 3
  funext column
  by_cases hc : column.1 = key <;> simp [hc]

theorem mem_untaken_iff {key : String} {value : Value} :
    ∀ {taken : List String} {columns : List (String × Value)},
      (key, value) ∈ untaken taken columns ↔ key ∉ taken ∧ columns.lookup key = some value
  | taken, [] => by simp [untaken]
  | taken, (key', value') :: columns => by
    by_cases heq : key = key'
    · subst heq
      by_cases h : key ∈ taken
      · simp [untaken_cons_of_mem h, mem_untaken_iff, h]
      · simp [untaken_cons_of_not_mem h, mem_untaken_iff, h, eq_comm]
    · have hlookup : ((key', value') :: columns).lookup key = columns.lookup key := by
        rw [List.lookup_cons, beq_eq_false_iff_ne.2 heq]
      by_cases h : key' ∈ taken
      · rw [untaken_cons_of_mem h, mem_untaken_iff, hlookup]
      · rw [untaken_cons_of_not_mem h, hlookup]
        simp [mem_untaken_iff, heq]

theorem lookup_ofFn_eq_some_iff {n : Nat} {keys : Fin n → String} {values : Fin n → Value}
    {key : String} {value : Value} :
    (List.ofFn fun i => (keys i, values i)).lookup key = some value ↔
      ∃ i, (∀ j < i, keys j ≠ key) ∧ keys i = key ∧ values i = value := by
  have hfirst := exists_ofFn_eq_append_iff (g := fun i => (keys i, values i))
    (P := fun c => c.1 ≠ key) (Q := fun c => c = (key, value))
  simp only [Prod.mk.injEq] at hfirst
  rw [List.lookup_eq_some_iff, ← hfirst]
  constructor
  · rintro ⟨before, after, hl, hb⟩
    exact ⟨before, (key, value), after, hl, fun c hc => (bne_iff_ne.1 (hb c hc)).symm, rfl⟩
  · rintro ⟨before, _, after, hl, hb, rfl⟩
    exact ⟨before, after, hl, fun c hc => bne_iff_ne.2 (hb c hc).symm⟩

end Columns

variable (r : Resolver) (w : Workbook) (deeper : Option RowReader)

/-- What a step of the resolver is given, where at most `depth` references may be followed. -/
def deeperAt : (depth : Nat) → Option RowReader
  | 0 => none
  | depth + 1 => some (r.resolve w depth)

theorem resolve_eq_readRow : ∀ depth : Nat, r.resolve w depth = r.readRow w (r.deeperAt w depth)
  | 0 => rfl
  | _ + 1 => rfl

section Outcomes

/-- The key and the value of a column, given the text of its cell. -/
def readColumn (path : FieldPath) (column : String × String) :
    Except ResolutionFailure (String × Value) := do
  let key ← r.keyOf column.1 (.classify column.2)
  let value ← (readCell r w deeper (path ++ [column.1]) (.classify column.2)).outcome
  pure (key, value)

theorem outcome_followAll (path : FieldPath) : ∀ (position : Nat) (specs : List String),
    (followAll r w deeper path position specs).outcome
      = (specs.zipIdx position).mapM fun (spec, i) =>
          (follow r w deeper (path ++ [i.repr]) spec).outcome
  | _, [] => rfl
  | position, spec :: specs => by
    simp only [followAll, List.zipIdx_cons, List.mapM_cons, Traced.outcome_bind,
      outcome_followAll, Traced.outcome_pure, pure_eq_ok]

theorem outcome_readCell_references (path : FieldPath) (specs : List String) :
    (readCell r w deeper path (.references specs)).outcome
      = .array <$> specs.zipIdx.mapM fun (spec, i) =>
          (follow r w deeper (path ++ [i.repr]) spec).outcome := by
  simp only [readCell, Traced.outcome_bind, outcome_followAll, Traced.outcome_pure]
  rfl

/-- A column whose key is taken is read like any other, and only then left out. -/
theorem outcome_readFields (path : FieldPath) :
    ∀ (taken : List String) (columns : List (String × String)),
      (readFields r w deeper path taken columns).outcome
        = untaken taken <$> columns.mapM (readColumn r w deeper path)
  | _, [] => rfl
  | taken, (column, text) :: columns => by
    simp only [readFields, List.mapM_cons, readColumn, Traced.outcome_bind, Traced.outcome_ofExcept]
    rcases r.keyOf column (.classify text) with e | key
    · rfl
    rcases (readCell r w deeper (path ++ [column]) (.classify text)).outcome with e | value
    · rfl
    by_cases h : key ∈ taken
    · simp only [ok_bind, pure_eq_ok, List.contains_iff_mem.2 h, if_true, Traced.outcome_bind,
        Traced.outcome_emit, outcome_readFields path taken columns]
      rcases columns.mapM (readColumn r w deeper path) with e | cs
      · rfl
      · simp [untaken_cons_of_mem h]
    · simp only [ok_bind, pure_eq_ok, List.contains_iff_mem, h, if_false, Traced.outcome_bind,
        outcome_readFields path (key :: taken) columns]
      rcases columns.mapM (readColumn r w deeper path) with e | cs
      · rfl
      · simp [untaken_cons_of_not_mem h]

theorem outcome_readRow (path : FieldPath) (header : List String) (row : Row) :
    (readRow r w deeper path header row).outcome
      = Value.ofColumns <$> (List.ofFn fun i : Fin header.length => (header.get i, row.cell i)).mapM
          (readColumn r w deeper path) := by
  rw [← Row.against_eq_ofFn]
  simp only [readRow, Traced.outcome_bind, outcome_readFields]
  rcases (Row.against header row).mapM (readColumn r w deeper path) with e | cs
  · rfl
  · exact congrArg Except.ok (untaken_nil cs)

theorem outcome_readRows (sheet : Sheet) : ∀ rows : List (Row × Nat),
    (r.readRows w sheet rows).outcome
      = rows.mapM fun p => (r.resolveDataRow w sheet p.2 p.1).outcome
  | [] => rfl
  | (row, index) :: rows => by
    simp only [readRows, List.mapM_cons, Traced.outcome_bind, outcome_readRows sheet rows,
      Traced.outcome_pure, pure_eq_ok]

theorem openSheet_of_some {w : Workbook} {name : String} {sheet : Sheet}
    (h : w.sheet? name = some sheet) :
    openSheet w name = ⟨[.materializing name sheet.dataRows.length], .ok sheet⟩ := by
  rw [openSheet, h]
  rfl

theorem outcome_sheet_of_none {name : String} (h : w.sheet? name = none) :
    (r.sheet w name).outcome = .error (.unknownSheet name []) := by
  simp [Resolver.sheet, openSheet, h, Traced.outcome_bind]

/-- A sheet comes to the sequence of its data rows. -/
theorem outcome_sheet {name : String} {sheet : Sheet} (h : w.sheet? name = some sheet) :
    (r.sheet w name).outcome
      = sheet.dataRows.zipIdx.mapM fun p => (r.resolveDataRow w sheet p.2 p.1).outcome := by
  simp only [Resolver.sheet, openSheet, h, Traced.outcome_bind, Traced.outcome_emit,
    Traced.outcome_pure, ok_bind, outcome_readRows]
  exact bind_pure _

/-- The sheet resolves, each of its data rows to its value. -/
structure RowsResolve (r : Resolver) (w : Workbook) (name : String) (sheet : Sheet)
    (value : Fin sheet.dataRows.length → Value) : Prop where
  sheet_eq : w.sheet? name = some sheet
  outcome : (r.sheet w name).outcome = .ok (List.ofFn value)
  row : ∀ i : Fin sheet.dataRows.length,
    (r.resolveDataRow w sheet i (sheet.dataRows.get i)).outcome = .ok (value i)

end Outcomes

section Inversion

variable {r w deeper} {path : FieldPath} {e : ResolutionFailure}

theorem outcome_sheet_eq_ok_iff {name : String} {values : List Value} :
    (r.sheet w name).outcome = .ok values ↔
      ∃ (sheet : Sheet) (value : Fin sheet.dataRows.length → Value),
        r.RowsResolve w name sheet value ∧ values = List.ofFn value := by
  constructor
  · intro h
    rcases hs : w.sheet? name with _ | sheet
    · rw [outcome_sheet_of_none r w hs] at h
      cases h
    have hrows := h
    rw [outcome_sheet r w hs, zipIdx_eq_ofFn, mapM_ofFn_eq_ok_iff] at hrows
    obtain ⟨value, rfl, hvalue⟩ := hrows
    exact ⟨sheet, value, ⟨hs, h, hvalue⟩, rfl⟩
  · rintro ⟨sheet, value, h, rfl⟩
    exact h.outcome

theorem keyOf_eq_ok_iff {column key : String} {cell : Cell} :
    r.keyOf column cell = .ok key ↔ r.keys.key? column cell.isReference = some key := by
  unfold keyOf
  split <;> simp_all

theorem keyOf_eq_error_iff {column : String} {cell : Cell} :
    r.keyOf column cell = .error e ↔
      r.keys.key? column cell.isReference = none ∧ e = .missingKey column := by
  unfold keyOf
  rcases r.keys.key? column cell.isReference with _ | key <;> simp [eq_comm]

theorem readColumn_eq_ok_iff {column : String × String} {c : String × Value} :
    readColumn r w deeper path column = .ok c ↔
      r.keys.key? column.1 (Cell.classify column.2).isReference = some c.1
        ∧ (readCell r w deeper (path ++ [column.1]) (.classify column.2)).outcome = .ok c.2 := by
  simp only [readColumn, bind_eq_ok_iff, pure_eq_ok, Except.ok.injEq, keyOf_eq_ok_iff]
  constructor
  · rintro ⟨key, hk, value, hv, rfl⟩
    exact ⟨hk, hv⟩
  · rintro ⟨hk, hv⟩
    exact ⟨_, hk, _, hv, rfl⟩

theorem readColumn_eq_error_iff {column : String × String} :
    readColumn r w deeper path column = .error e ↔
      r.keyOf column.1 (.classify column.2) = .error e
        ∨ ∃ key, r.keys.key? column.1 (Cell.classify column.2).isReference = some key
          ∧ (readCell r w deeper (path ++ [column.1]) (.classify column.2)).outcome = .error e := by
  simp only [readColumn, bind_eq_error_iff, pure_eq_ok, reduceCtorEq, and_false, exists_false,
    or_false, keyOf_eq_ok_iff]

/-- A cell fails as the first of its specifiers does that fails. -/
theorem readCell_eq_error_iff {cell : Cell} : (readCell r w deeper path cell).outcome = .error e ↔
    ∃ position spec, cell.spec? position = some spec
      ∧ (follow r w deeper (path ++ (position.map Nat.repr).toList) spec).outcome = .error e
      ∧ ∀ n ∈ position, ∀ m < n, ∃ s v, cell.spec? (some m) = some s
        ∧ (follow r w deeper (path ++ [m.repr]) s).outcome = .ok v := by
  cases cell with
  | scalar text => simp [readCell, Cell.spec?]
  | reference spec =>
    constructor
    · intro h
      exact ⟨none, spec, rfl, by simpa [readCell] using h, by simp⟩
    · rintro ⟨_ | n, spec', hspec, h, -⟩
      · obtain rfl := Option.some.inj hspec
        simpa [readCell] using h
      · nomatch hspec
  | references specs =>
    rw [outcome_readCell_references, map_eq_error_iff, zipIdx_eq_ofFn, mapM_ofFn_eq_error_iff]
    constructor
    · rintro ⟨i, hbefore, hi⟩
      refine ⟨some i, specs.get i, by simp [Cell.spec?], hi, fun n hn m hm => ?_⟩
      obtain rfl := Option.mem_some.1 hn
      have hlt : m < specs.length := by omega
      obtain ⟨v, hv⟩ := hbefore ⟨m, hlt⟩ hm
      exact ⟨specs.get ⟨m, hlt⟩, v, by simp [Cell.spec?, hlt], hv⟩
    · rintro ⟨_ | n, spec, hspec, h, hfirst⟩
      · nomatch hspec
      · obtain ⟨hlt, rfl⟩ := List.getElem?_eq_some_iff.1 hspec
        refine ⟨⟨n, hlt⟩, fun j hj => ?_, h⟩
        obtain ⟨s, v, hs, hv⟩ := hfirst n rfl j hj
        obtain ⟨hj', rfl⟩ := List.getElem?_eq_some_iff.1 hs
        exact ⟨v, hv⟩

/-- A row fails as the first of its columns does that fails. -/
theorem readRow_eq_error_iff {header : List String} {row : Row} :
    (readRow r w deeper path header row).outcome = .error e ↔
      ∃ i : Fin header.length,
        (∀ j < i, ∃ c, readColumn r w deeper path (header.get j, row.cell j) = .ok c)
          ∧ readColumn r w deeper path (header.get i, row.cell i) = .error e := by
  rw [outcome_readRow, map_eq_error_iff, mapM_ofFn_eq_error_iff]

end Inversion

section Comparison

variable {r r' : Resolver} {w w' : Workbook} {deeper deeper' : Option RowReader}
  {excused : ResolutionFailure → Prop}

theorem readCell_sameUnless
    (hfollow : ∀ path spec, SameUnless excused (follow r w deeper path spec).outcome
      (follow r' w' deeper' path spec).outcome) (path : FieldPath) (cell : Cell) :
    SameUnless excused (readCell r w deeper path cell).outcome
      (readCell r' w' deeper' path cell).outcome := by
  cases cell with
  | scalar text => exact .refl _
  | reference spec => exact hfollow path spec
  | references specs =>
    rw [outcome_readCell_references, outcome_readCell_references]
    exact .map _ (.mapM (fun _ => hfollow _ _) _)

/-- Two resolvers with the same keys read rows alike as far as they follow specifiers alike. -/
theorem readRow_sameUnless (hkeys : r.keys = r'.keys)
    (hfollow : ∀ path spec, SameUnless excused (follow r w deeper path spec).outcome
      (follow r' w' deeper' path spec).outcome) (path : FieldPath) (header : List String)
    (row : Row) : SameUnless excused (readRow r w deeper path header row).outcome
      (readRow r' w' deeper' path header row).outcome := by
  rw [outcome_readRow, outcome_readRow]
  refine .map _ (.mapM (fun (column, text) => ?_) _)
  simp only [readColumn, keyOf, hkeys]
  exact .bind (.refl _) fun _ => .bind (readCell_sameUnless hfollow _ _) fun _ => .refl _

end Comparison

end Resolver

end LinkedSheets
