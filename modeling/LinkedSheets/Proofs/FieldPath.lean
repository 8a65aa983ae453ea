import LinkedSheets.Proofs.RowValue

/-!
# Where a failure says it is

A failure that keeps a path keeps one that can be walked on the workbook. From the row that was
resolved the path names a column of its header, behind a list of references also the position in
it, and the specifier there selects the row that the path goes on from, with the header of that
row's own sheet. The specifier at its end is the one that fails (`exists_walk_of_resolve`).

It is also the first that could fail. Everything that is read before a place of the walk is in
order: the columns in front of it have keys and values, and so have the specifiers in front of it in
its list (`Place.First`). In a sheet, the row that the path begins in is the first that fails
(`walk_of_sheet_error`).
-/

namespace LinkedSheets

/-- The path that a failure keeps, if it keeps one. -/
def ResolutionFailure.field? : ResolutionFailure → Option FieldPath
  | unknownSheet _ field | rowNotFound field _ => some field
  | malformedSpec field _ | tooDeep _ field => some field
  | unknownColumn .. | missingKey _ => none

theorem FieldPath.text_ne_empty {first second : String} {rest : FieldPath} :
    FieldPath.text (first :: second :: rest) ≠ "" := by
  rw [FieldPath.text, String.intercalate_cons_cons]
  simp [String.append_eq_empty_iff]

/-- Each name behind the first one stands behind a dot. -/
theorem FieldPath.text_cons (first : String) (rest : FieldPath) :
    FieldPath.text (first :: rest) = first ++ String.join (rest.map ("." ++ ·)) := by
  induction rest generalizing first with
  | nil => simp [FieldPath.text]
  | cons second rest ih =>
    have hsecond : ".".intercalate (second :: rest) = second ++ String.join (rest.map ("." ++ ·)) :=
      ih second
    simp only [FieldPath.text, String.intercalate_cons_cons, hsecond, List.map_cons,
      String.join_cons, String.append_assoc]

/-- Where a specifier stands in a row that is read with a header. -/
structure Place (header : List String) (row : Row) where
  column : Fin header.length
  position : Option Nat
  spec : String
  spec_eq : (Cell.classify (row.cell column)).spec? position = some spec

namespace Place

variable {header : List String} {row : Row}

/-- The name of the column, and the position in decimal if there is one. -/
def segments (p : Place header row) : FieldPath :=
  header.get p.column :: (p.position.map Nat.repr).toList

/-- All that is read before the place is in order, where at most `height` references may be
followed. -/
structure First (keys : KeyNaming) (w : Workbook) (height : Nat) (p : Place header row) : Prop where
  columns : ∀ i < p.column, ∃ key value,
    keys.key? (header.get i) (Cell.classify (row.cell i)).isReference = some key
      ∧ CellValue keys w height (Cell.classify (row.cell i)) value
  key : ∃ key, keys.key? (header.get p.column)
    (Cell.classify (row.cell p.column)).isReference = some key
  specs : ∀ n ∈ p.position, ∀ m < n, ∃ spec value,
    (Cell.classify (row.cell p.column)).spec? (some m) = some spec
      ∧ SpecValue keys w height spec value

theorem leads {w : Workbook} (p : Place header row) {d : DataRow w} (h : Selects p.spec d) :
    Leads header row d :=
  ⟨p.column, p.column.isLt, p.spec, Cell.mem_specs_of_spec? p.spec_eq, h⟩

end Place

/-- Going along a field path, from a row that is read with a header, through data rows to the
specifier at the end. At most `height` references can be followed, and no place of the way has
anything before it that fails. -/
inductive Walk (keys : KeyNaming) (w : Workbook) :
    (height : Nat) → (header : List String) → Row → FieldPath → List (DataRow w) → String → Prop
  | stop {height : Nat} {header : List String} {row : Row} (p : Place header row)
      (hp : p.First keys w height) : Walk keys w height header row p.segments [] p.spec
  | follow {height : Nat} {header : List String} {row : Row} {path : FieldPath}
      {rows : List (DataRow w)} {last : String} (p : Place header row)
      (hp : p.First keys w (height + 1)) (d : DataRow w) (hd : Selects p.spec d)
      (h : Walk keys w height d.sheet.header d.row path rows last) :
      Walk keys w (height + 1) header row (p.segments ++ path) (d :: rows) last

/-- How a specifier fails at a path, after `followed` references out of at most `limit`. -/
inductive FailsAt (limit : Nat) (w : Workbook) (path : FieldPath) :
    (followed : Nat) → (spec : String) → ResolutionFailure → Prop
  | malformed {followed : Nat} {spec : String} (h : Target.parse? spec = none) :
      FailsAt limit w path followed spec (.malformedSpec path spec)
  | tooDeep {spec : String} {t : Target} (h : Target.parse? spec = some t) :
      FailsAt limit w path limit spec (.tooDeep limit path)
  | unknownSheet {followed : Nat} {spec : String} {t : Target} (h : Target.parse? spec = some t)
      (hlimit : followed < limit) (hs : w.sheet? t.sheet = none) :
      FailsAt limit w path followed spec (.unknownSheet t.sheet path)
  | rowNotFound {followed : Nat} {spec : String} {t : Target} (h : Target.parse? spec = some t)
      (hlimit : followed < limit) {sheet : Sheet} (hs : w.sheet? t.sheet = some sheet)
      (hr : sheet.findRow t.column t.value = .ok none) :
      FailsAt limit w path followed spec (.rowNotFound path t)

section Walk

variable {keys : KeyNaming} {w : Workbook}

theorem Walk.chainFrom {height : Nat} {header : List String} {row : Row} {path : FieldPath}
    {rows : List (DataRow w)} {last : String} (h : Walk keys w height header row path rows last) :
    ChainFrom header row rows := by
  induction h with
  | stop p hp => trivial
  | follow p hp d hd _ ih => exact ⟨p.leads hd, ih⟩

theorem FailsAt.field?_eq {limit followed : Nat} {path : FieldPath} {spec : String}
    {e : ResolutionFailure} (h : FailsAt limit w path followed spec e) : e.field? = some path := by
  cases h <;> rfl

theorem FailsAt.eq_of_malformedSpec {limit followed : Nat} {path field : FieldPath}
    {spec spec' : String} (h : FailsAt limit w path followed spec (.malformedSpec field spec')) :
    field = path ∧ spec' = spec := by
  cases h
  exact ⟨rfl, rfl⟩

theorem FailsAt.eq_of_tooDeep {limit limit' followed : Nat} {path field : FieldPath}
    {spec : String} (h : FailsAt limit w path followed spec (.tooDeep limit' field)) :
    followed = limit := by
  cases h
  rfl

end Walk

namespace Resolver

variable {r : Resolver} {w : Workbook} {path field : FieldPath} {e : ResolutionFailure}

/-- A row fails for want of a key, or at a place; all before that is in order. -/
theorem resolve_eq_error_iff {depth : Nat} {header : List String} {row : Row} :
    (r.resolve w depth path header row).outcome = .error e ↔
      (∃ i : Fin header.length, (∀ j < i, ∃ key value,
            r.keys.key? (header.get j) (Cell.classify (row.cell j)).isReference = some key
              ∧ CellValue r.keys w depth (Cell.classify (row.cell j)) value)
          ∧ r.keys.key? (header.get i) (Cell.classify (row.cell i)).isReference = none
          ∧ e = .missingKey (header.get i))
        ∨ ∃ p : Place header row, p.First r.keys w depth
          ∧ (r.follow w (r.deeperAt w depth) (path ++ p.segments) p.spec).outcome = .error e := by
  have hread (j : Fin header.length) :
      (∃ c, r.readColumn w (r.deeperAt w depth) path (header.get j, row.cell j) = .ok c) ↔
        ∃ key value,
          r.keys.key? (header.get j) (Cell.classify (row.cell j)).isReference = some key
            ∧ CellValue r.keys w depth (Cell.classify (row.cell j)) value := by
    simp only [readColumn_eq_ok_iff, readCell_deeperAt_eq_ok_iff, Prod.exists]
  rw [resolve_eq_readRow, readRow_eq_error_iff]
  simp only [hread, readColumn_eq_error_iff, keyOf_eq_error_iff, readCell_eq_error_iff,
    follow_deeperAt_eq_ok_iff]
  constructor
  · rintro ⟨i, hcolumns, hkey | ⟨key, hkey, position, spec, hspec, hf, hfirst⟩⟩
    · exact .inl ⟨i, hcolumns, hkey⟩
    · refine .inr ⟨⟨i, position, spec, hspec⟩, ⟨hcolumns, ⟨key, hkey⟩, hfirst⟩, ?_⟩
      simpa [Place.segments] using hf
  · rintro (⟨i, hcolumns, hkey⟩ | ⟨⟨i, position, spec, hspec⟩, ⟨hcolumns, ⟨key, hkey⟩, hfirst⟩, hf⟩)
    · exact ⟨i, hcolumns, .inl hkey⟩
    · refine ⟨i, hcolumns, .inr ⟨key, hkey, position, spec, hspec, ?_, hfirst⟩⟩
      simpa [Place.segments] using hf

theorem failsAt_of_locate {followed : Nat} (hlimit : followed < r.maxDepth) {spec : String}
    {t : Target} (ht : Target.parse? spec = some t) (h : locate w path t = .error e)
    (he : e.field? = some field) : FailsAt r.maxDepth w path followed spec e := by
  unfold locate at h
  split at h
  · rename_i hs
    obtain rfl := Except.error.inj h
    exact .unknownSheet ht hlimit hs
  rename_i sheet hs
  split at h
  · obtain rfl := Except.error.inj h
    simp [ResolutionFailure.field?] at he
  · rename_i hr
    obtain rfl := Except.error.inj h
    exact .rowNotFound ht hlimit hs hr
  · simp at h

/-- A specifier fails at its own place, or as the row does that it selects. -/
theorem failsAt_of_follow {depth followed : Nat} (hd : followed + depth = r.maxDepth)
    {spec : String} (h : (r.follow w (r.deeperAt w depth) path spec).outcome = .error e)
    (he : e.field? = some field) :
    FailsAt r.maxDepth w path followed spec e
      ∨ ∃ depth', depth = depth' + 1 ∧ ∃ d : DataRow w, Selects spec d
        ∧ (r.resolve w depth' path d.sheet.header d.row).outcome = .error e := by
  rcases ht : Target.parse? spec with _ | t
  · simp only [follow, ht, Traced.outcome_fail] at h
    obtain rfl := Except.error.inj h
    exact .inl (.malformed ht)
  rcases depth with _ | depth
  · simp only [deeperAt, follow, ht, Traced.outcome_fail] at h
    obtain rfl := Except.error.inj h
    obtain rfl : followed = r.maxDepth := hd
    exact .inl (.tooDeep ht)
  rcases hl : locate w path t with e' | ⟨sheet, row⟩
  · simp only [deeperAt, follow, ht, hl, Traced.outcome_bind, Traced.outcome_ofExcept,
      error_bind] at h
    obtain rfl := Except.error.inj h
    have hlimit : followed < r.maxDepth := by omega
    exact .inl (failsAt_of_locate hlimit ht hl he)
  · obtain ⟨d, hs, hr, rfl, rfl⟩ := locate_eq_ok_iff.1 hl
    have hd' : Selects spec d := ⟨t, ht, hs, hr⟩
    rw [deeperAt, outcome_follow_of_selects r path hd'] at h
    exact .inr ⟨depth, rfl, d, hd', h⟩

/-- A failure that keeps a path can be walked to from the row that was resolved. -/
theorem exists_walk_of_resolve : ∀ {depth followed : Nat} {path : FieldPath}
    {header : List String} {row : Row}, followed + depth = r.maxDepth →
      (r.resolve w depth path header row).outcome = .error e → e.field? = some field →
      ∃ rest rows last, Walk r.keys w depth header row rest rows last
        ∧ FailsAt r.maxDepth w (path ++ rest) (followed + rows.length) last e
  | depth, followed, path, header, row, hd, h, he => by
    rcases resolve_eq_error_iff.1 h with ⟨i, -, -, rfl⟩ | ⟨p, hp, hf⟩
    · simp [ResolutionFailure.field?] at he
    rcases failsAt_of_follow hd hf he with hfail | ⟨depth, rfl, d, hsel, hnext⟩
    · exact ⟨p.segments, [], p.spec, .stop p hp, hfail⟩
    · have hd' : followed + 1 + depth = r.maxDepth := by omega
      obtain ⟨rest, rows, last, hwalk, hfail⟩ := exists_walk_of_resolve hd' hnext he
      refine ⟨p.segments ++ rest, d :: rows, last, .follow p hp d hsel hwalk, ?_⟩
      rw [List.length_cons, ← List.append_assoc]
      rwa [show followed + (rows.length + 1) = followed + 1 + rows.length by omega]

theorem exists_walk_of_resolveDataRow {sheet : Sheet} {index : Nat} {row : Row}
    (h : (r.resolveDataRow w sheet index row).outcome = .error e) (he : e.field? = some field) :
    ∃ path rows last, Walk r.keys w r.maxDepth sheet.header row path rows last
      ∧ FailsAt r.maxDepth w (sheet.name :: index.repr :: path) rows.length last e := by
  obtain ⟨path, rows, last, hwalk, hfail⟩ := exists_walk_of_resolve (Nat.zero_add _) h he
  rw [Nat.zero_add] at hfail
  exact ⟨path, rows, last, hwalk, hfail⟩

/-- What fails in a data row has a field that is not empty. -/
theorem text_ne_empty_of_resolveDataRow {sheet : Sheet} {index : Nat} {row : Row}
    (h : (r.resolveDataRow w sheet index row).outcome = .error e) (he : e.field? = some field) :
    field.text ≠ "" := by
  obtain ⟨path, rows, last, -, hfail⟩ := exists_walk_of_resolveDataRow h he
  obtain rfl := Option.some.inj (he.symm.trans hfail.field?_eq)
  exact FieldPath.text_ne_empty

/-- A sheet fails for want of it, or its failure, if it keeps a path, can be walked to. The walk
begins in the first data row that fails, everything before its places is in order, and the specifier
at its end fails as the failure says; a message that it is no target quotes it. -/
theorem walk_of_sheet_error (r : Resolver) (w : Workbook) {name : String} {e : ResolutionFailure}
    {field : FieldPath} (h : (r.sheet w name).outcome = .error e) (he : e.field? = some field) :
    (w.sheet? name = none ∧ e = .unknownSheet name [])
      ∨ ∃ (a : DataRow w) (path : FieldPath) (rows : List (DataRow w)) (last : String),
        a.sheet.name = name
          ∧ (r.resolveDataRow w a.sheet a.index a.row).outcome = .error e
          ∧ (∀ b : DataRow w, b.sheet.name = name → b.index < a.index →
            ∃ v, (r.resolveDataRow w b.sheet b.index b.row).outcome = .ok v)
          ∧ field.text = ".".intercalate (name :: a.index.repr :: path)
          ∧ Walk r.keys w r.maxDepth a.sheet.header a.row path rows last
          ∧ FailsAt r.maxDepth w (name :: a.index.repr :: path) rows.length last e
          ∧ ∀ f spec, e = .malformedSpec f spec →
            e.message = "malformed reference spec on " ++ field.text ++ ": "
              ++ ("expected <sheet>@<column>#<value>, got \"" ++ last ++ "\"") := by
  rcases (sheet_eq_error_iff r).1 h with hnone | ⟨a, rfl, ha, hbefore⟩
  · exact .inl hnone
  obtain ⟨path, rows, last, hwalk, hfail⟩ := exists_walk_of_resolveDataRow ha he
  obtain rfl : field = _ := Option.some.inj (he.symm.trans hfail.field?_eq)
  refine .inr ⟨a, path, rows, last, rfl, ha, hbefore, rfl, hwalk, hfail, ?_⟩
  rintro f spec rfl
  obtain ⟨rfl, rfl⟩ := hfail.eq_of_malformedSpec
  rfl

section Orders

/-- The second order has a stop in a city that there is not. -/
def orders : Workbook where
  sheets := [⟨"address", [["zip", "city"], ["1", ""], ["2", "reference:city@name#Oslo"]]⟩,
    ⟨"city", [["name"], ["Rome"]]⟩,
    ⟨"order", [["id", "stops"], ["a", "listReference:address@zip#1"],
      ["b", "listReference:address@zip#1,address@zip#2"]]⟩]
  sorted := by decide

theorem walk_of_sheet_error_orders :
    (sheet ⟨.verbatim, 2⟩ orders "order").outcome
        = .error (.rowNotFound ["order", "1", "stops", "1", "city"] ⟨"city", "name", "Oslo"⟩)
      ∧ ∃ (a : DataRow orders) (path : FieldPath) (rows : List (DataRow orders)) (last : String),
        a.sheet.name = "order"
          ∧ "order.1.stops.1.city" = ".".intercalate ("order" :: a.index.repr :: path)
          ∧ Walk .verbatim orders 2 a.sheet.header a.row path rows last
          ∧ FailsAt 2 orders ("order" :: a.index.repr :: path) rows.length last
            (.rowNotFound ["order", "1", "stops", "1", "city"] ⟨"city", "name", "Oslo"⟩) := by
  have h : (sheet ⟨.verbatim, 2⟩ orders "order").outcome
      = .error (.rowNotFound ["order", "1", "stops", "1", "city"] ⟨"city", "name", "Oslo"⟩) := rfl
  refine ⟨h, ?_⟩
  rcases walk_of_sheet_error _ _ h rfl with
    ⟨hnone, -⟩ | ⟨a, path, rows, last, hname, -, -, htext, hwalk, hfail, -⟩
  · cases hnone
  · exact ⟨a, path, rows, last, hname, htext, hwalk, hfail⟩

end Orders

end Resolver

end LinkedSheets
