import LinkedSheets.Proofs.FieldPath
import LinkedSheets.Proofs.RowLookup

/-!
# Failures that keep no path

That a column has no key, or that the sheet of a target has no such column, is found in a cell like
any other failure, but neither keeps the path of that cell. The path is there all the same: from the
row that was resolved, through the rows that were followed, to the first thing that is not in order
(`FoundAt`). A row fails in this way just when there is such a path (`resolve_eq_unplaced_iff`), and
then there is only one (`FoundAt.unique`).

What a sheet fails with does not depend on it. The failure is the same whatever led to the row
(`sheet_eq_unplaced_iff`), and so is its message.
-/

namespace LinkedSheets

/-- The column has a key, and its cell has a value. -/
def ColumnReads (keys : KeyNaming) (w : Workbook) (height : Nat) (header : List String) (row : Row)
    (i : Fin header.length) : Prop :=
  ∃ key value, keys.key? (header.get i) (Cell.classify (row.cell i)).isReference = some key
    ∧ CellValue keys w height (Cell.classify (row.cell i)) value

/-- The failure, one that keeps no path, is found at the end of this path from a row that is read
with a header, and all before that is in order. At most `height` references can be followed. -/
inductive FoundAt (keys : KeyNaming) (w : Workbook) :
    (height : Nat) → (header : List String) → Row → FieldPath → ResolutionFailure → Prop
  | missingKey {height : Nat} {header : List String} {row : Row} (i : Fin header.length)
      (hcolumns : ∀ j < i, ColumnReads keys w height header row j)
      (hkey : keys.key? (header.get i) (Cell.classify (row.cell i)).isReference = none) :
      FoundAt keys w height header row [header.get i] (.missingKey (header.get i))
  | unknownColumn {height : Nat} {header : List String} {row : Row} (p : Place header row)
      (hp : p.First keys w (height + 1)) {t : Target} (ht : Target.parse? p.spec = some t)
      {sheet : Sheet} (hs : w.sheet? t.sheet = some sheet)
      (hc : ∀ name ∈ sheet.header, Text.trim name ≠ Text.trim t.column) :
      FoundAt keys w (height + 1) header row p.segments
        (.unknownColumn sheet.name (Text.trim t.column))
  | follow {height : Nat} {header : List String} {row : Row} {path : FieldPath}
      {e : ResolutionFailure} (p : Place header row) (hp : p.First keys w (height + 1))
      (d : DataRow w) (hd : Selects p.spec d)
      (h : FoundAt keys w height d.sheet.header d.row path e) :
      FoundAt keys w (height + 1) header row (p.segments ++ path) e

section Found

variable {keys : KeyNaming} {w : Workbook} {height : Nat} {header : List String} {row : Row}
  {path path' : FieldPath} {e e' : ResolutionFailure} {r : Resolver}

theorem FoundAt.field?_eq_none (h : FoundAt keys w height header row path e) : e.field? = none := by
  induction h with
  | missingKey => rfl
  | unknownColumn => rfl
  | follow _ _ _ _ _ ih => exact ih

namespace Resolver

/-- A target that selects no row fails without a path only for want of the column. -/
theorem locate_eq_unplaced_iff {t : Target} (he : e.field? = none) :
    locate w path t = .error e ↔ ∃ sheet, w.sheet? t.sheet = some sheet
      ∧ (∀ name ∈ sheet.header, Text.trim name ≠ Text.trim t.column)
      ∧ e = .unknownColumn sheet.name (Text.trim t.column) := by
  rw [locate]
  rcases w.sheet? t.sheet with _ | sheet
  · refine ⟨fun h => ?_, by simp⟩
    obtain rfl := Except.error.inj h
    cases he
  simp only [Option.some.injEq, exists_eq_left']
  rcases hf : sheet.findRow t.column t.value with _ | _ | ⟨row, index⟩
  · obtain ⟨rfl, hc⟩ := Sheet.findRow_eq_error_iff.1 hf
    rw [and_iff_right hc, Except.error.injEq, eq_comm]
  · obtain ⟨name, hmem, heq⟩ := Sheet.exists_column_of_findRow hf
    refine ⟨fun h => ?_, fun h => absurd heq (h.1 name hmem)⟩
    obtain rfl := Except.error.inj h
    cases he
  · obtain ⟨name, hmem, heq⟩ := Sheet.exists_column_of_findRow hf
    exact ⟨by simp, fun h => absurd heq (h.1 name hmem)⟩

/-- A specifier fails so for want of the column, or as the row does that it selects. -/
theorem unplaced_of_follow {depth : Nat} {spec : String} (he : e.field? = none)
    (h : (r.follow w (r.deeperAt w depth) path spec).outcome = .error e) :
    ∃ depth', depth = depth' + 1
      ∧ ((∃ t, Target.parse? spec = some t ∧ locate w path t = .error e)
        ∨ ∃ d : DataRow w, Selects spec d
          ∧ (r.resolve w depth' path d.sheet.header d.row).outcome = .error e) := by
  rcases ht : Target.parse? spec with _ | t
  · simp only [follow, ht, Traced.outcome_fail] at h
    obtain rfl := Except.error.inj h
    cases he
  rcases depth with _ | depth
  · simp only [deeperAt, follow, ht, Traced.outcome_fail] at h
    obtain rfl := Except.error.inj h
    cases he
  refine ⟨depth, rfl, ?_⟩
  rcases hl : locate w path t with e' | ⟨sheet, row⟩
  · simp only [deeperAt, follow, ht, hl, Traced.outcome_bind, Traced.outcome_ofExcept,
      error_bind] at h
    obtain rfl := Except.error.inj h
    exact .inl ⟨t, rfl, hl⟩
  · obtain ⟨d, hs, hr, rfl, rfl⟩ := locate_eq_ok_iff.1 hl
    have hd : Selects spec d := ⟨t, ht, hs, hr⟩
    rw [deeperAt, outcome_follow_of_selects r path hd] at h
    exact .inr ⟨d, hd, h⟩

theorem exists_foundAt_of_resolve (he : e.field? = none) : ∀ {depth : Nat} {front : FieldPath}
    {header : List String} {row : Row}, (r.resolve w depth front header row).outcome = .error e →
      ∃ path, FoundAt r.keys w depth header row path e
  | depth, front, header, row, h => by
    rcases resolve_eq_error_iff.1 h with ⟨i, hcolumns, hkey, rfl⟩ | ⟨p, hp, hf⟩
    · exact ⟨_, .missingKey i hcolumns hkey⟩
    obtain ⟨depth, rfl, ⟨t, ht, hl⟩ | ⟨d, hd, hnext⟩⟩ := unplaced_of_follow he hf
    · obtain ⟨sheet, hs, hc, rfl⟩ := (locate_eq_unplaced_iff he).1 hl
      exact ⟨_, .unknownColumn p hp ht hs hc⟩
    · obtain ⟨path, hpath⟩ := exists_foundAt_of_resolve he hnext
      exact ⟨_, .follow p hp d hd hpath⟩

/-- The row fails so with whatever in front of its path. -/
theorem outcome_resolve_of_foundAt (h : FoundAt r.keys w height header row path e)
    (front : FieldPath) : (r.resolve w height front header row).outcome = .error e := by
  induction h generalizing front with
  | missingKey i hcolumns hkey => exact resolve_eq_error_iff.2 (.inl ⟨i, hcolumns, hkey, rfl⟩)
  | @unknownColumn height header row p hp t ht sheet hs hc =>
    refine resolve_eq_error_iff.2 (.inr ⟨p, hp, ?_⟩)
    have hl : locate w (front ++ p.segments) t
        = .error (.unknownColumn sheet.name (Text.trim t.column)) :=
      (locate_eq_unplaced_iff rfl).2 ⟨sheet, hs, hc, rfl⟩
    simp only [deeperAt, follow, ht, hl, Traced.outcome_bind, Traced.outcome_ofExcept, error_bind]
  | follow p hp d hd _ ih =>
    refine resolve_eq_error_iff.2 (.inr ⟨p, hp, ?_⟩)
    rw [deeperAt, outcome_follow_of_selects r _ hd]
    exact ih _

/-- A row fails without a path just when there is one to what is not in order in it. -/
theorem resolve_eq_unplaced_iff (he : e.field? = none) {depth : Nat} {front : FieldPath} :
    (r.resolve w depth front header row).outcome = .error e ↔
      ∃ path, FoundAt r.keys w depth header row path e :=
  ⟨exists_foundAt_of_resolve he, fun ⟨_, h⟩ => outcome_resolve_of_foundAt h front⟩

end Resolver

section Unique

/-- The first column that does not read is the only one. -/
theorem eq_of_not_columnReads {i j : Fin header.length}
    (hbefore : ∀ k < i, ColumnReads keys w height header row k)
    (hi : ¬ ColumnReads keys w height header row i)
    (hbefore' : ∀ k < j, ColumnReads keys w height header row k)
    (hj : ¬ ColumnReads keys w height header row j) : i = j := by
  rcases Nat.lt_trichotomy i j with hlt | heq | hlt
  · exact absurd (hbefore' i hlt) hi
  · exact Fin.ext heq
  · exact absurd (hbefore j hlt) hj

theorem not_columnReads_of_key {i : Fin header.length}
    (hkey : keys.key? (header.get i) (Cell.classify (row.cell i)).isReference = none) :
    ¬ ColumnReads keys w height header row i := by
  rintro ⟨key, value, hsome, -⟩
  rw [hkey] at hsome
  cases hsome

theorem Cell.spec?_some_of_none {cell : Cell} {spec : String} (h : cell.spec? none = some spec)
    (n : Nat) : cell.spec? (some n) = none := by
  cases cell with
  | scalar text => rfl
  | reference spec => rfl
  | references specs => cases h

namespace Place

variable {p q : Place header row}

theorem not_columnReads (hv : ∀ v, ¬ SpecValue keys w height p.spec v) :
    ¬ ColumnReads keys w height header row p.column := by
  rintro ⟨key, value, -, hvalue⟩
  obtain ⟨v, h⟩ := hvalue.exists_specValue (Cell.mem_specs_of_spec? p.spec_eq)
  exact hv v h

theorem First.column_ne (hp : p.First keys w height)
    (hv : ∀ v, ¬ SpecValue keys w height p.spec v) {i : Fin header.length}
    (hbefore : ∀ k < i, ColumnReads keys w height header row k) :
    keys.key? (header.get i) (Cell.classify (row.cell i)).isReference ≠ none := by
  intro hkey
  obtain ⟨key, hsome⟩ := hp.key
  rw [eq_of_not_columnReads hp.columns (not_columnReads hv) hbefore (not_columnReads_of_key hkey),
    hkey] at hsome
  cases hsome

theorem First.position_le {m n : Nat} (hq : q.First keys w height) (hn : q.position = some n)
    {spec : String} (hm : (Cell.classify (row.cell q.column)).spec? (some m) = some spec)
    (hv : ∀ v, ¬ SpecValue keys w height spec v) : n ≤ m := by
  by_contra hlt
  obtain ⟨spec', v, hs, hspec⟩ := hq.specs n hn m (Nat.lt_of_not_le hlt)
  obtain rfl := Option.some.inj (hm.symm.trans hs)
  exact hv v hspec

/-- The first place that has no value is the only one. -/
theorem First.unique (hp : p.First keys w height) (hpv : ∀ v, ¬ SpecValue keys w height p.spec v)
    (hq : q.First keys w height) (hqv : ∀ v, ¬ SpecValue keys w height q.spec v) : p = q := by
  have hcolumn : p.column = q.column :=
    eq_of_not_columnReads hp.columns (not_columnReads hpv) hq.columns (not_columnReads hqv)
  obtain ⟨i, m, spec, hspec⟩ := p
  obtain ⟨j, n, spec', hspec'⟩ := q
  obtain rfl : i = j := hcolumn
  have hposition : m = n := by
    rcases m with _ | m <;> rcases n with _ | n
    · rfl
    · rw [Cell.spec?_some_of_none hspec] at hspec'
      cases hspec'
    · rw [Cell.spec?_some_of_none hspec'] at hspec
      cases hspec
    · rw [Nat.le_antisymm (hp.position_le rfl hspec' hqv) (hq.position_le rfl hspec hpv)]
  subst hposition
  obtain rfl : spec = spec' := Option.some.inj (hspec.symm.trans hspec')
  rfl

end Place

theorem not_selects_of_column {spec : String} {t : Target} (ht : Target.parse? spec = some t)
    {sheet : Sheet} (hs : w.sheet? t.sheet = some sheet)
    (hc : ∀ name ∈ sheet.header, Text.trim name ≠ Text.trim t.column) (d : DataRow w) :
    ¬ Selects spec d := by
  rintro ⟨t', ht', hs', hr⟩
  obtain rfl := Option.some.inj (ht.symm.trans ht')
  obtain rfl := Option.some.inj (hs.symm.trans hs')
  obtain ⟨name, hmem, heq⟩ := Sheet.exists_column_of_findRow hr
  exact hc name hmem heq

theorem not_specValue_of_selects {spec : String} (h : ∀ d : DataRow w, ¬ Selects spec d)
    (v : Value) : ¬ SpecValue keys w height spec v := by
  rintro ⟨d, hd, -⟩
  exact h d hd

theorem FoundAt.not_rowValue (h : FoundAt keys w height header row path e) (v : Value) :
    ¬ RowValue keys w height header row v := by
  intro hv
  have hok : (Resolver.resolve ⟨keys, height⟩ w height [] header row).outcome = .ok v :=
    (resolve_eq_ok_iff height).2 hv
  rw [Resolver.outcome_resolve_of_foundAt (r := ⟨keys, height⟩) h []] at hok
  cases hok

theorem FoundAt.not_specValue {spec : String} {d : DataRow w} (hd : Selects spec d)
    (h : FoundAt keys w height d.sheet.header d.row path e) (v : Value) :
    ¬ SpecValue keys w (height + 1) spec v := by
  rintro ⟨d', hd', hv⟩
  obtain rfl := hd.unique hd'
  exact h.not_rowValue v hv

/-- There is no second path to what is not in order. -/
theorem FoundAt.unique (h : FoundAt keys w height header row path e)
    (h' : FoundAt keys w height header row path' e') : path = path' := by
  induction h generalizing path' e' with
  | missingKey i hcolumns hkey =>
    cases h' with
    | missingKey j hcolumns' hkey' =>
      rw [eq_of_not_columnReads hcolumns (not_columnReads_of_key hkey) hcolumns'
        (not_columnReads_of_key hkey')]
    | unknownColumn p hp ht hs hc =>
      have hselects := not_selects_of_column ht hs hc
      exact absurd hkey (hp.column_ne (not_specValue_of_selects hselects) hcolumns)
    | follow p hp d hd h => exact absurd hkey (hp.column_ne (h.not_specValue hd) hcolumns)
  | unknownColumn p hp ht hs hc =>
    have hselects := not_selects_of_column ht hs hc
    cases h' with
    | missingKey i hcolumns hkey =>
      exact absurd hkey (hp.column_ne (not_specValue_of_selects hselects) hcolumns)
    | unknownColumn q hq ht' hs' hc' =>
      have hselects' := not_selects_of_column ht' hs' hc'
      rw [hp.unique (not_specValue_of_selects hselects) hq (not_specValue_of_selects hselects')]
    | follow q hq d hd h =>
      obtain rfl := hp.unique (not_specValue_of_selects hselects) hq (h.not_specValue hd)
      exact absurd hd (hselects d)
  | follow p hp d hd h ih =>
    have hv := h.not_specValue hd
    cases h' with
    | missingKey i hcolumns hkey => exact absurd hkey (hp.column_ne hv hcolumns)
    | unknownColumn q hq ht hs hc =>
      have hselects := not_selects_of_column ht hs hc
      obtain rfl := hp.unique hv hq (not_specValue_of_selects hselects)
      exact absurd hd (hselects d)
    | follow q hq d' hd' h' =>
      obtain rfl := hp.unique hv hq (h'.not_specValue hd')
      obtain rfl := hd.unique hd'
      rw [ih h']

end Unique

end Found

namespace Resolver

/-- A sheet fails without a path just when its first data row that fails has something in it that is
not in order, in a cell that one path leads to: a column without a key, or a target whose sheet has
no such column. The failure tells that column, and of the cell nothing. The row fails with just the
same when it is resolved by itself, or whatever else leads to it. -/
theorem sheet_eq_unplaced_iff (r : Resolver) (w : Workbook) (name : String)
    (e : ResolutionFailure) :
    ((r.sheet w name).outcome = .error e ∧ e.field? = none ↔
        ∃ (a : DataRow w) (path : FieldPath), a.sheet.name = name
          ∧ FoundAt r.keys w r.maxDepth a.sheet.header a.row path e
          ∧ ∀ b : DataRow w, b.sheet.name = name → b.index < a.index →
            ∃ v, (r.resolveDataRow w b.sheet b.index b.row).outcome = .ok v)
      ∧ ∀ (a : DataRow w) (path : FieldPath),
        FoundAt r.keys w r.maxDepth a.sheet.header a.row path e →
          (∀ path', FoundAt r.keys w r.maxDepth a.sheet.header a.row path' e → path' = path)
            ∧ ∀ front, (r.resolve w r.maxDepth front a.sheet.header a.row).outcome = .error e := by
  refine ⟨⟨?_, ?_⟩, fun a path h => ⟨fun path' h' => h'.unique h, outcome_resolve_of_foundAt h⟩⟩
  · rintro ⟨h, he⟩
    rcases (sheet_eq_error_iff r).1 h with ⟨-, rfl⟩ | ⟨a, hname, ha, hbefore⟩
    · cases he
    · obtain ⟨path, hpath⟩ := exists_foundAt_of_resolve he ha
      exact ⟨a, path, hname, hpath, hbefore⟩
  · rintro ⟨a, path, hname, hpath, hbefore⟩
    have ha : (r.resolveDataRow w a.sheet a.index a.row).outcome = .error e :=
      outcome_resolve_of_foundAt hpath _
    exact ⟨(sheet_eq_error_iff r).2 (.inr ⟨a, hname, ha, hbefore⟩), hpath.field?_eq_none⟩

section Customers

/-- Of the two customers one refers to a column that there is not. -/
def customers : Workbook where
  sheets := [⟨"address", [["zip"], ["1"]]⟩,
    ⟨"customer", [["name", "address"], ["Ann", "reference:address@postcode#1"]]⟩,
    ⟨"guest", [["name", "address"], ["Bob", "reference:address@zip#1"]]⟩]
  sorted := by decide

def guestKeys : KeyNaming :=
  .renamed [("name", "n"), ("address", "a")] .all

theorem sheet_eq_unplaced_iff_customers :
    (sheet ⟨guestKeys, 64⟩ customers "guest").outcome = .error (.missingKey "zip")
      ∧ ∃ (a : DataRow customers) (path : FieldPath), a.sheet.name = "guest"
        ∧ FoundAt guestKeys customers 64 a.sheet.header a.row path (.missingKey "zip")
        ∧ ∀ front, (resolve ⟨guestKeys, 64⟩ customers 64 front a.sheet.header a.row).outcome
          = .error (.missingKey "zip") := by
  have h : (sheet ⟨guestKeys, 64⟩ customers "guest").outcome = .error (.missingKey "zip") := rfl
  obtain ⟨hiff, hfound⟩ := sheet_eq_unplaced_iff ⟨guestKeys, 64⟩ customers "guest"
    (.missingKey "zip")
  obtain ⟨a, path, hname, hpath, -⟩ := hiff.1 ⟨h, rfl⟩
  exact ⟨h, a, path, hname, hpath, (hfound a path hpath).2⟩

/-- What is told of the customer does not say where the column was looked for. -/
theorem unplaced_customer :
    (sheet ⟨.verbatim, 64⟩ customers "customer").outcome
        = .error (.unknownColumn "address" "postcode")
      ∧ FoundAt .verbatim customers 64 ["name", "address"]
        ["Ann", "reference:address@postcode#1"] ["address"] (.unknownColumn "address" "postcode")
      ∧ ResolutionFailure.field? (.unknownColumn "address" "postcode") = none
      ∧ ¬ (FieldPath.text ["customer", "0", "address"]).toList
        <:+: (ResolutionFailure.message (.unknownColumn "address" "postcode")).toList := by
  refine ⟨rfl, ?found, rfl, ?message⟩
  case found =>
    have hfirst : Place.First .verbatim customers 64
        (⟨1, none, "address@postcode#1", rfl⟩ : Place ["name", "address"]
          ["Ann", "reference:address@postcode#1"]) := by
      refine ⟨fun i hi => ?_, ⟨"address", rfl⟩, by simp⟩
      obtain rfl : i = 0 := Fin.ext (Nat.lt_one_iff.1 hi)
      exact ⟨"name", .scalar "Ann", rfl, .scalar "Ann"⟩
    have ht : Target.parse? "address@postcode#1" = some ⟨"address", "postcode", "1"⟩ := rfl
    have hs : customers.sheet? "address" = some ⟨"address", [["zip"], ["1"]]⟩ := rfl
    exact .unknownColumn _ hfirst ht hs (by decide)
  case message =>
    have hmessage : ResolutionFailure.message (.unknownColumn "address" "postcode")
        = "unknown column \"postcode\" in sheet \"address\"" := rfl
    have htext : FieldPath.text ["customer", "0", "address"] = "customer.0.address" := rfl
    rw [hmessage, htext]
    intro h
    have hdot : '.' ∈ "unknown column \"postcode\" in sheet \"address\"".toList :=
      h.subset (by simp)
    simp at hdot

end Customers

end Resolver

end LinkedSheets
