import LinkedSheets.Proofs.FieldOrder
import LinkedSheets.Proofs.FirstMatch
import LinkedSheets.Proofs.ObjectKeys
import LinkedSheets.Proofs.TypedRows
import Mathlib.Data.List.FinRange

/-!
# The order of columns

The columns of a sheet may be put in another order, those of each sheet in one of its own
(`Workbook.rearrange`). Where the names of its columns differ even without blanks, a look-up finds
the same row (`Sheet.Matches.findRow`), so every reference leads to the same row as before, and with
the names for keys a row has the same fields in another order (`RowValue.exists_reordered`).

A failure need not be the same: the columns are read in their order, and the first one that fails is
reported.
-/

namespace LinkedSheets

theorem perm_ofFn_of_equiv {α : Type} {m n : Nat} (e : Fin m ≃ Fin n) (f : Fin n → α) :
    (List.ofFn f).Perm (List.ofFn fun i => f (e i)) := by
  obtain rfl : m = n := Fin.equiv_iff_eq.1 ⟨e⟩
  exact (Equiv.Perm.ofFn_comp_perm e f).symm

theorem perm_of_get_eq {header header' : List String} {e : Fin header.length ≃ Fin header'.length}
    (h : ∀ i, header.get i = header'.get (e i)) : header'.Perm header := by
  have hperm := perm_ofFn_of_equiv e header'.get
  simp only [← h, List.ofFn_get] at hperm
  exact hperm

/-- The sheet with its columns in another order: in the place of a column is now the one that `σ`
gives, with its cells. Rows that are too short for the header are filled up. -/
def Sheet.rearrange (sheet : Sheet) (σ : Equiv.Perm (Fin sheet.header.length)) : Sheet where
  name := sheet.name
  rows := sheet.rows.map fun row => List.ofFn fun i => row.cell (σ i)

/-- The workbook with the columns of each sheet in another order. -/
def Workbook.rearrange (w : Workbook)
    (σ : (sheet : Sheet) → Equiv.Perm (Fin sheet.header.length)) : Workbook where
  sheets := w.sheets.map fun sheet => sheet.rearrange (σ sheet)
  sorted := List.pairwise_map.2 w.sorted

/-- The rows have the same cells, the column at `i` in the one row being at `e i` in the other. -/
def Row.Matches {m n : Nat} (row row' : Row) (e : Fin m ≃ Fin n) : Prop :=
  ∀ i : Fin m, row.cell i = row'.cell (e i)

/-- The sheets have the same columns, that at `i` in the one being at `e i` in the other. -/
structure Sheet.Matches (s s' : Sheet) (e : Fin s.header.length ≃ Fin s'.header.length) : Prop where
  header : ∀ i, s.header.get i = s'.header.get (e i)
  length : s.dataRows.length = s'.dataRows.length
  rows : ∀ (index : Nat) (row row' : Row), s.dataRows[index]? = some row →
    s'.dataRows[index]? = some row' → row.Matches row' e

/-- Every sheet has one of its name in the other workbook with the same columns, all of different
names. -/
def Workbook.MatchedIn (w w' : Workbook) : Prop :=
  ∀ name s, w.sheet? name = some s → ∃ s' e, w'.sheet? name = some s' ∧ s.Matches s' e
    ∧ (s.header.map Text.trim).Nodup

namespace Sheet.Matches

variable {s s' : Sheet} {e : Fin s.header.length ≃ Fin s'.header.length} (h : s.Matches s' e)
include h

theorem symm : s'.Matches s e.symm where
  header j := by rw [h.header, e.apply_symm_apply]
  length := h.length.symm
  rows index row' row hrow' hrow j := by
    rw [h.rows index row row' hrow hrow', e.apply_symm_apply]

theorem exists_row {index : Nat} {row : Row} (hrow : s.dataRows[index]? = some row) :
    ∃ row', s'.dataRows[index]? = some row' ∧ row.Matches row' e := by
  obtain ⟨hlt, -⟩ := List.getElem?_eq_some_iff.1 hrow
  have hrow' := List.getElem?_eq_getElem (h.length ▸ hlt)
  exact ⟨_, hrow', h.rows index row _ hrow hrow'⟩

/-- What finds a row finds the same one where the columns are in another order. -/
theorem findRow (hd : (s.header.map Text.trim).Nodup) {column value : String} {row : Row}
    {index : Nat} (hfind : s.findRow column value = .ok (some (row, index))) :
    ∃ row', s'.findRow column value = .ok (some (row', index)) ∧ row.Matches row' e := by
  have hd' : (s'.header.map Text.trim).Nodup := ((perm_of_get_eq h.header).map _).nodup_iff.2 hd
  obtain ⟨j, hj, hfirst⟩ := findRow_eq_some_iff.1 hfind
  obtain ⟨hlt, hname⟩ := (columnIndex?_eq_some_iff_of_nodup hd).1 hj
  obtain ⟨hindex, hvalue, hbefore⟩ := rowWith?_eq_some_iff.1 hfirst
  obtain ⟨row', hindex', hrow⟩ := h.exists_row hindex
  refine ⟨row', findRow_eq_some_iff.2 ⟨e ⟨j, hlt⟩, ?_, ?_⟩, hrow⟩
  · refine (columnIndex?_eq_some_iff_of_nodup hd').2 ⟨(e ⟨j, hlt⟩).isLt, ?_⟩
    rw [← hname, h.header]
  · refine rowWith?_eq_some_iff.2 ⟨hindex', ?_, fun i hi other' hother' => ?_⟩
    · rw [← hrow ⟨j, hlt⟩, hvalue]
    · obtain ⟨other, hother, hmatch⟩ := h.symm.exists_row hother'
      rw [hmatch, e.symm_apply_apply]
      exact hbefore i hi other hother

end Sheet.Matches

section Values

variable {w w' : Workbook}

/-- A specifier selects the same row as before, in the sheet with the other order of columns. -/
theorem Selects.exists_matching (hw : w.MatchedIn w') {spec : String} {d : DataRow w}
    (hd : Selects spec d) : ∃ (d' : DataRow w') (e : _), Selects spec d'
      ∧ d.sheet.Matches d'.sheet e ∧ d.row.Matches d'.row e
      ∧ (d.sheet.header.map Text.trim).Nodup := by
  obtain ⟨t, ht, hs, hr⟩ := hd
  obtain ⟨s', e, hs', hmatch, hnodup⟩ := hw _ _ hs
  obtain ⟨row', hr', hrow⟩ := hmatch.findRow hnodup hr
  have hname := name_of_sheet? hs'
  refine ⟨⟨s', d.index, row', hname ▸ hs', getElem?_of_findRow hr'⟩, e, ⟨t, ht, hs', hr'⟩, hmatch,
    hrow, hnodup⟩

section Step

variable {height : Nat} (hspec : ∀ spec v, SpecValue .verbatim w height spec v →
  ∃ v', SpecValue .verbatim w' height spec v' ∧ v.Reordered v')
include hspec

theorem CellValue.exists_reordered {cell : Cell} {v : Value}
    (h : CellValue .verbatim w height cell v) :
    ∃ v', CellValue .verbatim w' height cell v' ∧ v.Reordered v' := by
  cases h with
  | scalar text => exact ⟨_, .scalar text, .scalar text⟩
  | reference hv =>
    obtain ⟨v', hv', hre⟩ := hspec _ v hv
    exact ⟨v', .reference hv', hre⟩
  | references value hv =>
    choose value' hv' hre using fun i => hspec _ _ (hv i)
    exact ⟨_, .references value' hv', .array value value' hre⟩

/-- If specifiers have reordered values, a row with its columns in another order has the fields of
its value in another order. -/
theorem RowValue.exists_reordered_of_specs {header header' : List String}
    {e : Fin header.length ≃ Fin header'.length} (hheader : ∀ i, header.get i = header'.get (e i))
    (hd : header.Nodup) {row row' : Row} (hrow : row.Matches row' e) {v : Value}
    (h : RowValue .verbatim w height header row v) :
    ∃ v', RowValue .verbatim w' height header' row' v' ∧ v.Reordered v' := by
  obtain ⟨key, value, hkey, hvalue, rfl⟩ := rowValue_iff.1 h
  obtain rfl : header.get = key := funext fun i => Option.some.inj (hkey i)
  choose value' hvalue' hre using fun i => (hvalue i).exists_reordered hspec
  have hcells : ∀ j : Fin header'.length,
      CellValue .verbatim w' height (Cell.classify (row'.cell j)) (value' (e.symm j)) := by
    intro j
    have hj := hvalue' (e.symm j)
    rwa [hrow, e.apply_symm_apply] at hj
  have hd' : header'.Nodup := (perm_of_get_eq hheader).nodup_iff.2 hd
  have hperm := perm_ofFn_of_equiv e fun j => (header'.get j, value' (e.symm j))
  simp only [← hheader, e.symm_apply_apply] at hperm
  refine ⟨_, .object header'.get (fun j => value' (e.symm j)) (fun _ => rfl) hcells, ?_⟩
  rw [ofColumns_of_nodup hd, ofColumns_of_nodup hd']
  exact .object _ value value' hre hperm

end Step

/-- Where the columns of all sheets are in another order, a row has the same value but for the order
of fields. The row that a specifier leads to is in another sheet, whose columns have an order of
their own. -/
theorem RowValue.exists_reordered (hw : w.MatchedIn w') : ∀ {height : Nat}
    {header header' : List String} {e : Fin header.length ≃ Fin header'.length},
    (∀ i, header.get i = header'.get (e i)) → header.Nodup → ∀ {row row' : Row},
      row.Matches row' e → ∀ {v : Value}, RowValue .verbatim w height header row v →
        ∃ v', RowValue .verbatim w' height header' row' v' ∧ v.Reordered v'
  | 0, _, _, _, hheader, hd, _, _, hrow, _, h =>
    h.exists_reordered_of_specs (fun _ _ hv => absurd hv not_specValue_zero) hheader hd hrow
  | height + 1, _, _, _, hheader, hd, _, _, hrow, _, h => by
    refine h.exists_reordered_of_specs (fun spec v hv => ?_) hheader hd hrow
    obtain ⟨d, hd, hv⟩ := specValue_succ_iff.1 hv
    obtain ⟨d', e, hd', hmatch, hrow, hnodup⟩ := hd.exists_matching hw
    obtain ⟨v', hv', hre⟩ := RowValue.exists_reordered hw hmatch.header (.of_map _ hnodup) hrow hv
    exact ⟨v', specValue_succ_iff.2 ⟨d', hd', hv'⟩, hre⟩

end Values

section Sheets

variable {w w' : Workbook} {limit : Nat} {name : String}

theorem exists_reordered_sheet (hw : w.MatchedIn w') {vs : List Value}
    (h : (Resolver.sheet ⟨.verbatim, limit⟩ w name).outcome = .ok vs) :
    ∃ vs', (Resolver.sheet ⟨.verbatim, limit⟩ w' name).outcome = .ok vs'
      ∧ List.Forall₂ Value.Reordered vs vs' := by
  rcases hs : w.sheet? name with _ | s
  · rw [Resolver.outcome_sheet_of_none _ _ hs] at h
    simp at h
  obtain ⟨s', e, hs', hmatch, hnodup⟩ := hw name s hs
  rw [Resolver.outcome_sheet _ _ hs, zipIdx_eq_ofFn, mapM_ofFn_eq_ok_iff] at h
  obtain ⟨y, rfl, hy⟩ := h
  have hrows : ∀ j : Fin s'.dataRows.length, ∃ v',
      (Resolver.resolveDataRow ⟨.verbatim, limit⟩ w' s' j (s'.dataRows.get j)).outcome = .ok v'
        ∧ (y (j.cast hmatch.length.symm)).Reordered v' := by
    intro j
    have hv := (resolve_eq_ok_iff limit).1 (hy (j.cast hmatch.length.symm))
    have hrow : Row.Matches (s.dataRows.get (j.cast hmatch.length.symm)) (s'.dataRows.get j) e :=
      hmatch.rows j _ _ (by simp) (by simp)
    obtain ⟨v', hv', hre⟩ := hv.exists_reordered hw hmatch.header (.of_map _ hnodup) hrow
    exact ⟨v', (resolve_eq_ok_iff limit).2 hv', hre⟩
  choose y' hy' hre using hrows
  refine ⟨List.ofFn y', ?_, ?_⟩
  · rw [Resolver.outcome_sheet _ _ hs', zipIdx_eq_ofFn, mapM_ofFn_eq_ok_iff]
    exact ⟨y', rfl, hy'⟩
  · refine List.forall₂_iff_get.2 ⟨by simpa using hmatch.length, fun i hi hi' => ?_⟩
    rw [List.get_eq_getElem, List.get_eq_getElem, List.getElem_ofFn, List.getElem_ofFn]
    exact hre ⟨i, by simpa using hi'⟩

section Typed

variable {α : Type} {decode : Value → Except DecodeFailure α}
  (hdecode : ∀ {v v' : Value}, v.Reordered v' → ∀ d, decode v = .ok d → decode v' = .ok d)
include hdecode

theorem decodes_of_reordered {vs vs' : List Value} (h : List.Forall₂ Value.Reordered vs vs')
    {ds : List α} (hds : List.Forall₂ (fun v d => decode v = .ok d) vs ds) :
    List.Forall₂ (fun v d => decode v = .ok d) vs' ds := by
  induction h generalizing ds with
  | nil => exact hds
  | cons hv _ ih =>
    obtain ⟨d, ds', hd, hds', rfl⟩ := List.forall₂_cons_left_iff.1 hds
    exact .cons (hdecode hv d hd) (ih hds')

theorem parseBy_of_matchedIn (hw : w.MatchedIn w') {ds : List α}
    (h : (Resolver.parseBy ⟨.verbatim, limit⟩ w decode name).outcome = .ok ds) :
    (Resolver.parseBy ⟨.verbatim, limit⟩ w' decode name).outcome = .ok ds := by
  obtain ⟨vs, hvs, hds⟩ := Resolver.parseBy_eq_ok_iff.1 h
  obtain ⟨vs', hvs', hre⟩ := exists_reordered_sheet hw hvs
  exact Resolver.parseBy_eq_ok_iff.2 ⟨vs', hvs', decodes_of_reordered hdecode hre hds⟩

end Typed

theorem parse_of_matchedIn (hw : w.MatchedIn w') {schema : Schema} (hs : schema.ByName)
    {ds : List Datum} (h : (Resolver.parse ⟨.verbatim, limit⟩ w schema name).outcome = .ok ds) :
    (Resolver.parse ⟨.verbatim, limit⟩ w' schema name).outcome = .ok ds :=
  parseBy_of_matchedIn (fun hv d => (hv.decode_eq_ok_iff hs d).1) hw h

end Sheets

section Rearranged

variable (sheet : Sheet) (σ : Equiv.Perm (Fin sheet.header.length))

theorem header_rearrange :
    (sheet.rearrange σ).header = List.ofFn fun i => sheet.header.get (σ i) := by
  obtain ⟨name, rows⟩ := sheet
  rcases rows with _ | ⟨header, rows⟩
  · rfl
  · refine congrArg List.ofFn (funext fun i => ?_)
    simp [Row.cell, Sheet.header]

theorem dataRows_rearrange : (sheet.rearrange σ).dataRows
    = sheet.dataRows.map fun row => List.ofFn fun i => row.cell (σ i) :=
  List.map_tail.symm

/-- The place that a column has in the rearranged sheet. -/
def Sheet.newPlace : Fin sheet.header.length ≃ Fin (sheet.rearrange σ).header.length :=
  σ.symm.trans (finCongr (by rw [header_rearrange, List.length_ofFn]))

theorem matches_rearrange : sheet.Matches (sheet.rearrange σ) (sheet.newPlace σ) where
  header i := by
    rw [List.get_eq_getElem, List.get_eq_getElem, List.getElem_of_eq (header_rearrange sheet σ)]
    simp [Sheet.newPlace]
  length := by rw [dataRows_rearrange, List.length_map]
  rows index row row' hrow hrow' i := by
    rw [dataRows_rearrange, List.getElem?_map, hrow] at hrow'
    obtain rfl := Option.some.inj hrow'
    simp [Row.cell, Sheet.newPlace]

end Rearranged

namespace Workbook

variable {w : Workbook} (hw : ∀ sheet ∈ w.sheets, (sheet.header.map Text.trim).Nodup)
  (σ : (sheet : Sheet) → Equiv.Perm (Fin sheet.header.length))

theorem sheet?_rearrange (name : String) :
    (w.rearrange σ).sheet? name = (w.sheet? name).map fun sheet => sheet.rearrange (σ sheet) := by
  rw [sheet?, rearrange, List.find?_map]
  rfl

include hw

theorem matchedIn_rearrange : w.MatchedIn (w.rearrange σ) := by
  intro name s hs
  refine ⟨_, _, ?_, matches_rearrange s (σ s), hw s (sheet?_eq_some_iff.1 hs).1⟩
  rw [sheet?_rearrange, hs, Option.map_some]

theorem rearrange_matchedIn : (w.rearrange σ).MatchedIn w := by
  intro name s' hs'
  rw [sheet?_rearrange, Option.map_eq_some_iff] at hs'
  obtain ⟨s, hs, rfl⟩ := hs'
  have hmatch := matches_rearrange s (σ s)
  refine ⟨s, _, hs, hmatch.symm, ((perm_of_get_eq hmatch.header).map _).nodup_iff.2 ?_⟩
  exact hw s (sheet?_eq_some_iff.1 hs).1

end Workbook

/-- With the names of columns for keys, and in every sheet with names that differ even without
blanks, the order of the columns decides only the order of fields. Whatever order the columns of
each sheet are put in, the same sheets resolve, to values that are the same but for the order of the
fields of objects, at all levels. By a schema that reads objects by name the same sheets decode, and
to the same. -/
theorem outcome_of_rearranged (w : Workbook)
    (hw : ∀ sheet ∈ w.sheets, (sheet.header.map Text.trim).Nodup)
    (σ : (sheet : Sheet) → Equiv.Perm (Fin sheet.header.length)) (limit : Nat) (name : String) :
    ((∃ vs, (Resolver.sheet ⟨.verbatim, limit⟩ w name).outcome = .ok vs) ↔
        ∃ vs', (Resolver.sheet ⟨.verbatim, limit⟩ (w.rearrange σ) name).outcome = .ok vs')
      ∧ (∀ vs vs', (Resolver.sheet ⟨.verbatim, limit⟩ w name).outcome = .ok vs →
        (Resolver.sheet ⟨.verbatim, limit⟩ (w.rearrange σ) name).outcome = .ok vs' →
          List.Forall₂ Value.Reordered vs vs')
      ∧ ∀ schema : Schema, schema.ByName → ∀ ds,
        (Resolver.parse ⟨.verbatim, limit⟩ w schema name).outcome = .ok ds ↔
          (Resolver.parse ⟨.verbatim, limit⟩ (w.rearrange σ) schema name).outcome = .ok ds := by
  have hforth := Workbook.matchedIn_rearrange hw σ
  have hback := Workbook.rearrange_matchedIn hw σ
  refine ⟨⟨?_, ?_⟩, ?_, fun schema hs ds => ⟨?_, ?_⟩⟩
  · rintro ⟨vs, hvs⟩
    obtain ⟨vs', hvs', -⟩ := exists_reordered_sheet hforth hvs
    exact ⟨vs', hvs'⟩
  · rintro ⟨vs', hvs'⟩
    obtain ⟨vs, hvs, -⟩ := exists_reordered_sheet hback hvs'
    exact ⟨vs, hvs⟩
  · intro vs vs' hvs hvs'
    obtain ⟨us, hus, hre⟩ := exists_reordered_sheet hforth hvs
    obtain rfl : us = vs' := by simpa [hus] using hvs'
    exact hre
  · exact parse_of_matchedIn hforth hs
  · exact parse_of_matchedIn hback hs

section Customers

def customers : Workbook where
  sheets := [⟨"address", [["zip", "city"], ["1", "Bern"]]⟩,
    ⟨"customer", [["name", "home", "age"], ["Ann", "reference:address@zip#1", "41"]]⟩]
  sorted := by decide

def address : Schema :=
  .record "struct Address" false [⟨"zip", .leaf .text, none⟩, ⟨"city", .leaf .text, none⟩]

def customer : Schema :=
  .record "struct Customer" false [⟨"name", .leaf .text, none⟩,
    ⟨"age", .leaf (.integer ⟨false, 8⟩), none⟩, ⟨"home", .option address, none⟩]

theorem byName_customer : customer.ByName := by
  have haddress : address.ByName := .record (by simp [Schema.ByName.leaf])
  exact .record (by simp [Schema.ByName.leaf, Schema.ByName.option haddress])

theorem outcome_of_rearranged_customers :
    (∀ sheet ∈ customers.sheets, (sheet.header.map Text.trim).Nodup)
      ∧ List.Forall₂ Value.Reordered
        [.object [("name", .scalar "Ann"),
          ("home", .object [("zip", .scalar "1"), ("city", .scalar "Bern")]),
          ("age", .scalar "41")]]
        [.object [("age", .scalar "41"),
          ("home", .object [("city", .scalar "Bern"), ("zip", .scalar "1")]),
          ("name", .scalar "Ann")]]
      ∧ customer.ByName
      ∧ (Resolver.parse ⟨.verbatim, 1⟩ (customers.rearrange fun _ => Fin.revPerm) customer
          "customer").outcome
        = .ok [.table [("name", .text "Ann"), ("age", .integer 41),
          ("home", .table [("zip", .text "1"), ("city", .text "Bern")])]] := by
  have hw : ∀ sheet ∈ customers.sheets, (sheet.header.map Text.trim).Nodup := by decide
  obtain ⟨-, hre, hparse⟩ :=
    outcome_of_rearranged customers hw (fun _ => Fin.revPerm) 1 "customer"
  exact ⟨hw, hre _ _ rfl rfl, byName_customer, (hparse customer byName_customer _).1 rfl⟩

end Customers

end LinkedSheets
