import LinkedSheets.Proofs.DataRow

/-!
# More sheets and more rows

A workbook may be extended by sheets of other names, and by data rows behind those of a sheet that
has a header. A look-up takes the first row that matches and never looks at the header, so what it
finds it still finds in the extension, with the same columns (`findRow_append_of_some`,
`locate_of_extendedBy`).

Resolving a row in both workbooks is then compared step by step. As long as nothing is missing the
two go the same way, so whatever a row comes to, other than a sheet or a row that is missing, it
comes to in the extension (`resolve_sameUnless_of_extendedBy`).
-/

namespace LinkedSheets

/-- A sheet or a row is missing. -/
def ResolutionFailure.IsMissing : ResolutionFailure → Prop
  | unknownSheet .. | rowNotFound .. => True
  | _ => False

/-- Every sheet is in the other workbook too, with more data rows behind its own if it has a header;
whatever else is in there. -/
def Workbook.ExtendedBy (w w' : Workbook) : Prop :=
  ∀ sheet ∈ w.sheets, ∃ more : List Row, (sheet.rows = [] → more = [])
    ∧ ⟨sheet.name, sheet.rows ++ more⟩ ∈ w'.sheets

section Append

variable {sheet : Sheet} {more : List Row} (hmore : sheet.rows = [] → more = [])
include hmore

theorem header_append : (Sheet.mk sheet.name (sheet.rows ++ more)).header = sheet.header := by
  rcases hr : sheet.rows with _ | ⟨header, rows⟩
  · simp [Sheet.header, hr, hmore hr]
  · simp [Sheet.header, hr]

theorem dataRows_append :
    (Sheet.mk sheet.name (sheet.rows ++ more)).dataRows = sheet.dataRows ++ more := by
  rcases hr : sheet.rows with _ | ⟨header, rows⟩
  · simp [Sheet.dataRows, hr, hmore hr]
  · simp [Sheet.dataRows, hr]

theorem columnIndex?_append (column : String) :
    (Sheet.mk sheet.name (sheet.rows ++ more)).columnIndex? column = sheet.columnIndex? column := by
  rw [Sheet.columnIndex?, Sheet.columnIndex?, header_append hmore]

theorem rowWith?_append_of_some {column : Nat} {value : String} {p : Row × Nat}
    (h : sheet.rowWith? column value = some p) :
    (Sheet.mk sheet.name (sheet.rows ++ more)).rowWith? column value = some p := by
  rw [Sheet.rowWith?] at h ⊢
  rw [dataRows_append hmore, List.zipIdx_append, List.find?_append, h, Option.some_or]

/-- The first row of a column with the value stays the first one. -/
theorem findRow_append_of_some {column value : String} {p : Row × Nat}
    (h : sheet.findRow column value = .ok (some p)) :
    (Sheet.mk sheet.name (sheet.rows ++ more)).findRow column value = .ok (some p) := by
  unfold Sheet.findRow at h ⊢
  rw [columnIndex?_append hmore]
  split at h
  · rw [Except.ok.injEq] at h
    exact congrArg Except.ok (rowWith?_append_of_some hmore h)
  · simp at h

theorem findRow_append_of_error {column value : String} {e : String × String}
    (h : sheet.findRow column value = .error e) :
    (Sheet.mk sheet.name (sheet.rows ++ more)).findRow column value = .error e := by
  unfold Sheet.findRow at h ⊢
  rw [columnIndex?_append hmore]
  split at h
  · simp at h
  · exact h

end Append

namespace Resolver

variable {r : Resolver} {w w' : Workbook} (hw : w.ExtendedBy w')
include hw

theorem sheet?_of_extendedBy {name : String} {sheet : Sheet} (h : w.sheet? name = some sheet) :
    ∃ more : List Row, (sheet.rows = [] → more = [])
      ∧ w'.sheet? name = some ⟨sheet.name, sheet.rows ++ more⟩ := by
  obtain ⟨hmem, rfl⟩ := sheet?_eq_some_iff.1 h
  obtain ⟨more, hmore, hmem'⟩ := hw sheet hmem
  exact ⟨more, hmore, sheet?_eq_some_iff.2 ⟨hmem', rfl⟩⟩

theorem locate_of_extendedBy {path : FieldPath} {t : Target} {sheet : Sheet} {row : Row}
    (h : locate w path t = .ok (sheet, row)) :
    ∃ sheet', locate w' path t = .ok (sheet', row) ∧ sheet'.header = sheet.header := by
  obtain ⟨d, hs, hr, rfl, rfl⟩ := locate_eq_ok_iff.1 h
  obtain ⟨more, hmore, hs'⟩ := sheet?_of_extendedBy hw hs
  refine ⟨_, ?_, header_append hmore⟩
  simp [locate, hs', findRow_append_of_some hmore hr]

theorem locate_error_of_extendedBy {path : FieldPath} {t : Target} {e : ResolutionFailure}
    (h : locate w path t = .error e) (he : ¬ e.IsMissing) : locate w' path t = .error e := by
  unfold locate at h
  split at h
  · obtain rfl := Except.error.inj h
    exact absurd trivial he
  rename_i sheet hs
  obtain ⟨more, hmore, hs'⟩ := sheet?_of_extendedBy hw hs
  split at h
  · rename_i hc
    simpa [locate, hs', findRow_append_of_error hmore hc] using h
  · obtain rfl := Except.error.inj h
    exact absurd trivial he
  · simp at h

theorem follow_sameUnless_of_extendedBy {next next' : RowReader}
    (h : ∀ path header row, SameUnless ResolutionFailure.IsMissing (next path header row).outcome
      (next' path header row).outcome) (path : FieldPath) (spec : String) :
    SameUnless ResolutionFailure.IsMissing (follow r w (some next) path spec).outcome
      (follow r w' (some next') path spec).outcome := by
  rcases ht : Target.parse? spec with _ | t
  · simp only [follow, ht]
    exact .refl _
  simp only [follow, ht, Traced.outcome_bind, Traced.outcome_ofExcept, Traced.outcome_emit]
  rcases hl : locate w path t with e | ⟨sheet, row⟩
  · by_cases he : e.IsMissing
    · exact .inr ⟨e, he, rfl⟩
    · rw [locate_error_of_extendedBy hw hl he]
      exact .refl _
  · obtain ⟨sheet', hl', hheader⟩ := locate_of_extendedBy hw hl
    rw [hl']
    simp only [ok_bind, hheader]
    exact h path sheet.header row

theorem resolve_sameUnless_of_extendedBy : ∀ (depth : Nat) (path : FieldPath)
    (header : List String) (row : Row),
    SameUnless ResolutionFailure.IsMissing (r.resolve w depth path header row).outcome
      (r.resolve w' depth path header row).outcome
  | 0 => readRow_sameUnless rfl fun path spec => by
    rcases ht : Target.parse? spec with _ | t <;> simp only [follow, ht] <;> exact .refl _
  | depth + 1 =>
    readRow_sameUnless rfl
      (follow_sameUnless_of_extendedBy hw (resolve_sameUnless_of_extendedBy depth))

end Resolver

/-- In an extension a row comes to what it came to before, unless a sheet or a row was missing.
Every data row is still there, under its number, and comes to what it came to as well. -/
theorem outcome_of_extendedBy (r : Resolver) {w w' : Workbook} (hw : w.ExtendedBy w') :
    (∀ header row, (∀ e, (r.resolveRow w header row).outcome = .error e → ¬ e.IsMissing) →
        (r.resolveRow w' header row).outcome = (r.resolveRow w header row).outcome)
      ∧ ∀ a : DataRow w, ∃ b : DataRow w', b.sheet.name = a.sheet.name ∧ b.index = a.index
        ∧ b.row = a.row ∧ b.sheet.header = a.sheet.header
        ∧ ((∀ e, (r.resolveDataRow w a.sheet a.index a.row).outcome = .error e → ¬ e.IsMissing) →
          (r.resolveDataRow w' b.sheet b.index b.row).outcome
            = (r.resolveDataRow w a.sheet a.index a.row).outcome) := by
  refine ⟨fun header row =>
    (Resolver.resolve_sameUnless_of_extendedBy hw _ [] header row).eq_of_not_excused, fun a => ?_⟩
  obtain ⟨more, hmore, hs⟩ := Resolver.sheet?_of_extendedBy hw a.sheet_eq
  have hrow : (Sheet.mk a.sheet.name (a.sheet.rows ++ more)).dataRows[a.index]? = some a.row := by
    obtain ⟨hlt, -⟩ := List.getElem?_eq_some_iff.1 a.row_eq
    rw [dataRows_append hmore, List.getElem?_append_left hlt, a.row_eq]
  refine ⟨⟨_, a.index, a.row, hs, hrow⟩, rfl, rfl, rfl, header_append hmore, fun h => ?_⟩
  rw [Resolver.resolveDataRow, header_append hmore]
  exact (Resolver.resolve_sameUnless_of_extendedBy hw _ _ a.sheet.header a.row).eq_of_not_excused h

section Addresses

def Workbook.addresses : Workbook where
  sheets := [⟨"address", [["zip", "country"], ["1", "CA"]]⟩]
  sorted := List.pairwise_singleton _ _

/-- The same with a second address of that zip behind the first, and with a sheet more. -/
def Workbook.moreAddresses : Workbook where
  sheets := [⟨"address", [["zip", "country"], ["1", "CA"], ["1", "US"]]⟩,
    ⟨"phone", [["id"], ["p"]]⟩]
  sorted := by decide

theorem extendedBy_moreAddresses : Workbook.addresses.ExtendedBy .moreAddresses := by
  intro sheet hs
  obtain rfl := List.mem_singleton.1 hs
  exact ⟨[["1", "US"]], by simp, List.mem_cons_self⟩

theorem outcome_of_extendedBy_addresses :
    Workbook.addresses.ExtendedBy .moreAddresses
      ∧ (∀ e, (Resolver.resolveRow ⟨.verbatim, 1⟩ .addresses ["home"]
          ["reference:address@zip#1"]).outcome = .error e → ¬ e.IsMissing)
      ∧ (Resolver.resolveRow ⟨.verbatim, 1⟩ .moreAddresses ["home"]
          ["reference:address@zip#1"]).outcome
        = .ok (.object [("home", .object [("zip", .scalar "1"), ("country", .scalar "CA")])]) := by
  have hw := extendedBy_moreAddresses
  have h : (Resolver.resolveRow ⟨.verbatim, 1⟩ .addresses ["home"]
      ["reference:address@zip#1"]).outcome
    = .ok (.object [("home", .object [("zip", .scalar "1"), ("country", .scalar "CA")])]) := rfl
  have hfound : ∀ e, (Resolver.resolveRow ⟨.verbatim, 1⟩ .addresses ["home"]
      ["reference:address@zip#1"]).outcome = .error e → ¬ e.IsMissing := by
    intro e he
    rw [h] at he
    cases he
  exact ⟨hw, hfound, ((outcome_of_extendedBy _ hw).1 _ _ hfound).trans h⟩

end Addresses

end LinkedSheets
