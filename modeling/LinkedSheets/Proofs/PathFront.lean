import LinkedSheets.Proofs.Lenient
import LinkedSheets.Proofs.RecordValue

/-!
# What leads to a row

A row is resolved with the path that leads to it, which is empty where the row is resolved by itself
and otherwise names its sheet and its number. Every path of a failure begins with it, and it is used
for nothing else: with more in front of the path a row comes to what it comes to without, and a
failure has the same in front of its path (`outcome_resolve_under`).

A data row that is read with its sheet is therefore resolved like the row alone. What became of it
can be told from what a lenient reading of the sheet lists, by the number of the row
(`Materialized.result?`), and it is what the row alone comes to (`result?_of_resolveRow`).
-/

namespace LinkedSheets

/-- The same failure, with more in front of its path if it keeps one. -/
def ResolutionFailure.under (front : FieldPath) : ResolutionFailure → ResolutionFailure
  | unknownSheet sheet field => unknownSheet sheet (front ++ field)
  | rowNotFound field target => rowNotFound (front ++ field) target
  | malformedSpec field spec => malformedSpec (front ++ field) spec
  | tooDeep limit field => tooDeep limit (front ++ field)
  | other => other

theorem ResolutionFailure.field?_under (front : FieldPath) (e : ResolutionFailure) :
    (e.under front).field? = e.field?.map (front ++ ·) := by
  cases e <;> rfl

/-- What became of the data row of that number: its failure if it was skipped, and otherwise the
value behind those of the rows before it that were not. -/
def Materialized.result? (m : Materialized) (index : Nat) :
    Option (Except ResolutionFailure Value) :=
  match m.skipped.lookup index with
  | some e => some (.error e)
  | none => m.values[(List.range index).countP (· ∉ m.skipped.map (·.1))]?.map .ok

theorem FieldPath.text_cons_cons {first second : String} {rest : FieldPath} (h : rest ≠ []) :
    FieldPath.text (first :: second :: rest) = first ++ "." ++ second ++ "." ++ rest.text := by
  obtain ⟨third, rest, rfl⟩ := List.exists_cons_of_ne_nil h
  simp only [FieldPath.text, String.intercalate_cons_cons, String.append_assoc]

theorem Walk.path_ne_nil {keys : KeyNaming} {w : Workbook} {height : Nat} {header : List String}
    {row : Row} {path : FieldPath} {rows : List (DataRow w)} {last : String}
    (h : Walk keys w height header row path rows last) : path ≠ [] := by
  cases h with
  | stop p hp => simp [Place.segments]
  | follow p hp d hd h => simp [Place.segments]

namespace Resolver

section Front

variable {r : Resolver} {w : Workbook} {front : FieldPath} {deeper : Option RowReader}

theorem locate_under (path : FieldPath) (t : Target) :
    locate w (front ++ path) t = (locate w path t).mapError (.under front) := by
  rw [locate, locate]
  rcases w.sheet? t.sheet with _ | sheet
  · rfl
  dsimp only
  rcases sheet.findRow t.column t.value with ⟨name, column⟩ | _ | p <;> rfl

theorem outcome_follow_under (hdeeper : ∀ next ∈ deeper, ∀ path header row,
      (next (front ++ path) header row).outcome
        = (next path header row).outcome.mapError (.under front))
    (path : FieldPath) (spec : String) :
    (follow r w deeper (front ++ path) spec).outcome
      = (follow r w deeper path spec).outcome.mapError (.under front) := by
  rcases ht : Target.parse? spec with _ | t
  · simp only [follow, ht]
    rfl
  rcases deeper with _ | next
  · simp only [follow, ht]
    rfl
  · simp only [follow, ht, Traced.outcome_bind, Traced.outcome_ofExcept, Traced.outcome_emit,
      ok_bind, locate_under, mapError_bind, hdeeper next rfl]

section Step

variable (hfollow : ∀ path spec, (follow r w deeper (front ++ path) spec).outcome
  = (follow r w deeper path spec).outcome.mapError (.under front))
include hfollow

theorem outcome_readCell_under (path : FieldPath) (cell : Cell) :
    (readCell r w deeper (front ++ path) cell).outcome
      = (readCell r w deeper path cell).outcome.mapError (.under front) := by
  cases cell with
  | scalar text => rfl
  | reference spec => exact hfollow path spec
  | references specs =>
    simp only [outcome_readCell_references, List.append_assoc, hfollow, mapError_map,
      mapError_mapM]

theorem readColumn_under (path : FieldPath) (column : String × String) :
    readColumn r w deeper (front ++ path) column
      = (readColumn r w deeper path column).mapError (.under front) := by
  have hkey : r.keyOf column.1 (.classify column.2)
      = (r.keyOf column.1 (.classify column.2)).mapError (.under front) := by
    rw [keyOf]
    rcases r.keys.key? column.1 (Cell.classify column.2).isReference with _ | key <;> rfl
  rw [readColumn, readColumn, mapError_bind, ← hkey]
  simp only [List.append_assoc, outcome_readCell_under hfollow, mapError_bind]
  rfl

theorem outcome_readRow_under (path : FieldPath) (header : List String) (row : Row) :
    (readRow r w deeper (front ++ path) header row).outcome
      = (readRow r w deeper path header row).outcome.mapError (.under front) := by
  have hcolumn : readColumn r w deeper (front ++ path)
      = fun column => (readColumn r w deeper path column).mapError (.under front) :=
    funext (readColumn_under hfollow path)
  rw [outcome_readRow, outcome_readRow, mapError_map, mapError_mapM, hcolumn]

end Step

/-- With more in front of the path a row comes to the same, and so does its failure. -/
theorem outcome_resolve_under : ∀ (depth : Nat) (path : FieldPath) (header : List String)
    (row : Row), (r.resolve w depth (front ++ path) header row).outcome
      = (r.resolve w depth path header row).outcome.mapError (.under front)
  | 0, path, header, row => outcome_readRow_under (outcome_follow_under (by simp)) path header row
  | depth + 1, path, header, row =>
    outcome_readRow_under (outcome_follow_under fun next hn => by
      obtain rfl := Option.mem_some.1 hn
      exact outcome_resolve_under depth) path header row

theorem outcome_resolveDataRow (sheet : Sheet) (index : Nat) (row : Row) :
    (r.resolveDataRow w sheet index row).outcome
      = (r.resolveRow w sheet.header row).outcome.mapError (.under [sheet.name, index.repr]) :=
  @outcome_resolve_under r w [sheet.name, index.repr] r.maxDepth [] sheet.header row

end Front

section Listed

/-- An element that is kept by a filter comes behind those before it that are. -/
theorem getElem?_filter_countP {α : Type} {p : α → Bool} {x : α} (hx : p x) :
    ∀ {xs : List α} {i : Nat}, xs[i]? = some x → (xs.filter p)[(xs.take i).countP p]? = some x
  | [], i, h => by simp at h
  | y :: xs, 0, h => by
    obtain rfl : y = x := by simpa using h
    simp [hx]
  | y :: xs, i + 1, h => by
    have h : xs[i]? = some x := by simpa using h
    have ih := getElem?_filter_countP hx h
    by_cases hy : p y <;> simp [hy, ih]

variable {r : Resolver} {w : Workbook} {sheet : Sheet} {m : Materialized}
  (hm : m.Covers r w sheet)
include hm

theorem lookup_skipped_eq_some_iff {index : Nat} {row : Row}
    (hrow : sheet.dataRows[index]? = some row) {e : ResolutionFailure} :
    m.skipped.lookup index = some e ↔ (r.resolveDataRow w sheet index row).outcome = .error e := by
  rw [lookup_eq_some_iff_mem (hm.increasing.imp Nat.ne_of_lt), hm.mem_skipped_iff]
  simp [hrow]

/-- What is listed of a row is what it came to. -/
theorem result?_eq_of_covers {index : Nat} {row : Row} (hrow : sheet.dataRows[index]? = some row) :
    m.result? index = some (r.resolveDataRow w sheet index row).outcome := by
  rcases hr : (r.resolveDataRow w sheet index row).outcome with e | v
  · rw [Materialized.result?, (lookup_skipped_eq_some_iff hm hrow).2 hr]
  have hnone : m.skipped.lookup index = none := by
    rcases hl : m.skipped.lookup index with _ | e
    · rfl
    · rw [(lookup_skipped_eq_some_iff hm hrow).1 hl] at hr
      simp at hr
  have hnot : index ∉ m.skipped.map (·.1) := lookup_eq_none_iff_not_mem.1 hnone
  obtain ⟨hlt, -⟩ := List.getElem?_eq_some_iff.1 hrow
  have hrange : List.range index = (sheet.dataRows.zipIdx.take index).map (·.2) := by
    rw [List.map_take, List.zipIdx_map_snd, ← List.range_eq_range', List.take_range,
      Nat.min_eq_left (Nat.le_of_lt hlt)]
  have hkept := @getElem?_filter_countP _ (fun p : Row × Nat => p.2 ∉ m.skipped.map (·.1))
    (row, index) (by simpa using hnot) sheet.dataRows.zipIdx index
    (by simp [List.getElem?_zipIdx, hrow])
  have hvalues := congrArg (·[(sheet.dataRows.zipIdx.take index).countP
    (·.2 ∉ m.skipped.map (·.1))]?) hm.values
  simp only [List.getElem?_map] at hvalues
  rw [hkept] at hvalues
  rw [Materialized.result?, hnone, hrange, List.countP_map]
  exact hvalues.symm.trans (congrArg some hr)

end Listed

theorem field_ne_nil_of_resolveRow {r : Resolver} {w : Workbook} {header : List String} {row : Row}
    {e : ResolutionFailure} {field : FieldPath} (h : (r.resolveRow w header row).outcome = .error e)
    (he : e.field? = some field) : field ≠ [] := by
  obtain ⟨rest, rows, last, hwalk, hfail⟩ := exists_walk_of_resolve (Nat.zero_add _) h he
  obtain rfl : field = rest := Option.some.inj (he.symm.trans hfail.field?_eq)
  exact hwalk.path_ne_nil

/-- A data row of a sheet that is read leniently has the value that the row has when it is resolved
alone with the header of the sheet, and fails where that fails. The failure is the same but for its
path, and the text of its path is that of the other one behind the name of the sheet and the number
of the row. -/
theorem result?_of_resolveRow (r : Resolver) {w : Workbook} {name : String} {sheet : Sheet}
    (hs : w.sheet? name = some sheet) {index : Nat} {row : Row}
    (hrow : sheet.dataRows[index]? = some row) :
    ∃ m, (r.sheetLeniently w name).outcome = .ok m
      ∧ (∀ v, m.result? index = some (.ok v) ↔
        (r.resolveRow w sheet.header row).outcome = .ok v)
      ∧ (∀ e', m.result? index = some (.error e') ↔
        ∃ e, (r.resolveRow w sheet.header row).outcome = .error e
          ∧ e' = e.under [name, index.repr])
      ∧ ∀ e field, (r.resolveRow w sheet.header row).outcome = .error e → e.field? = some field →
        ∃ field', (e.under [name, index.repr]).field? = some field'
          ∧ field'.text = name ++ "." ++ index.repr ++ "." ++ field.text := by
  obtain rfl := name_of_sheet? hs
  have hresult := result?_eq_of_covers (covers_materialized (r := r) (w := w)) hrow
  rw [outcome_resolveDataRow] at hresult
  refine ⟨_, outcome_sheetLeniently r w sheet hs, fun v => ?_, fun e' => ?_,
    fun e field he hfield => ⟨sheet.name :: index.repr :: field, ?_, ?_⟩⟩
  · rw [hresult, Option.some.injEq, mapError_eq_ok_iff]
  · rw [hresult]
    rcases (r.resolveRow w sheet.header row).outcome with e | u <;>
      simp [Except.mapError, eq_comm]
  · rw [ResolutionFailure.field?_under, hfield]
    rfl
  · exact FieldPath.text_cons_cons (field_ne_nil_of_resolveRow he hfield)

/-- The second order alone fails at its second stop, and in its sheet it is listed with that. -/
theorem result?_of_resolveRow_orders :
    orders.sheet? "order" = some ⟨"order", [["id", "stops"], ["a", "listReference:address@zip#1"],
        ["b", "listReference:address@zip#1,address@zip#2"]]⟩
      ∧ (resolveRow ⟨.verbatim, 2⟩ orders ["id", "stops"]
          ["b", "listReference:address@zip#1,address@zip#2"]).outcome
        = .error (.rowNotFound ["stops", "1", "city"] ⟨"city", "name", "Oslo"⟩)
      ∧ ∃ m, (sheetLeniently ⟨.verbatim, 2⟩ orders "order").outcome = .ok m
        ∧ m.result? 1 = some (.error
          (.rowNotFound ["order", "1", "stops", "1", "city"] ⟨"city", "name", "Oslo"⟩)) := by
  have hs : orders.sheet? "order" = some ⟨"order", [["id", "stops"],
      ["a", "listReference:address@zip#1"], ["b", "listReference:address@zip#1,address@zip#2"]]⟩ :=
    rfl
  have hrow : (resolveRow ⟨.verbatim, 2⟩ orders ["id", "stops"]
      ["b", "listReference:address@zip#1,address@zip#2"]).outcome
        = .error (.rowNotFound ["stops", "1", "city"] ⟨"city", "name", "Oslo"⟩) := rfl
  obtain ⟨m, hm, -, herror, -⟩ := @result?_of_resolveRow ⟨.verbatim, 2⟩ orders "order" _ hs 1 _ rfl
  exact ⟨hs, hrow, m, hm, (herror _).2 ⟨_, hrow, rfl⟩⟩

end Resolver

end LinkedSheets
