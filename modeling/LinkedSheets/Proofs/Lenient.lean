import LinkedSheets.Proofs.FieldPath

/-!
# Going on after a failure

A sheet that is read leniently goes on where a sheet that is read strictly stops. What it lists is,
together, what became of each row (`covers_materialized`), the strict reading can be told from it
(`outcome_sheet_eq`), and its events tell of each row that was left out, as it was left out
(`skipping_readRowsLeniently`).
-/

namespace LinkedSheets

/-- The values and the skipped rows are what became of the rows of the sheet: a number stands among
the skipped ones with the failure of its row, and the values are those of the other rows. -/
structure Materialized.Covers (r : Resolver) (w : Workbook) (sheet : Sheet) (m : Materialized) :
    Prop where
  increasing : (m.skipped.map (·.1)).Pairwise (· < ·)
  mem_skipped_iff : ∀ index e, (index, e) ∈ m.skipped ↔ ∃ row, sheet.dataRows[index]? = some row
    ∧ (r.resolveDataRow w sheet index row).outcome = .error e
  values : (sheet.dataRows.zipIdx.filter fun (_, index) => index ∉ m.skipped.map (·.1)).map
      (fun (row, index) => (r.resolveDataRow w sheet index row).outcome) = m.values.map .ok
  length_eq : m.values.length + m.skipped.length = sheet.dataRows.length

namespace Resolver

variable (r : Resolver) (w : Workbook) (sheet : Sheet)

section Outcome

/-- What became of some rows of a sheet, each with its number. -/
def materialized (rows : List (Row × Nat)) : Materialized where
  values := rows.filterMap fun p => (r.resolveDataRow w sheet p.2 p.1).outcome.toOption
  skipped := rows.filterMap fun p =>
    (failure? (r.resolveDataRow w sheet p.2 p.1).outcome).map (p.2, ·)

theorem outcome_readRowsLeniently : ∀ rows : List (Row × Nat),
    (r.readRowsLeniently w sheet rows).outcome = .ok (r.materialized w sheet rows)
  | [] => rfl
  | (row, index) :: rows => by
    have ih := outcome_readRowsLeniently rows
    simp only [readRowsLeniently, Traced.outcome_bind, Traced.outcome_attempt, ok_bind]
    rcases hr : (r.resolveDataRow w sheet index row).outcome with e | v
    · simp [Traced.outcome_bind, ih, materialized, hr]
    · simp [Traced.outcome_bind, ih, materialized, hr]

theorem outcome_sheetLeniently {name : String} (h : w.sheet? name = some sheet) :
    (r.sheetLeniently w name).outcome = .ok (r.materialized w sheet sheet.dataRows.zipIdx) := by
  simp [sheetLeniently, openSheet, h, Traced.outcome_bind, outcome_readRowsLeniently]

theorem outcome_sheetLeniently_of_none {name : String} (h : w.sheet? name = none) :
    (r.sheetLeniently w name).outcome = .error (.unknownSheet name []) := by
  simp [sheetLeniently, openSheet, h, Traced.outcome_bind]

theorem sheetLeniently_eq_ok_iff {name : String} {m : Materialized} :
    (r.sheetLeniently w name).outcome = .ok m ↔ ∃ sheet, w.sheet? name = some sheet
      ∧ m = r.materialized w sheet sheet.dataRows.zipIdx := by
  rcases hs : w.sheet? name with _ | sheet
  · simp [outcome_sheetLeniently_of_none r w hs]
  · simp [outcome_sheetLeniently r w sheet hs, eq_comm]

theorem sheetLeniently_eq_error_iff {name : String} {e : ResolutionFailure} :
    (r.sheetLeniently w name).outcome = .error e ↔
      w.sheet? name = none ∧ e = .unknownSheet name [] := by
  rcases hs : w.sheet? name with _ | sheet
  · simp [outcome_sheetLeniently_of_none r w hs, eq_comm]
  · simp [outcome_sheetLeniently r w sheet hs]

theorem map_snd_skipped (rows : List (Row × Nat)) :
    (r.materialized w sheet rows).skipped.map (·.2)
      = rows.filterMap fun p => failure? (r.resolveDataRow w sheet p.2 p.1).outcome := by
  simp [materialized, List.map_filterMap, Function.comp_def]

end Outcome

section Covers

variable {r w sheet}

theorem mem_skipped_materialized {index : Nat} {e : ResolutionFailure} :
    (index, e) ∈ (r.materialized w sheet sheet.dataRows.zipIdx).skipped ↔
      ∃ row, sheet.dataRows[index]? = some row
        ∧ (r.resolveDataRow w sheet index row).outcome = .error e := by
  simp only [materialized, List.mem_filterMap, Option.map_eq_some_iff, failure?_eq_some_iff,
    Prod.mk.injEq]
  constructor
  · rintro ⟨⟨row, index⟩, hmem, e, he, rfl, rfl⟩
    exact ⟨row, List.mk_mem_zipIdx_iff_getElem?.1 hmem, he⟩
  · rintro ⟨row, hrow, he⟩
    exact ⟨(row, index), List.mk_mem_zipIdx_iff_getElem?.2 hrow, e, he, rfl, rfl⟩

/-- A row is skipped where it fails. -/
theorem not_mem_skipped_iff {row : Row} {index : Nat} (h : sheet.dataRows[index]? = some row) :
    index ∉ (r.materialized w sheet sheet.dataRows.zipIdx).skipped.map (·.1) ↔
      (failure? (r.resolveDataRow w sheet index row).outcome).isNone := by
  constructor
  · intro hnot
    rcases hr : (r.resolveDataRow w sheet index row).outcome with e | v
    · exact absurd (List.mem_map.2 ⟨(index, e), mem_skipped_materialized.2 ⟨row, h, hr⟩, rfl⟩) hnot
    · rfl
  · intro hok hmem
    obtain ⟨⟨index, e⟩, he, rfl⟩ := List.mem_map.1 hmem
    obtain ⟨row', hrow', he⟩ := mem_skipped_materialized.1 he
    obtain rfl : row = row' := by simpa [h] using hrow'
    simp [he] at hok

theorem covers_materialized :
    (r.materialized w sheet sheet.dataRows.zipIdx).Covers r w sheet where
  increasing := by
    have hz : sheet.dataRows.zipIdx.Pairwise fun a b => a.2 < b.2 := by
      rw [← List.pairwise_map, List.zipIdx_map_snd]
      exact List.pairwise_lt_range'
    rw [materialized, List.pairwise_map, List.pairwise_filterMap]
    refine hz.imp fun hlt p hp q hq => ?_
    obtain ⟨e, -, rfl⟩ := Option.map_eq_some_iff.1 hp
    obtain ⟨e', -, rfl⟩ := Option.map_eq_some_iff.1 hq
    exact hlt
  mem_skipped_iff _ _ := mem_skipped_materialized
  values := by
    have hf : ∀ p ∈ sheet.dataRows.zipIdx,
        decide (p.2 ∉ (r.materialized w sheet sheet.dataRows.zipIdx).skipped.map (·.1))
          = (failure? (r.resolveDataRow w sheet p.2 p.1).outcome).isNone := by
      rintro ⟨row, index⟩ hp
      rw [Bool.eq_iff_iff, decide_eq_true_iff]
      exact not_mem_skipped_iff (List.mk_mem_zipIdx_iff_getElem?.1 hp)
    rw [List.filter_congr hf]
    exact map_filter_eq_collect _ _
  length_eq := by
    have hs := congrArg List.length (map_snd_skipped r w sheet sheet.dataRows.zipIdx)
    rw [List.length_map] at hs
    rw [hs]
    exact (length_collect _ _).trans List.length_zipIdx

/-- The strict reading stops at the first row that the lenient one skips. -/
theorem outcome_sheet_eq {name : String} (h : w.sheet? name = some sheet) :
    (r.sheet w name).outcome = match (r.materialized w sheet sheet.dataRows.zipIdx).skipped with
      | [] => .ok (r.materialized w sheet sheet.dataRows.zipIdx).values
      | (_, e) :: _ => .error e := by
  have hs := map_snd_skipped r w sheet sheet.dataRows.zipIdx
  rw [outcome_sheet r w h, mapM_eq_collect, ← hs]
  rcases (r.materialized w sheet sheet.dataRows.zipIdx).skipped with _ | ⟨⟨index, e⟩, rest⟩ <;> rfl

end Covers

section Values

variable {r w} {name : String} {v : Value}

/-- What leads to a row, and whether it is read as a data row, plays no part in its value. -/
theorem resolveDataRow_eq_ok_iff {sheet : Sheet} {index : Nat} {row : Row} :
    (r.resolveDataRow w sheet index row).outcome = .ok v ↔
      (r.resolveRow w sheet.header row).outcome = .ok v :=
  (resolve_eq_ok_iff _).trans (resolve_eq_ok_iff _).symm

theorem exists_dataRow_of_sheet {vs : List Value} (h : (r.sheet w name).outcome = .ok vs)
    (hv : v ∈ vs) : ∃ d : DataRow w, d.sheet.name = name
      ∧ (r.resolveRow w d.sheet.header d.row).outcome = .ok v := by
  rcases hs : w.sheet? name with _ | s
  · rw [outcome_sheet_of_none r w hs] at h
    simp at h
  rw [outcome_sheet r w hs] at h
  obtain ⟨⟨row, index⟩, hmem, hr⟩ := exists_mem_of_mapM_eq_ok h hv
  obtain rfl := name_of_sheet? hs
  exact ⟨⟨s, index, row, hs, List.mk_mem_zipIdx_iff_getElem?.1 hmem⟩, rfl,
    resolveDataRow_eq_ok_iff.1 hr⟩

theorem exists_dataRow_of_values {m : Materialized} (h : (r.sheetLeniently w name).outcome = .ok m)
    (hv : v ∈ m.values) : ∃ d : DataRow w, d.sheet.name = name
      ∧ (r.resolveRow w d.sheet.header d.row).outcome = .ok v := by
  obtain ⟨s, hs, rfl⟩ := (sheetLeniently_eq_ok_iff r w).1 h
  obtain ⟨⟨row, index⟩, hmem, hr⟩ := List.mem_filterMap.1 hv
  obtain rfl := name_of_sheet? hs
  refine ⟨⟨s, index, row, hs, List.mk_mem_zipIdx_iff_getElem?.1 hmem⟩, rfl, ?_⟩
  rcases ho : (r.resolveDataRow w s index row).outcome with e | u
  · simp [ho] at hr
  · obtain rfl : u = v := by simpa [ho] using hr
    exact resolveDataRow_eq_ok_iff.1 ho

theorem exists_dataRow_of_skipped {m : Materialized}
    (h : (r.sheetLeniently w name).outcome = .ok m) {index : Nat} {e : ResolutionFailure}
    (he : (index, e) ∈ m.skipped) : ∃ d : DataRow w, d.sheet.name = name ∧ d.index = index
      ∧ (r.resolveDataRow w d.sheet d.index d.row).outcome = .error e := by
  obtain ⟨s, hs, rfl⟩ := (sheetLeniently_eq_ok_iff r w).1 h
  obtain rfl := name_of_sheet? hs
  obtain ⟨row, hrow, he⟩ := mem_skipped_materialized.1 he
  exact ⟨⟨s, index, row, hs, hrow⟩, rfl, rfl, he⟩

end Values

section Events

/-- The events that resolving a row can have. -/
def IsOfRow : Event → Prop
  | .following .. | .keyCollision .. => True
  | _ => False

variable (deeper : Option RowReader)

theorem isOfRow_of_follow (hdeeper : ∀ next ∈ deeper, ∀ path header row,
      ∀ event ∈ (next path header row).events, IsOfRow event) (path : FieldPath) (spec : String) :
    ∀ event ∈ (r.follow w deeper path spec).events, IsOfRow event := by
  intro event h
  rcases ht : Target.parse? spec with _ | t
  · simp [follow, ht] at h
  rcases deeper with _ | next
  · simp [follow, ht] at h
  simp only [follow, ht] at h
  rcases Traced.mem_events_bind h with h | ⟨⟨s, row⟩, -, h⟩
  · simp at h
  rcases Traced.mem_events_bind h with h | ⟨-, -, h⟩
  · obtain rfl := List.mem_singleton.1 h
    trivial
  · exact hdeeper next rfl _ _ _ event h

variable {r w deeper} (hfollow : ∀ path spec, ∀ event ∈ (r.follow w deeper path spec).events,
  IsOfRow event)
include hfollow

theorem isOfRow_of_followAll (path : FieldPath) : ∀ (position : Nat) (specs : List String),
    ∀ event ∈ (r.followAll w deeper path position specs).events, IsOfRow event
  | _, [], event, h => by simp [followAll] at h
  | position, spec :: specs, event, h => by
    rcases Traced.mem_events_bind h with h | ⟨v, -, h⟩
    · exact hfollow _ _ event h
    rcases Traced.mem_events_bind h with h | ⟨vs, -, h⟩
    · exact isOfRow_of_followAll path (position + 1) specs event h
    · simp at h

theorem isOfRow_of_readCell (path : FieldPath) (cell : Cell) :
    ∀ event ∈ (r.readCell w deeper path cell).events, IsOfRow event := by
  intro event h
  cases cell with
  | scalar text => simp [readCell] at h
  | reference spec => exact hfollow path spec event h
  | references specs =>
    rcases Traced.mem_events_bind h with h | ⟨vs, -, h⟩
    · exact isOfRow_of_followAll hfollow path 0 specs event h
    · simp at h

theorem isOfRow_of_readFields (path : FieldPath) :
    ∀ (taken : List String) (columns : List (String × String)),
      ∀ event ∈ (r.readFields w deeper path taken columns).events, IsOfRow event
  | _, [], event, h => by simp [readFields] at h
  | taken, (column, text) :: columns, event, h => by
    rcases Traced.mem_events_bind h with h | ⟨key, -, h⟩
    · simp at h
    rcases Traced.mem_events_bind h with h | ⟨v, -, h⟩
    · exact isOfRow_of_readCell hfollow _ _ event h
    split at h
    · rcases Traced.mem_events_bind h with h | ⟨-, -, h⟩
      · obtain rfl := List.mem_singleton.1 h
        trivial
      · exact isOfRow_of_readFields path taken columns event h
    · rcases Traced.mem_events_bind h with h | ⟨fields, -, h⟩
      · exact isOfRow_of_readFields path (key :: taken) columns event h
      · simp at h

theorem isOfRow_of_readRow (path : FieldPath) (header : List String) (row : Row) :
    ∀ event ∈ (r.readRow w deeper path header row).events, IsOfRow event := by
  intro event h
  rcases Traced.mem_events_bind h with h | ⟨fields, -, h⟩
  · exact isOfRow_of_readFields hfollow path [] _ event h
  · simp at h

omit hfollow

theorem isOfRow_of_resolve : ∀ (depth : Nat) (path : FieldPath) (header : List String) (row : Row),
    ∀ event ∈ (r.resolve w depth path header row).events, IsOfRow event
  | 0 => isOfRow_of_readRow (isOfRow_of_follow r w none (by simp))
  | depth + 1 => isOfRow_of_readRow (isOfRow_of_follow r w _ fun next hn => by
      obtain rfl := Option.mem_some.1 hn
      exact isOfRow_of_resolve depth)

theorem filter_skipping_of_resolve (depth : Nat) (path : FieldPath) (header : List String)
    (row : Row) : ((r.resolve w depth path header row).events.filter
      (·.message == "skipping row")) = [] := by
  refine List.filter_eq_nil_iff.2 fun event h => ?_
  have hrow := isOfRow_of_resolve depth path header row event h
  cases event <;> simp_all [IsOfRow, Event.message]

variable (r w)

/-- A row that is skipped is told of once, in its turn. -/
theorem skipping_readRowsLeniently : ∀ rows : List (Row × Nat),
    (r.readRowsLeniently w sheet rows).events.filter (·.message == "skipping row")
      = (r.materialized w sheet rows).skipped.map fun p => .skippingRow sheet.name p.1 p.2
  | [] => rfl
  | (row, index) :: rows => by
    have ih := skipping_readRowsLeniently rows
    have hrows := outcome_readRowsLeniently r w sheet rows
    rw [readRowsLeniently, Traced.events_bind_of_ok (Traced.outcome_attempt _),
      Traced.events_attempt, List.filter_append,
      show (r.resolveDataRow w sheet index row).events.filter (·.message == "skipping row") = []
        from filter_skipping_of_resolve _ _ _ _]
    rcases hr : (r.resolveDataRow w sheet index row).outcome with e | v
    · dsimp only
      rw [Traced.events_bind_of_ok (Traced.outcome_emit _), Traced.events_bind_of_ok hrows,
        Traced.events_emit, Traced.events_pure, List.append_nil, List.nil_append,
        List.singleton_append, List.filter_cons_of_pos rfl, ih]
      simp [materialized, hr]
    · dsimp only
      rw [Traced.events_bind_of_ok hrows, Traced.events_pure, List.append_nil, List.nil_append, ih]
      simp [materialized, hr]

theorem events_sheetLeniently {name : String} (h : w.sheet? name = some sheet) :
    (r.sheetLeniently w name).events = .materializing name sheet.dataRows.length ::
      ((r.readRowsLeniently w sheet sheet.dataRows.zipIdx).events ++ [.materialized name
        (some (r.materialized w sheet sheet.dataRows.zipIdx).skipped.length)]) := by
  rw [sheetLeniently, openSheet_of_some h, Traced.events_bind_of_ok rfl,
    Traced.events_bind_of_ok (outcome_readRowsLeniently r w sheet _),
    Traced.events_bind_of_ok (Traced.outcome_emit _)]
  rfl

end Events

section Agreement

variable (r : Resolver) (w : Workbook)

/-- In a sheet no data row lacks another sheet at an empty field. -/
theorem sheet_emptyField_iff {name s : String} {field : FieldPath} :
    (r.sheet w name).outcome = .error (.unknownSheet s field) ∧ field.text = "" ↔
      w.sheet? name = none ∧ s = name ∧ field = [] := by
  constructor
  · rintro ⟨h, hempty⟩
    rcases (sheet_eq_error_iff r).1 h with ⟨hnone, he⟩ | ⟨a, -, ha, -⟩
    · obtain ⟨rfl, rfl⟩ := ResolutionFailure.unknownSheet.inj he
      exact ⟨hnone, rfl, rfl⟩
    · exact absurd hempty (text_ne_empty_of_resolveDataRow ha rfl)
  · rintro ⟨hnone, rfl, rfl⟩
    exact ⟨outcome_sheet_of_none r w hnone, String.intercalate_nil⟩

/-- Failing for want of a sheet with an empty field is failing for want of the sheet asked for. -/
theorem sheet_unknownSheet_iff {name : String} :
    (∃ s field, (r.sheet w name).outcome = .error (.unknownSheet s field) ∧ field.text = "") ↔
      w.sheet? name = none := by
  simp [sheet_emptyField_iff]

theorem sheetLeniently_error_iff {name : String} :
    (∃ e, (r.sheetLeniently w name).outcome = .error e) ↔ w.sheet? name = none := by
  simp [sheetLeniently_eq_error_iff]

/-- The lenient reading fails for want of the sheet only, as the strict one then does. Else what it
lists covers the rows, it tells of each row that it skips and in the end of how many there were, and
the strict reading has its values, or the first of its failures. -/
theorem sheetLeniently_agrees (name : String) :
    ((∃ s field, (r.sheet w name).outcome = .error (.unknownSheet s field) ∧ field.text = "") ↔
        w.sheet? name = none)
      ∧ ((∃ e, (r.sheetLeniently w name).outcome = .error e) ↔ w.sheet? name = none)
      ∧ match w.sheet? name with
        | none => (r.sheet w name).outcome = .error (.unknownSheet name [])
            ∧ (r.sheetLeniently w name).outcome = .error (.unknownSheet name [])
        | some sheet => ∃ m, (r.sheetLeniently w name).outcome = .ok m ∧ m.Covers r w sheet
            ∧ (r.sheetLeniently w name).events.filter (·.message == "skipping row")
                = m.skipped.map (fun p => .skippingRow name p.1 p.2)
            ∧ (r.sheetLeniently w name).events.getLast?
                = some (.materialized name (some m.skipped.length))
            ∧ (r.sheet w name).outcome = match m.skipped with
              | [] => .ok m.values
              | (_, e) :: _ => .error e := by
  refine ⟨sheet_unknownSheet_iff r w, sheetLeniently_error_iff r w, ?_⟩
  split
  · rename_i h
    exact ⟨outcome_sheet_of_none r w h, outcome_sheetLeniently_of_none r w h⟩
  · rename_i sheet h
    refine ⟨_, outcome_sheetLeniently r w sheet h, covers_materialized, ?_, ?_,
      outcome_sheet_eq h⟩
    · obtain rfl := name_of_sheet? h
      rw [events_sheetLeniently r w sheet h, List.filter_cons_of_neg (by simp [Event.message]),
        List.filter_append, skipping_readRowsLeniently]
      simp [Event.message]
    · rw [events_sheetLeniently r w sheet h, ← List.cons_append, List.getLast?_concat]

end Agreement

end Resolver

end LinkedSheets
