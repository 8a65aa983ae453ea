import LinkedSheets.Proofs.SheetDocument

/-!
# The order in which the sheets of a document are visited

Nothing in a document says which of its sheets comes first, so they may be gone through in any order
(`Document.outcomeIn`). All orders come to the same workbook, or none comes to one, since a workbook
puts its sheets in their places by itself (`Document.outcomeIn_eq_ok_of_perm`).

Where there is no workbook, the order shows in the failure. It is that of the first sheet with a
cell that is no scalar, and of the first such cell in it (`Document.outcomeIn_eq_error_iff`), so two
orders may name two sheets. They come to the same just when the first such sheets of both have one
name (`Document.outcomeIn_of_perm`).
-/

namespace LinkedSheets

namespace Document

/-- All cells of the sheet are scalars. -/
def IsFlat (table : DocumentSheet) : Prop :=
  ∀ row ∈ table.2, ∀ cell ∈ row, cell.IsScalar

/-- The first cell of the sheet, row by row, that is no scalar. -/
def FirstNested (table : DocumentSheet) (cell : Json) : Prop :=
  ∃ before after, table.2.flatten = before ++ cell :: after
    ∧ (∀ other ∈ before, other.IsScalar) ∧ ¬ cell.IsScalar

/-- The first sheet of the order that has a cell which is no scalar. -/
def FirstBad (order : List DocumentSheet) (table : DocumentSheet) : Prop :=
  ∃ before after, order = before ++ table :: after
    ∧ (∀ other ∈ before, IsFlat other) ∧ ¬ IsFlat table

variable {bytes : List UInt8} {path : String} {table : DocumentSheet}
  {tables order order' : List DocumentSheet} {e : LoadFailure}

section Failure

theorem cellText_eq_error_iff {cell bad : Json} :
    cellText cell = .error bad ↔ cell = bad ∧ ¬ cell.IsScalar := by
  cases cell <;> simp [cellText, Json.IsScalar]

theorem sheetOf_eq_error_iff {bad : String × Json} :
    sheetOf table = .error bad ↔ bad.1 = table.1 ∧ FirstNested table bad.2 := by
  obtain ⟨name, rows⟩ := table
  obtain ⟨name', cell⟩ := bad
  have hrows : rows.mapM (·.mapM cellText) = .error cell ↔ FirstNested (name, rows) cell := by
    rw [← map_eq_error_iff (f := List.flatten), ← mapM_flatten, mapM_eq_error_iff]
    simp only [exists_cellText_iff, cellText_eq_error_iff]
    constructor
    · rintro ⟨before, cell, after, hcells, hbefore, rfl, hcell⟩
      exact ⟨before, after, hcells, hbefore, hcell⟩
    · rintro ⟨before, after, hcells, hbefore, hcell⟩
      exact ⟨before, cell, after, hcells, hbefore, rfl, hcell⟩
  rw [← hrows, sheetOf]
  split
  · rename_i heq
    simp [heq]
  · rename_i heq
    simp [heq, eq_comm]

theorem FirstNested.unique {cell cell' : Json} (h : FirstNested table cell)
    (h' : FirstNested table cell') : cell = cell' := by
  have hfail : sheetOf table = .error (table.1, cell) := sheetOf_eq_error_iff.2 ⟨rfl, h⟩
  have hfail' : sheetOf table = .error (table.1, cell') := sheetOf_eq_error_iff.2 ⟨rfl, h'⟩
  exact (Prod.mk.inj (Except.error.inj (hfail.symm.trans hfail'))).2

theorem exists_firstNested_iff : (∃ cell, FirstNested table cell) ↔ ¬ IsFlat table := by
  rw [IsFlat, ← exists_sheetOf_iff]
  constructor
  · rintro ⟨cell, hcell⟩ ⟨sheet, hsheet⟩
    have hfail : sheetOf table = .error (table.1, cell) := sheetOf_eq_error_iff.2 ⟨rfl, hcell⟩
    cases hsheet.symm.trans hfail
  · intro hnone
    rcases hsheet : sheetOf table with bad | sheet
    · exact ⟨bad.2, (sheetOf_eq_error_iff.1 hsheet).2⟩
    · exact absurd ⟨sheet, hsheet⟩ hnone

theorem sheetsOf_eq_error_iff {bad : String × Json} : sheetsOf order = .error bad ↔
    ∃ table, FirstBad order table ∧ bad.1 = table.1 ∧ FirstNested table bad.2 := by
  rw [sheetsOf, mapM_eq_error_iff]
  simp only [exists_sheetOf_iff, sheetOf_eq_error_iff]
  constructor
  · rintro ⟨before, table, after, horder, hbefore, hname, hcell⟩
    exact ⟨table, ⟨before, after, horder, hbefore, exists_firstNested_iff.1 ⟨_, hcell⟩⟩, hname,
      hcell⟩
  · rintro ⟨table, ⟨before, after, horder, hbefore, -⟩, hname, hcell⟩
    exact ⟨before, table, after, horder, hbefore, hname, hcell⟩

/-- The failure is that of the first sheet which is bad. -/
theorem outcomeIn_eq_error_iff : outcomeIn path order = .error e ↔
    ∃ table cell, FirstBad order table ∧ FirstNested table cell
      ∧ e = .nestedCell path table.1 cell := by
  simp only [outcomeIn, map_eq_error_iff, mapError_eq_error_iff, sheetsOf_eq_error_iff]
  constructor
  · rintro ⟨⟨name, cell⟩, ⟨table, hbad, rfl, hcell⟩, rfl⟩
    exact ⟨table, cell, hbad, hcell, rfl⟩
  · rintro ⟨table, cell, hbad, hcell, rfl⟩
    exact ⟨(table.1, cell), ⟨table, hbad, rfl, hcell⟩, rfl⟩

theorem FirstBad.mem (h : FirstBad order table) : table ∈ order := by
  obtain ⟨before, after, rfl, -⟩ := h
  simp

theorem FirstBad.not_isFlat (h : FirstBad order table) : ¬ IsFlat table := by
  obtain ⟨-, -, -, -, hflat⟩ := h
  exact hflat

theorem FirstBad.exists_outcomeIn (h : FirstBad order table) (path : String) :
    ∃ cell, FirstNested table cell
      ∧ outcomeIn path order = .error (.nestedCell path table.1 cell) := by
  obtain ⟨before, after, horder, hbefore, hflat⟩ := h
  obtain ⟨cell, hcell⟩ := exists_firstNested_iff.2 hflat
  exact ⟨cell, hcell, outcomeIn_eq_error_iff.2
    ⟨table, cell, ⟨before, after, horder, hbefore, hflat⟩, hcell, rfl⟩⟩

theorem name_eq_of_context_eq {name name' : String} {cell cell' : Json}
    (h : (LoadFailure.nestedCell path name cell).context
      = (LoadFailure.nestedCell path name' cell').context) : name = name' := by
  simp only [LoadFailure.context, List.cons.injEq, true_and] at h
  exact (String.append_right_inj _).1 ((String.append_left_inj _).1 h.1)

end Failure

section Order

theorem nodup_of_read (h : read bytes = .ok tables) : (tables.map (·.1)).Nodup := by
  obtain ⟨document, -, hdocument⟩ := bind_eq_ok_iff.1 h
  obtain rfl := Except.ok.inj hdocument
  rw [List.map_map]
  exact nodup_map_of_sorted (Table.pairwise_ofList _)

/-- One order comes to the workbook that another one comes to. -/
theorem outcomeIn_eq_ok_of_perm (h : order.Perm order') (hnodup : (order.map (·.1)).Nodup)
    {w : Workbook} (hw : outcomeIn path order = .ok w) : outcomeIn path order' = .ok w := by
  obtain ⟨sheets, hsheets, rfl⟩ := outcomeIn_eq_ok_iff.1 hw
  obtain ⟨sheets', hsheets', hperm⟩ := exists_mapM_of_perm h hsheets
  have hall := perm_ofSheets_of_sheetsOf hsheets hnodup
  exact outcomeIn_eq_ok_iff.2
    ⟨sheets', hsheets', (Workbook.ofSheets_of_perm (hperm.trans hall.symm)).symm⟩

/-- Two orders whose first bad sheets have one name come to the same. -/
theorem outcomeIn_eq_of_name_eq (h : order.Perm order') (hnodup : (order.map (·.1)).Nodup)
    (hname : ∀ table table', FirstBad order table → FirstBad order' table' → table.1 = table'.1) :
    outcomeIn path order = outcomeIn path order' := by
  have hnodup' : (order'.map (·.1)).Nodup := (h.map _).nodup_iff.1 hnodup
  rcases hfail : outcomeIn path order with e | w
  · rcases hfail' : outcomeIn path order' with e' | w'
    · obtain ⟨table, cell, hbad, hcell, rfl⟩ := outcomeIn_eq_error_iff.1 hfail
      obtain ⟨table', cell', hbad', hcell', rfl⟩ := outcomeIn_eq_error_iff.1 hfail'
      obtain rfl : table = table' := List.inj_on_of_nodup_map hnodup hbad.mem
        (h.mem_iff.2 hbad'.mem) (hname table table' hbad hbad')
      rw [hcell.unique hcell']
    · rw [outcomeIn_eq_ok_of_perm h.symm hnodup' hfail'] at hfail
      cases hfail
  · exact (outcomeIn_eq_ok_of_perm h hnodup hfail).symm

end Order

/-- A document is loaded in the order in which its sheets are read, which is one of many. In any two
orders it comes to the same workbook, or to none. Where it comes to none, the failure names the
first sheet of the order that has a cell which is no scalar, and the first such cell. What can be
seen of the outcome, the workbook or the message, is then the same just when these sheets have one
name, as they have where only one sheet is bad. -/
theorem outcomeIn_of_perm (path : String) (hread : read bytes = .ok tables)
    (h : order.Perm tables) (h' : order'.Perm tables) :
    (∀ files : Files, files path = .ok (.bytes bytes) →
        (loadWorkbook files (.json path)).outcome = outcomeIn path tables)
      ∧ (∀ w, outcomeIn path order = .ok w ↔ outcomeIn path order' = .ok w)
      ∧ (∀ e, outcomeIn path order = .error e ↔
        ∃ table cell, FirstBad order table ∧ FirstNested table cell
          ∧ e = .nestedCell path table.1 cell)
      ∧ ((outcomeIn path order).mapError LoadFailure.context
          = (outcomeIn path order').mapError LoadFailure.context ↔
        ∀ table table', FirstBad order table → FirstBad order' table' → table.1 = table'.1)
      ∧ ((∀ table ∈ tables, ∀ table' ∈ tables, ¬ IsFlat table → ¬ IsFlat table' → table = table') →
        outcomeIn path order = outcomeIn path order') := by
  have hperm : order.Perm order' := h.trans h'.symm
  have hnodup : (order.map (·.1)).Nodup := (h.map _).nodup_iff.2 (nodup_of_read hread)
  have hnodup' : (order'.map (·.1)).Nodup := (h'.map _).nodup_iff.2 (nodup_of_read hread)
  refine ⟨fun files hfile => outcome_of_read hfile hread,
    fun w => ⟨outcomeIn_eq_ok_of_perm hperm hnodup, outcomeIn_eq_ok_of_perm hperm.symm hnodup'⟩,
    fun e => outcomeIn_eq_error_iff, ⟨fun hseen table table' hbad hbad' => ?_, fun hname => ?_⟩,
    fun hone => outcomeIn_eq_of_name_eq hperm hnodup fun table table' hbad hbad' => ?_⟩
  · obtain ⟨cell, -, hfail⟩ := hbad.exists_outcomeIn path
    obtain ⟨cell', -, hfail'⟩ := hbad'.exists_outcomeIn path
    rw [hfail, hfail'] at hseen
    exact name_eq_of_context_eq (Except.error.inj hseen)
  · rw [outcomeIn_eq_of_name_eq hperm hnodup hname]
  · exact congrArg _ (hone table (h.mem_iff.1 hbad.mem) table' (h'.mem_iff.1 hbad'.mem)
      hbad.not_isFlat hbad'.not_isFlat)

section Harbour

/-- Of the three sheets two have a cell that is no scalar. -/
def harbour : List DocumentSheet :=
  [("boat", [[.text "name"], [.text "Ark"]]), ("crew", [[.text "name"], [.array []]]),
    ("port", [[.text "name"], [.object []]])]

/-- The bytes of the document, without any blanks. -/
def harbourBytes : List UInt8 :=
  (ofTables harbour).compact.toUTF8.toList

theorem exists_read_harbour : ∃ tables, read harbourBytes = .ok tables ∧ tables.Perm harbour := by
  have hplain : ∀ t ∈ (ofTables harbour).tokens, t.IsPlain := by
    simp [ofTables, harbour, Json.tokens, Json.itemTokens, Json.memberTokens, JsonToken.IsPlain]
  have hwritten : (ofTables harbour).WrittenAs harbourBytes :=
    Json.writtenAs_compact fun t ht => JsonToken.spells_spelling (hplain t ht)
  exact read_of_parses (.of_writtenAs hwritten (by decide)) (by decide)

/-- With the boats at the end the first bad sheet is still that of the crew. -/
theorem outcomeIn_of_perm_harbour : ∃ tables, read harbourBytes = .ok tables
    ∧ harbour.Perm tables ∧ (harbour.drop 1 ++ harbour.take 1).Perm tables
    ∧ (∃ table cell, FirstBad harbour table ∧ FirstNested table cell
      ∧ LoadFailure.nestedCell "b.json" "crew" (.array []) = .nestedCell "b.json" table.1 cell)
    ∧ ∀ table table', FirstBad harbour table →
      FirstBad (harbour.drop 1 ++ harbour.take 1) table' → table.1 = table'.1 := by
  obtain ⟨tables, hread, hperm⟩ := exists_read_harbour
  have hlast : (harbour.drop 1 ++ harbour.take 1).Perm tables :=
    (List.perm_append_comm.trans (.of_eq (List.take_append_drop 1 harbour))).trans hperm.symm
  obtain ⟨-, -, hfails, hsame, -⟩ := outcomeIn_of_perm "b.json" hread hperm.symm hlast
  exact ⟨tables, hread, hperm.symm, hlast, (hfails _).1 rfl, hsame.1 rfl⟩

/-- In one order the message names the crew, and in the other one the port. -/
theorem outcomeIn_reverse_harbour : ∃ tables, read harbourBytes = .ok tables
    ∧ harbour.Perm tables ∧ harbour.reverse.Perm tables
    ∧ outcomeIn "b.json" harbour = .error (.nestedCell "b.json" "crew" (.array []))
    ∧ outcomeIn "b.json" harbour.reverse = .error (.nestedCell "b.json" "port" (.object []))
    ∧ (LoadFailure.nestedCell "b.json" "crew" (.array [])).context
      ≠ (LoadFailure.nestedCell "b.json" "port" (.object [])).context := by
  obtain ⟨tables, hread, hperm⟩ := exists_read_harbour
  refine ⟨tables, hread, hperm.symm, (List.reverse_perm _).trans hperm.symm, rfl, rfl, ?_⟩
  exact fun h => absurd (name_eq_of_context_eq h) (by decide)

end Harbour

end Document

end LinkedSheets
