import LinkedSheets.Proofs.DataRow
import LinkedSheets.Proofs.PairedLists
import LinkedSheets.Proofs.Placed
import LinkedSheets.Proofs.Spelling
import LinkedSheets.Source.Load

/-!
# Documents of sheets

A document of sheets, `Document.ofTables`, is read as it is if its bytes are a document at all
(`Document.Parses`), since any document may have as many brackets inside each other
(`Document.fits_ofTables`). It is then loaded sheet by sheet. A cell has a text just when it is a
scalar (`Document.HasText`). No name is repeated, so every sheet of the document becomes one of the
workbook (`Document.outcome_of_parses`).
-/

namespace LinkedSheets

namespace Json

/-- A value that is no array and no object. -/
def IsScalar : Json → Prop
  | array _ | object _ => False
  | _ => True

variable {outline outline' : Outline}

mutual

/-- Deeper down, where an outline asks for no shape, any value fits that another with as much room
admits. -/
theorem fits_of_fits (hroom : outline'.nesting = outline.nesting) : ∀ (level : Nat) (j : Json),
    (∀ n, level ≤ n → outline'.shape n = .any) → j.Fits outline level → j.Fits outline' level
  | level, array items, hshape, ⟨_, hopen, hitems⟩ => by
    refine ⟨by rw [hshape level le_rfl]; rfl, ?_, itemsFit_of_itemsFit hroom (level + 1) items
      (fun n hn => hshape n (by omega)) hitems⟩
    rwa [Outline.isRoom, hroom]
  | level, object members, hshape, ⟨_, hopen, hmembers⟩ => by
    refine ⟨by rw [hshape level le_rfl]; rfl, ?_, membersFit_of_membersFit hroom (level + 1) members
      (fun n hn => hshape n (by omega)) hmembers⟩
    rwa [Outline.isRoom, hroom]
  | level, null, hshape, _ | level, boolean _, hshape, _ | level, number _, hshape, _
  | level, text _, hshape, _ => hshape level le_rfl

theorem itemsFit_of_itemsFit (hroom : outline'.nesting = outline.nesting) :
    ∀ (level : Nat) (items : List Json), (∀ n, level ≤ n → outline'.shape n = .any) →
      ItemsFit outline level items → ItemsFit outline' level items
  | _, [], _, _ => trivial
  | level, item :: items, hshape, ⟨hitem, hitems⟩ =>
    ⟨fits_of_fits hroom level item hshape hitem,
      itemsFit_of_itemsFit hroom level items hshape hitems⟩

theorem membersFit_of_membersFit (hroom : outline'.nesting = outline.nesting) :
    ∀ (level : Nat) (members : List (String × Json)), (∀ n, level ≤ n → outline'.shape n = .any) →
      MembersFit outline level members → MembersFit outline' level members
  | _, [], _, _ => trivial
  | level, (_, value) :: members, hshape, ⟨hvalue, hmembers⟩ =>
    ⟨fits_of_fits hroom level value hshape hvalue,
      membersFit_of_membersFit hroom level members hshape hmembers⟩

end

end Json

namespace Document

/-- The bytes are a JSON document, of any shape. -/
def Parses (bytes : List UInt8) (j : Json) : Prop :=
  Json.readOutlined .untyped (Text.decode bytes) = .ok j

/-- A document of sheets. -/
def ofTables (tables : List DocumentSheet) : Json :=
  .object (tables.map fun table => (table.1, .array (table.2.map .array)))

/-- The text of a cell. A number is written in decimal, a real one with the digits it needs. -/
inductive HasText : Json → String → Prop
  | null : HasText .null ""
  | yes : HasText (.boolean true) "true"
  | no : HasText (.boolean false) "false"
  | text (s : String) : HasText (.text s) s
  | whole (n : Int) : HasText (.number (.integer n)) (toString n)
  | real (x : Decimal.Binary) :
    HasText (.number (.real x)) (String.ofList (Json.numberText (.real x)))

variable {bytes : List UInt8} {tables : List DocumentSheet}

section Cells

variable {cell : Json}

theorem cellText_eq_ok_iff {s : String} : cellText cell = .ok s ↔ HasText cell s := by
  have hwhole (n : Int) : String.ofList (Json.numberText (.integer n)) = toString n := by
    rw [JsonToken.numberText_integer, String.ofList_toList]
  constructor
  · intro h
    rcases cell with _ | b | n | s | items | members
    · exact Except.ok.inj h ▸ .null
    · cases b
      · exact Except.ok.inj h ▸ .no
      · exact Except.ok.inj h ▸ .yes
    · rcases n with n | x
      · exact Except.ok.inj h ▸ hwhole n ▸ .whole n
      · exact Except.ok.inj h ▸ .real x
    · exact Except.ok.inj h ▸ .text s
    · cases h
    · cases h
  · intro h
    cases h with
    | whole n => exact congrArg Except.ok (hwhole n)
    | _ => rfl

theorem exists_cellText_iff : (∃ s, cellText cell = .ok s) ↔ cell.IsScalar := by
  cases cell <;> simp [cellText, Json.IsScalar]

theorem sheetOf_eq_ok_iff {table : DocumentSheet} {sheet : Sheet} : sheetOf table = .ok sheet ↔
    sheet.name = table.1 ∧ List.Forall₂ (List.Forall₂ HasText) table.2 sheet.rows := by
  obtain ⟨name, rows⟩ := table
  obtain ⟨name', rows'⟩ := sheet
  have hrows : rows.mapM (·.mapM cellText) = .ok rows' ↔
      List.Forall₂ (List.Forall₂ HasText) rows rows' := by
    simp only [mapM_eq_ok_iff_forall₂, cellText_eq_ok_iff]
  rw [← hrows, sheetOf]
  split
  · rename_i rows'' heq
    simp [heq, eq_comm]
  · rename_i heq
    simp [heq]

theorem exists_sheetOf_iff {table : DocumentSheet} :
    (∃ sheet, sheetOf table = .ok sheet) ↔ ∀ row ∈ table.2, ∀ cell ∈ row, cell.IsScalar := by
  have hrows : (∃ rows, table.2.mapM (·.mapM cellText) = .ok rows) ↔
      ∀ row ∈ table.2, ∀ cell ∈ row, cell.IsScalar := by
    simp only [exists_mapM_eq_ok_iff, exists_cellText_iff]
  rw [← hrows]
  obtain ⟨name, rows⟩ := table
  rw [sheetOf]
  split
  · rename_i heq
    simp [heq]
  · rename_i heq
    simp [heq]

end Cells

section Load

variable {files : Files} {path : String}

theorem shape_of_three_le {n : Nat} (h : 3 ≤ n) : shape n = .any := by
  obtain ⟨k, rfl⟩ := Nat.exists_eq_add_of_le' h
  rfl

/-- A document of sheets that has room for its brackets is one of the right shape. -/
theorem fits_ofTables (h : (ofTables tables).Fits .untyped 0) :
    (ofTables tables).Fits outline 0 := by
  obtain ⟨-, hroom, hmembers⟩ := h
  refine ⟨rfl, hroom, Json.membersFit_iff_forall.2 fun m hm => ?_⟩
  have htable := Json.membersFit_iff_forall.1 hmembers m hm
  obtain ⟨⟨name, rows⟩, -, rfl⟩ := List.mem_map.1 hm
  obtain ⟨-, hroom, hrows⟩ := htable
  refine ⟨rfl, hroom, Json.itemsFit_iff_forall.2 fun row hrow => ?_⟩
  have hcells := Json.itemsFit_iff_forall.1 hrows row hrow
  obtain ⟨cells, -, rfl⟩ := List.mem_map.1 hrow
  obtain ⟨-, hroom, hcells⟩ := hcells
  have hnesting : outline.nesting = Outline.untyped.nesting := rfl
  exact ⟨rfl, hroom,
    Json.itemsFit_of_itemsFit hnesting 3 cells (fun _ hn => shape_of_three_le hn) hcells⟩

theorem read_of_parses (h : Parses bytes (ofTables tables)) (hnodup : (tables.map (·.1)).Nodup) :
    ∃ sheets, read bytes = .ok sheets ∧ sheets.Perm tables := by
  obtain ⟨htokens, hfits⟩ := Json.readOutlined_eq_ok_iff.1 h
  have hread : Json.readOutlined outline (Text.decode bytes) = .ok (ofTables tables) :=
    Json.readOutlined_eq_ok_iff.2 ⟨htokens, fits_ofTables hfits⟩
  refine ⟨_, by rw [read, hread]; rfl, ?_⟩
  have hmembers : ((membersOf (ofTables tables)).map (·.1)).Nodup := by
    simpa [ofTables, membersOf, Function.comp_def] using hnodup
  have hback : (membersOf (ofTables tables)).map
      (fun m => (m.1, (itemsOf m.2).map itemsOf)) = tables := by
    simp [ofTables, membersOf, itemsOf, Function.comp_def]
  exact ((Table.perm_ofList hmembers).map fun m => (m.1, (itemsOf m.2).map itemsOf)).trans
    (.of_eq hback)

/-- What a document comes to when its sheets are gone through in that order. -/
def outcomeIn (path : String) (order : List DocumentSheet) : Except LoadFailure Workbook :=
  Workbook.ofSheets <$> (sheetsOf order).mapError fun bad => .nestedCell path bad.1 bad.2

theorem outcomeIn_eq_ok_iff {w : Workbook} : outcomeIn path tables = .ok w ↔
    ∃ sheets, sheetsOf tables = .ok sheets ∧ w = .ofSheets sheets := by
  simp only [outcomeIn, map_eq_ok_iff, mapError_eq_ok_iff]

/-- A document is loaded in the order in which its sheets are read. -/
theorem outcome_of_read (hfile : files path = .ok (.bytes bytes))
    (hread : read bytes = .ok tables) :
    (loadWorkbook files (.json path)).outcome = outcomeIn path tables := by
  have hdocument : Source.readDocument path files
      = (sheetsOf tables).mapError fun bad => .nestedCell path bad.1 bad.2 := by
    rw [Source.readDocument, hfile]
    simp only [Except.mapError, FileEntry.read, ok_bind, hread]
  simp only [loadWorkbook, Source.loadSheets, Traced.outcome_bind, Traced.outcome_emit,
    Traced.outcome_ofExcept, Traced.outcome_pure, ok_bind, hdocument]
  rfl

/-- What loading comes to, by the sheets of the document in some order. -/
theorem outcome_of_parses (hfile : files path = .ok (.bytes bytes))
    (h : Parses bytes (ofTables tables)) (hnodup : (tables.map (·.1)).Nodup) :
    ∃ sheets : List DocumentSheet, sheets.Perm tables ∧ ∀ w : Workbook,
      (loadWorkbook files (.json path)).outcome = .ok w ↔
        ∃ sheets', sheetsOf sheets = .ok sheets' ∧ w = .ofSheets sheets' := by
  obtain ⟨sheets, hread, hperm⟩ := read_of_parses h hnodup
  refine ⟨sheets, hperm, fun w => ?_⟩
  rw [outcome_of_read hfile hread, outcomeIn_eq_ok_iff]

/-- A document is loaded just when all its cells are scalars. -/
theorem exists_outcome_iff (hfile : files path = .ok (.bytes bytes))
    (h : Parses bytes (ofTables tables)) (hnodup : (tables.map (·.1)).Nodup) :
    (∃ w, (loadWorkbook files (.json path)).outcome = .ok w) ↔
      ∀ table ∈ tables, ∀ row ∈ table.2, ∀ cell ∈ row, cell.IsScalar := by
  obtain ⟨sheets, hperm, houtcome⟩ := outcome_of_parses hfile h hnodup
  calc (∃ w, (loadWorkbook files (.json path)).outcome = .ok w)
      ↔ ∃ sheets', sheetsOf sheets = .ok sheets' := by simp [houtcome]
    _ ↔ ∀ table ∈ sheets, ∃ sheet, sheetOf table = .ok sheet := exists_mapM_eq_ok_iff sheets
    _ ↔ ∀ table ∈ tables, ∀ row ∈ table.2, ∀ cell ∈ row, cell.IsScalar := by
      simp only [exists_sheetOf_iff, hperm.mem_iff]

theorem names_of_sheetsOf {sheets : List Sheet} (h : sheetsOf tables = .ok sheets) :
    sheets.map (·.name) = tables.map (·.1) := by
  rw [← List.forall₂_eq_eq_eq, List.forall₂_map_left_iff, List.forall₂_map_right_iff]
  exact ((mapM_eq_ok_iff_forall₂.1 h).imp fun _ _ h => (sheetOf_eq_ok_iff.1 h).1).flip

/-- The sheets that a document comes to are all in its workbook. -/
theorem perm_ofSheets_of_sheetsOf {sheets : List Sheet} (h : sheetsOf tables = .ok sheets)
    (hnodup : (tables.map (·.1)).Nodup) : (Workbook.ofSheets sheets).sheets.Perm sheets :=
  Workbook.perm_ofSheets (names_of_sheetsOf h ▸ hnodup)

/-- The workbook has a sheet for each of the document, row by row and cell by cell. -/
theorem sheets_of_outcome (hfile : files path = .ok (.bytes bytes))
    (h : Parses bytes (ofTables tables)) (hnodup : (tables.map (·.1)).Nodup) {w : Workbook}
    (hw : (loadWorkbook files (.json path)).outcome = .ok w) :
    w.names.Perm (tables.map (·.1)) ∧ ∀ table ∈ tables, ∃ rows,
      w.sheet? table.1 = some ⟨table.1, rows⟩
        ∧ List.Forall₂ (List.Forall₂ HasText) table.2 rows := by
  obtain ⟨sheets, hperm, houtcome⟩ := outcome_of_parses hfile h hnodup
  obtain ⟨sheets', hsheets, rfl⟩ := (houtcome w).1 hw
  have hnames := names_of_sheetsOf hsheets
  have hperm' := perm_ofSheets_of_sheetsOf hsheets ((hperm.map _).nodup_iff.2 hnodup)
  replace hsheets := mapM_eq_ok_iff_forall₂.1 hsheets
  refine ⟨?_, fun table htable => ?_⟩
  · have hall := hperm'.map (·.name)
    rw [hnames] at hall
    exact hall.trans (hperm.map _)
  · obtain ⟨sheet, hmem, hsheet⟩ := exists_right_of_forall₂ hsheets (hperm.mem_iff.2 htable)
    obtain ⟨hname, hrows⟩ := sheetOf_eq_ok_iff.1 hsheet
    obtain ⟨name, rows⟩ := sheet
    obtain rfl : name = table.1 := hname
    exact ⟨rows, sheet?_eq_some_iff.2 ⟨hperm'.mem_iff.2 hmem, rfl⟩, hrows⟩

/-- Sheets as tables of texts. -/
def tablesOf (sheets : List Sheet) : List DocumentSheet :=
  sheets.map fun sheet => (sheet.name, sheet.rows.map (·.map .text))

theorem sheetsOf_tablesOf (sheets : List Sheet) : sheetsOf (tablesOf sheets) = .ok sheets := by
  rw [sheetsOf, mapM_eq_ok_iff, tablesOf, List.map_map]
  refine List.map_congr_left fun sheet _ => sheetOf_eq_ok_iff.2 ⟨rfl, ?_⟩
  simp only [List.forall₂_map_left_iff, List.forall₂_same]
  exact fun row _ text _ => .text text

/-- A workbook is what its own sheets are loaded as. -/
theorem outcome_of_parses_tablesOf (hfile : files path = .ok (.bytes bytes)) {w : Workbook}
    {sheets : List Sheet} (hsheets : sheets.Perm w.sheets)
    (h : Parses bytes (ofTables (tablesOf sheets))) :
    (loadWorkbook files (.json path)).outcome = .ok w := by
  have hnodup : ((tablesOf sheets).map (·.1)).Nodup := by
    have hnames : (tablesOf sheets).map (·.1) = sheets.map (·.name) := by
      simp [tablesOf]
    rw [hnames]
    exact (hsheets.map _).nodup_iff.2 w.nodup_names
  obtain ⟨tables, hperm, houtcome⟩ := outcome_of_parses hfile h hnodup
  obtain ⟨sheets', hsheets', hperm'⟩ := exists_mapM_of_perm hperm.symm (sheetsOf_tablesOf sheets)
  exact (houtcome w).2
    ⟨sheets', hsheets', (Workbook.ofSheets_of_perm (hperm'.trans hsheets)).symm⟩

end Load

section Written

theorem Parses.of_writtenAs {j : Json} (h : j.WrittenAs bytes) (hlevels : j.levels ≤ 127) :
    Parses bytes j :=
  h.readOutlined (Json.fits_untyped_iff.2 hlevels)

/-- Cells that are read as they are written: no real numbers, and no whole ones beyond 64 bits. -/
def IsExact : Json → Prop
  | .number (.integer n) => -2 ^ 63 ≤ n ∧ n < 2 ^ 64
  | .number (.real _) | .array _ | .object _ => False
  | .null | .boolean _ | .text _ => True

theorem spells_of_isExact {cell : Json} (h : IsExact cell) :
    ∀ t ∈ cell.tokens, JsonToken.Spells t.spelling t := by
  rcases cell with _ | b | n | s | items | members
  · exact List.forall_mem_singleton.2 JsonToken.spells_null
  · exact List.forall_mem_singleton.2 (JsonToken.spells_boolean b)
  · rcases n with n | x
    · refine List.forall_mem_singleton.2 ?_
      rw [JsonToken.spelling, Json.scalarChars, JsonToken.numberText_integer]
      exact JsonToken.spells_integer h.1 h.2
    · exact h.elim
  · exact List.forall_mem_singleton.2 (JsonToken.spells_spelling trivial)
  · exact h.elim
  · exact h.elim

/-- Documents of such cells can be written without any blanks. -/
theorem writtenAs_compact_of_isExact
    (h : ∀ table ∈ tables, ∀ row ∈ table.2, ∀ cell ∈ row, IsExact cell) :
    (ofTables tables).WrittenAs (ofTables tables).compact.toUTF8.toList := by
  refine Json.writtenAs_compact fun t ht => ?_
  rcases Json.mem_tokens_object ht with hplain | ⟨m, hm, ht⟩
  · exact JsonToken.spells_spelling hplain
  obtain ⟨table, htable, rfl⟩ := List.mem_map.1 hm
  rcases Json.mem_tokens_array ht with hplain | ⟨item, hitem, ht⟩
  · exact JsonToken.spells_spelling hplain
  obtain ⟨row, hrow, rfl⟩ := List.mem_map.1 hitem
  rcases Json.mem_tokens_array ht with hplain | ⟨cell, hcell, ht⟩
  · exact JsonToken.spells_spelling hplain
  · exact spells_of_isExact (h table htable row hrow cell hcell) t ht

theorem fits_ofTables_tablesOf (sheets : List Sheet) :
    (ofTables (tablesOf sheets)).Fits .untyped 0 := by
  refine ⟨rfl, rfl, Json.membersFit_iff_forall.2 fun m hm => ?_⟩
  simp only [tablesOf, List.map_map, List.mem_map] at hm
  obtain ⟨sheet, -, rfl⟩ := hm
  refine ⟨rfl, rfl, Json.itemsFit_iff_forall.2 fun item hitem => ?_⟩
  simp only [List.map_map, List.mem_map] at hitem
  obtain ⟨row, -, rfl⟩ := hitem
  refine ⟨rfl, rfl, Json.itemsFit_iff_forall.2 fun cell hcell => ?_⟩
  obtain ⟨text, -, rfl⟩ := List.mem_map.1 hcell
  exact rfl

end Written

/-- A document of sheets, none of which has the name of another, is loaded just when all its cells
are scalars. The workbook then has these sheets and no others, with the same rows and cells in the
same order, and each cell has the text of the scalar.

A document is read as what it is written as, whatever blanks there are and in whatever way its texts
and numbers are spelled; a whole number of 64 bits is spelled in decimal. So the sheets of a
workbook, written as texts in any order, are loaded as the workbook that they came from. -/
theorem loadWorkbook_document {files : Files} {path : String} {bytes : List UInt8}
    (hfile : files path = .ok (.bytes bytes)) :
    (∀ tables, Parses bytes (ofTables tables) → (tables.map (·.1)).Nodup →
        ((∃ w, (loadWorkbook files (.json path)).outcome = .ok w) ↔
          ∀ table ∈ tables, ∀ row ∈ table.2, ∀ cell ∈ row, cell.IsScalar)
        ∧ ∀ w, (loadWorkbook files (.json path)).outcome = .ok w →
          w.names.Perm (tables.map (·.1)) ∧ ∀ table ∈ tables, ∃ rows,
            w.sheet? table.1 = some ⟨table.1, rows⟩
              ∧ List.Forall₂ (List.Forall₂ HasText) table.2 rows)
      ∧ (∀ j : Json, j.WrittenAs bytes → j.levels ≤ 127 → Parses bytes j)
      ∧ (∀ n : Int, -2 ^ 63 ≤ n → n < 2 ^ 64 →
        JsonToken.Spells (toString n).toList (.literal (.number (.integer n))))
      ∧ (∀ tables, (∀ table ∈ tables, ∀ row ∈ table.2, ∀ cell ∈ row, IsExact cell) →
        (ofTables tables).WrittenAs (ofTables tables).compact.toUTF8.toList)
      ∧ ∀ (w : Workbook) (sheets : List Sheet), sheets.Perm w.sheets →
        (ofTables (tablesOf sheets)).WrittenAs bytes →
          (loadWorkbook files (.json path)).outcome = .ok w :=
  ⟨fun _ h hnodup => ⟨exists_outcome_iff hfile h hnodup,
      fun _ hw => sheets_of_outcome hfile h hnodup hw⟩,
    fun _ h hlevels => .of_writtenAs h hlevels,
    fun _ hlow hhigh => JsonToken.spells_integer hlow hhigh,
    fun _ h => writtenAs_compact_of_isExact h,
    fun _ sheets hsheets h => outcome_of_parses_tablesOf hfile hsheets
      (h.readOutlined (fits_ofTables_tablesOf sheets))⟩

/-- Rows of different lengths, one of them empty, with a cell of each kind. -/
def raggedTables : List DocumentSheet :=
  [("b", [[.text "\"\n", .null, .boolean true], [], [.number (.integer (-9223372036854775808))]]),
    ("a", [[.number (.integer 18446744073709551615)]])]

/-- Everywhere the same document. -/
def filesOf (j : Json) : Files := fun _ => .ok (.bytes j.compact.toUTF8.toList)

/-- A document with cells of each kind, and one of texts with the later name in front. -/
theorem loadWorkbook_document_ragged :
    Parses (ofTables raggedTables).compact.toUTF8.toList (ofTables raggedTables)
      ∧ (∃ w, (loadWorkbook (filesOf (ofTables raggedTables)) (.json "b.json")).outcome = .ok w
        ∧ w.names.Perm ["b", "a"]
        ∧ w.sheet? "b" = some ⟨"b", [["\"\n", "", "true"], [], ["-9223372036854775808"]]⟩)
      ∧ JsonToken.Spells "18446744073709551615".toList
        (.literal (.number (.integer 18446744073709551615)))
      ∧ (loadWorkbook (filesOf (ofTables (tablesOf [⟨"crew", [["1", ""]]⟩, ⟨"boat", []⟩])))
          (.json "b.json")).outcome = .ok (.ofSheets [⟨"boat", []⟩, ⟨"crew", [["1", ""]]⟩]) := by
  have hragged : filesOf (ofTables raggedTables) "b.json"
      = .ok (.bytes (ofTables raggedTables).compact.toUTF8.toList) := rfl
  have hload := loadWorkbook_document hragged
  have hwritten := hload.2.2.2.1 raggedTables (by simp [raggedTables, IsExact])
  have hparses := hload.2.1 _ hwritten (by decide)
  refine ⟨hparses, ?cells, hload.2.2.1 _ (by decide) (by decide), ?texts⟩
  case cells =>
    obtain ⟨hiff, hsheets⟩ := hload.1 raggedTables hparses (by decide)
    obtain ⟨w, hw⟩ := hiff.2 (by simp [raggedTables, Json.IsScalar])
    obtain ⟨hnames, hrows⟩ := hsheets w hw
    obtain ⟨rows, hb, htext⟩ := hrows _ List.mem_cons_self
    have hsheet := (@sheetOf_eq_ok_iff ("b", _) ⟨"b", rows⟩).2 ⟨rfl, htext⟩
    exact ⟨w, hw, hnames, hb.trans (congrArg some (Except.ok.inj (hsheet.symm.trans rfl)))⟩
  case texts =>
    have hcrew : filesOf (ofTables (tablesOf [⟨"crew", [["1", ""]]⟩, ⟨"boat", []⟩])) "b.json"
        = .ok (.bytes _) := rfl
    have hload := loadWorkbook_document hcrew
    have hwritten := hload.2.2.2.1 (tablesOf [⟨"crew", [["1", ""]]⟩, ⟨"boat", []⟩])
      (by simp [tablesOf, IsExact])
    exact hload.2.2.2.2 _ _ (List.Perm.swap _ _ _) hwritten

end Document

end LinkedSheets
