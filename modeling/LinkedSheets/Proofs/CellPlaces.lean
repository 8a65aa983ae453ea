import LinkedSheets.Proofs.PairedLists
import LinkedSheets.Proofs.RowLookup
import LinkedSheets.Proofs.UsedRange
import LinkedSheets.Source.Load

/-!
# Where the cells of a spreadsheet go

A sheet of a spreadsheet is loaded with all its cells in their places. At each place it shows what
the last cell there holds, and what lies under that is never shown (`HoldsAt`,
`BookSheet.ShowsAt`). It can be read when every cell has a place and fits its type, and when every
cell that is to be seen has a text (`BookSheet.exists_usedRange_iff`). A spreadsheet is loaded when
all of its sheets can be read; of sheets with one name the first is taken for all.
-/

namespace LinkedSheets

section Sheet

/-- What a number in the cell stands for. -/
def PlacedCell.kind (cell : PlacedCell) : NumberKind :=
  (cell.format.map NumberFormat.kind).getD .plain

/-- The cell is at the place and holds the content. -/
def PlacedCell.Holds (cell : PlacedCell) (place : Nat × Nat) (content : CellContent) : Prop :=
  placeOfName? cell.place = some place ∧ cell.content.content? cell.kind = .ok (some content)

/-- The cell has a place, and it fits its type. -/
def PlacedCell.Fits (cell : PlacedCell) : Prop :=
  (∃ place, placeOfName? cell.place = some place)
    ∧ ∃ content, cell.content.content? cell.kind = .ok content

/-- Of the cells that are at the place the last one holds the content. -/
inductive HoldsAt (place : Nat × Nat) (content : CellContent) : List PlacedCell → Prop
  | last {cell : PlacedCell} {cells : List PlacedCell} (h : cell.Holds place content)
      (hlast : ∀ later ∈ cells, ∀ other, ¬ later.Holds place other) :
      HoldsAt place content (cell :: cells)
  | later {cell : PlacedCell} {cells : List PlacedCell} (h : HoldsAt place content cells) :
      HoldsAt place content (cell :: cells)

/-- The sheet shows the text at the place: that of the cell there, or none if there is no cell. -/
def BookSheet.ShowsAt (sheet : BookSheet) (from1904 : Bool) (place : Nat × Nat) (text : String) :
    Prop :=
  (∃ content, HoldsAt place content sheet.cells ∧ content.text? from1904 = some text)
    ∨ (∀ content, ¬ HoldsAt place content sheet.cells) ∧ text = ""

/-- All cells of the sheet fit, and those that are to be seen can be shown. -/
def BookSheet.IsReadable (sheet : BookSheet) (from1904 : Bool) : Prop :=
  (∀ cell ∈ sheet.cells, cell.Fits) ∧ ∀ place content, HoldsAt place content sheet.cells →
    ∃ text, content.text? from1904 = some text

namespace BookSheet

section Contents

variable {place : Nat × Nat} {content : CellContent}

theorem contents_cons_eq_ok_iff {cell : PlacedCell} {cells : List PlacedCell}
    {placed : List (UsedRange.Placed CellContent)} :
    contents (cell :: cells) = .ok placed ↔ ∃ place content rest,
      placeOfName? cell.place = some place ∧ cell.content.content? cell.kind = .ok content
        ∧ contents cells = .ok rest
        ∧ placed = (content.map (place, ·)).toList ++ rest := by
  rw [contents]
  rcases hplace : placeOfName? cell.place with _ | place
  · simp
  dsimp only
  rw [← PlacedCell.kind]
  simp only [bind_eq_ok_iff, Except.ok.injEq]
  constructor
  · rintro ⟨content, hcontent, rest, hrest, rfl⟩
    refine ⟨place, content, rest, rfl, hcontent, hrest, ?_⟩
    cases content <;> rfl
  · rintro ⟨place', content, rest, hplace', hcontent, hrest, rfl⟩
    obtain rfl := Option.some.inj hplace'
    refine ⟨content, hcontent, rest, hrest, ?_⟩
    cases content <;> rfl

theorem exists_contents_iff (cells : List PlacedCell) :
    (∃ placed, contents cells = .ok placed) ↔ ∀ cell ∈ cells, cell.Fits := by
  induction cells with
  | nil => simp [contents]
  | cons cell cells ih =>
    rw [List.forall_mem_cons, ← ih]
    simp only [contents_cons_eq_ok_iff]
    constructor
    · rintro ⟨-, place, content, rest, hplace, hcontent, hrest, -⟩
      exact ⟨⟨⟨place, hplace⟩, content, hcontent⟩, rest, hrest⟩
    · rintro ⟨⟨⟨place, hplace⟩, content, hcontent⟩, rest, hrest⟩
      exact ⟨_, place, content, rest, hplace, hcontent, hrest, rfl⟩

theorem holdsAt_cons_iff {cell : PlacedCell} {cells : List PlacedCell} :
    HoldsAt place content (cell :: cells) ↔ HoldsAt place content cells
      ∨ cell.Holds place content ∧ ∀ later ∈ cells, ∀ other, ¬ later.Holds place other := by
  constructor
  · rintro (⟨h, hlast⟩ | h)
    · exact .inr ⟨h, hlast⟩
    · exact .inl h
  · rintro (h | ⟨h, hlast⟩)
    · exact .later h
    · exact .last h hlast

/-- The contents are kept with their places, so at a place the last of them is that of the last
cell. -/
theorem lookup_contents {cells : List PlacedCell} {placed : List (UsedRange.Placed CellContent)}
    (h : contents cells = .ok placed) :
    (placed.reverse.lookup place = none ↔ ∀ cell ∈ cells, ∀ other, ¬ cell.Holds place other)
      ∧ ∀ content, placed.reverse.lookup place = some content ↔ HoldsAt place content cells := by
  induction cells generalizing placed with
  | nil =>
    obtain rfl := Except.ok.inj h
    exact ⟨by simp, fun content => ⟨by simp, nofun⟩⟩
  | cons cell cells ih =>
    obtain ⟨other, held, rest, hplace, hheld, hrest, rfl⟩ := contents_cons_eq_ok_iff.1 h
    obtain ⟨hnone, hsome⟩ := ih hrest
    simp only [List.reverse_append, List.lookup_append, holdsAt_cons_iff, ← hsome, ← hnone,
      List.forall_mem_cons]
    have hholds (content : CellContent) : cell.Holds place content ↔
        (held.map (other, ·)).toList.reverse.lookup place = some content := by
      rw [PlacedCell.Holds, hplace, hheld]
      rcases held with _ | c
      · simp
      · by_cases heq : place = other
        · simp [heq]
        · simp [List.lookup_cons, beq_eq_false_iff_ne.2 heq, Ne.symm heq]
    simp only [hholds]
    rcases rest.reverse.lookup place with _ | last
    · rcases (held.map (other, ·)).toList.reverse.lookup place with _ | c <;> simp
    · simp

end Contents

section Texts

variable {from1904 : Bool}

/-- The cell is shown at its place. -/
def IsShown (from1904 : Bool) (cell : UsedRange.Placed CellContent)
    (shown : UsedRange.Placed String) : Prop :=
  cell.1 = shown.1 ∧ cell.2.text? from1904 = some shown.2

theorem texts_eq_ok_iff {cells : List (UsedRange.Placed CellContent)}
    {shown : List (UsedRange.Placed String)} :
    texts from1904 cells = .ok shown ↔ List.Forall₂ (IsShown from1904) cells shown := by
  induction cells generalizing shown with
  | nil => simp [texts, eq_comm]
  | cons cell cells ih =>
    obtain ⟨place, content⟩ := cell
    rw [texts]
    rcases htext : content.text? from1904 with _ | text
    · simp [IsShown, htext, List.forall₂_cons_left_iff]
    simp only [bind_eq_ok_iff, Except.ok.injEq, ih, List.forall₂_cons_left_iff]
    constructor
    · rintro ⟨rest, hrest, rfl⟩
      exact ⟨_, _, ⟨rfl, htext⟩, hrest, rfl⟩
    · rintro ⟨⟨place', text'⟩, rest, ⟨rfl, htext'⟩, hrest, rfl⟩
      obtain rfl : text = text' := Option.some.inj (htext.symm.trans htext')
      exact ⟨rest, hrest, rfl⟩

theorem exists_texts_iff (cells : List (UsedRange.Placed CellContent)) :
    (∃ shown, texts from1904 cells = .ok shown) ↔
      ∀ cell ∈ cells, ∃ text, cell.2.text? from1904 = some text := by
  simp only [texts_eq_ok_iff]
  constructor
  · rintro ⟨shown, h⟩ cell hcell
    obtain ⟨s, -, -, htext⟩ := exists_right_of_forall₂ h hcell
    exact ⟨s.2, htext⟩
  · intro h
    refine exists_forall₂_of_forall_mem fun cell hcell => ?_
    obtain ⟨text, htext⟩ := h cell hcell
    exact ⟨(cell.1, text), rfl, htext⟩

theorem lookup_shown {cells : List (UsedRange.Placed CellContent)}
    {shown : List (UsedRange.Placed String)} (h : List.Forall₂ (IsShown from1904) cells shown)
    (place : Nat × Nat) :
    shown.lookup place = (cells.lookup place).bind (·.text? from1904) := by
  induction h with
  | nil => rfl
  | @cons cell s cells shown hs _ ih =>
    obtain ⟨other, content⟩ := cell
    obtain ⟨other', text⟩ := s
    obtain ⟨rfl, htext⟩ := hs
    rw [List.lookup_cons, List.lookup_cons]
    by_cases heq : place = other
    · simp [heq, htext]
    · simp [beq_eq_false_iff_ne.2 heq, ih]

theorem map_fst_shown {cells : List (UsedRange.Placed CellContent)}
    {shown : List (UsedRange.Placed String)} (h : List.Forall₂ (IsShown from1904) cells shown) :
    shown.map (·.1) = cells.map (·.1) := by
  induction h with
  | nil => rfl
  | cons hs _ ih => rw [List.map_cons, List.map_cons, ih, hs.1]

end Texts

section UsedRange

variable {from1904 : Bool} {sheet : BookSheet}

theorem usedRange_eq_ok_iff {range : UsedRange} : sheet.usedRange from1904 = .ok range ↔
    ∃ placed shown, contents sheet.cells = .ok placed
      ∧ List.Forall₂ (IsShown from1904) (UsedRange.visible placed) shown
      ∧ range = .ofCells shown := by
  simp only [usedRange, bind_eq_ok_iff, Except.ok.injEq, texts_eq_ok_iff]
  constructor
  · rintro ⟨placed, hplaced, shown, hshown, rfl⟩
    exact ⟨placed, shown, hplaced, hshown, rfl⟩
  · rintro ⟨placed, shown, hplaced, hshown, rfl⟩
    exact ⟨placed, hplaced, shown, hshown, rfl⟩

theorem exists_usedRange_iff :
    (∃ range, sheet.usedRange from1904 = .ok range) ↔ sheet.IsReadable from1904 := by
  have hvisible {placed : List (UsedRange.Placed CellContent)}
      (hplaced : contents sheet.cells = .ok placed) :
      (∃ shown, texts from1904 (UsedRange.visible placed) = .ok shown) ↔
        ∀ place content, HoldsAt place content sheet.cells →
          ∃ text, content.text? from1904 = some text := by
    rw [exists_texts_iff, Prod.forall]
    refine forall₂_congr fun place content => ?_
    rw [UsedRange.mem_visible_iff, (lookup_contents hplaced).2]
  rw [IsReadable, ← exists_contents_iff]
  constructor
  · rintro ⟨range, h⟩
    obtain ⟨placed, shown, hplaced, hshown, -⟩ := usedRange_eq_ok_iff.1 h
    exact ⟨⟨placed, hplaced⟩, (hvisible hplaced).1 ⟨shown, texts_eq_ok_iff.2 hshown⟩⟩
  · rintro ⟨⟨placed, hplaced⟩, h⟩
    obtain ⟨shown, hshown⟩ := (hvisible hplaced).2 h
    exact ⟨_, usedRange_eq_ok_iff.2 ⟨placed, shown, hplaced, texts_eq_ok_iff.1 hshown, rfl⟩⟩

/-- The used range is around the cells and shows each of them where it is. -/
theorem exists_spans_of_usedRange {range : UsedRange} (h : sheet.usedRange from1904 = .ok range) :
    (∃ height width, range.IsDense height width
      ∧ Spans (fun p => ∃ content, HoldsAt p content sheet.cells) range.row range.column
        height width)
      ∧ ∀ i j text, range.textAt i j = text ↔ sheet.ShowsAt from1904 (i, j) text := by
  obtain ⟨placed, shown, hplaced, hshown, rfl⟩ := usedRange_eq_ok_iff.1 h
  have hplaces := map_fst_shown hshown
  have hnodup : (shown.map (·.1)).Nodup := hplaces ▸ UsedRange.nodup_visible placed
  have hlookup (place : Nat × Nat) : shown.reverse.lookup place
      = (placed.reverse.lookup place).bind (·.text? from1904) := by
    rw [lookup_reverse hnodup, lookup_shown hshown, UsedRange.lookup_visible]
  constructor
  · have hoccupied : (· ∈ shown.map (·.1)) = fun p => ∃ content, HoldsAt p content sheet.cells := by
      funext p
      rw [hplaces, eq_iff_iff, List.mem_map]
      simp only [← (lookup_contents hplaced).2, ← UsedRange.mem_visible_iff]
      constructor
      · rintro ⟨⟨place, content⟩, hmem, rfl⟩
        exact ⟨content, hmem⟩
      · rintro ⟨content, hmem⟩
        exact ⟨(p, content), hmem, rfl⟩
    rw [← hoccupied]
    exact UsedRange.exists_isDense_ofCells shown
  · intro i j text
    simp only [UsedRange.textAt_ofCells, hlookup, ShowsAt, ← (lookup_contents hplaced).2]
    rcases hlast : placed.reverse.lookup (i, j) with _ | content
    · simp [eq_comm]
    · have hmem : ((i, j), content) ∈ UsedRange.visible placed :=
        UsedRange.mem_visible_iff.2 hlast
      obtain ⟨s, -, -, htext⟩ := exists_right_of_forall₂ hshown hmem
      have htext : content.text? from1904 = some s.2 := htext
      simp [htext]

end UsedRange

end BookSheet

end Sheet

section Book

/-- The sheet is the first of the spreadsheet that has its name. -/
def Book.Has (book : Book) (sheet : BookSheet) : Prop :=
  book.sheets.find? (·.name == sheet.name) = some sheet

variable {book : Book} {sheet : BookSheet}

theorem Book.exists_has {other : BookSheet} (h : other ∈ book.sheets) :
    ∃ sheet, book.Has sheet ∧ sheet.name = other.name := by
  rcases hfind : book.sheets.find? (·.name == other.name) with _ | sheet
  · exact absurd (List.find?_eq_none.1 hfind other h) (by simp)
  · have hname : sheet.name = other.name := by simpa using List.find?_some hfind
    exact ⟨sheet, by rw [Has, hname, hfind], hname⟩

theorem Book.range?_eq (h : book.Has sheet) :
    book.range? sheet.name = sheet.usedRange book.from1904 := by
  rw [range?, h]

/-- What is loaded of a sheet. -/
def Book.LoadedAs (book : Book) (sheet : BookSheet) (loaded : Sheet) : Prop :=
  ∃ range, book.range? sheet.name = .ok range ∧ loaded = ⟨sheet.name, range.rows⟩

theorem Book.toSheets_eq_ok_iff {sheets : List Sheet} : book.toSheets = .ok sheets ↔
    List.Forall₂ book.LoadedAs book.sheets sheets := by
  rw [toSheets, mapM_eq_ok_iff_forall₂]
  refine forall₂_congr_of_mem fun sheet _ loaded => ?_
  rw [LoadedAs]
  rcases book.range? sheet.name with fault | range <;> simp [eq_comm]

theorem Book.exists_toSheets_iff : (∃ sheets, book.toSheets = .ok sheets) ↔
    ∀ sheet, book.Has sheet → sheet.IsReadable book.from1904 := by
  simp only [← BookSheet.exists_usedRange_iff, toSheets_eq_ok_iff]
  constructor
  · rintro ⟨sheets, hloaded⟩ sheet hsheet
    obtain ⟨loaded, -, range, hrange, -⟩ :=
      exists_right_of_forall₂ hloaded (List.mem_of_find?_eq_some hsheet)
    exact ⟨range, range?_eq hsheet ▸ hrange⟩
  · intro h
    refine exists_forall₂_of_forall_mem fun other hother => ?_
    obtain ⟨sheet, hsheet, hname⟩ := exists_has hother
    obtain ⟨range, hrange⟩ := h sheet hsheet
    rw [← range?_eq hsheet, hname] at hrange
    exact ⟨_, range, hrange, rfl⟩

/-- Sheets of one name are all loaded alike, as the first of them. -/
theorem Book.sheet?_of_has (h : book.Has sheet) {sheets : List Sheet}
    (hsheets : book.toSheets = .ok sheets) {range : UsedRange}
    (hrange : sheet.usedRange book.from1904 = .ok range) :
    (Workbook.ofSheets sheets).sheet? sheet.name = some ⟨sheet.name, range.rows⟩ := by
  have hloaded := toSheets_eq_ok_iff.1 hsheets
  rw [← range?_eq h] at hrange
  rw [Workbook.sheet?_ofSheets]
  rcases hfind : sheets.reverse.find? (·.name == sheet.name) with _ | found
  · obtain ⟨loaded, hmem, range', -, rfl⟩ :=
      exists_right_of_forall₂ hloaded (List.mem_of_find?_eq_some h)
    exact absurd (List.find?_eq_none.1 hfind _ (List.mem_reverse.2 hmem)) (by simp)
  · obtain ⟨other, -, range', hrange', rfl⟩ :=
      exists_left_of_forall₂ hloaded (List.mem_reverse.1 (List.mem_of_find?_eq_some hfind))
    have hname : other.name = sheet.name := by simpa using List.find?_some hfind
    rw [hname, hrange, Except.ok.injEq] at hrange'
    rw [hfind, hname, hrange']

end Book

namespace Source

variable {files : Files} {path : String} {book : Book}

theorem outcome_spreadsheet (hfile : files path = .ok (.book book))
    (hkind : ∀ extension ∈ SourcePath.fileExtension? path, extension ∉ otherBookExtensions)
    {w : Workbook} : (loadWorkbook files (.spreadsheet path)).outcome = .ok w ↔
      ∃ sheets, book.toSheets = .ok sheets ∧ w = .ofSheets sheets := by
  have hother : (SourcePath.fileExtension? path).any otherBookExtensions.contains = false := by
    rw [Bool.eq_false_iff, ne_eq, Option.any_eq_true]
    rintro ⟨extension, hextension, hmem⟩
    exact hkind extension hextension (List.contains_iff_mem.1 hmem)
  have hbook : readBook path files
      = book.toSheets.mapError fun bad => .badSpreadsheetSheet path bad.1 bad.2 := by
    rw [readBook, hfile]
    simp [hother]
  have hload : (loadWorkbook files (.spreadsheet path)).outcome
      = readBook path files >>= fun sheets => .ok (.ofSheets sheets) := by
    simp only [loadWorkbook, loadSheets, Traced.outcome_bind, Traced.outcome_emit,
      Traced.outcome_ofExcept, Traced.outcome_pure, ok_bind]
  rw [hload, hbook, bind_eq_ok_iff]
  simp only [mapError_eq_ok_iff, Except.ok.injEq, @eq_comm _ w]

/-- A rectangle of rows of one length is put where it belongs: as many rows without cells as are
above it come first, every row of it begins with as many blank cells as are to the left of it, and
all its texts stay at their places.

A spreadsheet is loaded just when each of its sheets can be read. What is loaded of a sheet has in
this way the smallest rectangle around the cells that are there, and it shows at each place the text
of the cell at that place, or none where there is no cell. So its header is the first row of the
spreadsheet, and its data rows are the rows below, each cell in its column. -/
theorem loadWorkbook_spreadsheet {files : Files} {path : String} {book : Book}
    (hfile : files path = .ok (.book book))
    (hkind : ∀ extension ∈ SourcePath.fileExtension? path, extension ∉ otherBookExtensions) :
    (∀ (range : UsedRange) height width, range.IsDense height width →
        Anchors range.rows range.row range.column height width
          ∧ ∀ i j, cellAt range.rows i j = range.textAt i j)
      ∧ ((∃ w, (loadWorkbook files (.spreadsheet path)).outcome = .ok w) ↔
        ∀ sheet, book.Has sheet → sheet.IsReadable book.from1904)
      ∧ ∀ w, (loadWorkbook files (.spreadsheet path)).outcome = .ok w →
        ∀ sheet, book.Has sheet → ∃ loaded top left height width,
          w.sheet? sheet.name = some loaded
            ∧ Spans (fun p => ∃ content, HoldsAt p content sheet.cells) top left height width
            ∧ Anchors loaded.rows top left height width
            ∧ (∀ i j text, cellAt loaded.rows i j = text ↔
              sheet.ShowsAt book.from1904 (i, j) text)
            ∧ (∀ j text, Row.cell loaded.header j = text ↔
              sheet.ShowsAt book.from1904 (0, j) text)
            ∧ ∀ i j text, cellAt loaded.dataRows i j = text ↔
              sheet.ShowsAt book.from1904 (i + 1, j) text := by
  refine ⟨fun range height width h => ⟨UsedRange.anchors_rows h, UsedRange.cellAt_rows⟩,
    ?iff, fun w hw sheet hsheet => ?cells⟩
  case iff =>
    rw [← Book.exists_toSheets_iff]
    simp [outcome_spreadsheet hfile hkind]
  case cells =>
    obtain ⟨sheets, hsheets, rfl⟩ := (outcome_spreadsheet hfile hkind).1 hw
    obtain ⟨range, hrange⟩ := BookSheet.exists_usedRange_iff.2
      (Book.exists_toSheets_iff.1 ⟨sheets, hsheets⟩ sheet hsheet)
    obtain ⟨⟨height, width, hdense, hspans⟩, hshows⟩ := BookSheet.exists_spans_of_usedRange hrange
    have hcell (i j : Nat) (text : String) : cellAt range.rows i j = text ↔
        sheet.ShowsAt book.from1904 (i, j) text := by
      rw [UsedRange.cellAt_rows, hshows]
    refine ⟨_, _, _, height, width, Book.sheet?_of_has hsheet hsheets hrange, hspans,
      UsedRange.anchors_rows hdense, hcell, fun j text => ?_, fun i j text => ?_⟩
    · rw [← hcell, cellAt, Sheet.header, List.headD_eq_head?_getD, List.head?_eq_getElem?]
    · rw [← hcell, cellAt, cellAt, Sheet.getElem?_dataRows]

section City

/-- The first row and the first column are empty, and a number lies over a text. -/
def city : BookSheet :=
  ⟨"city", [⟨"B2", .text "id", none⟩, ⟨"D2", .result "country", none⟩, ⟨"B3", .text "x", none⟩,
    ⟨"d3", .text "FR", none⟩, ⟨"B3", .number "1", none⟩, ⟨"F9", .blank, none⟩]⟩

def cityBook : Book :=
  ⟨false, [city]⟩

def cityRows : List Row :=
  [[], ["", "id", "", "country"], ["", "1", "", "FR"]]

theorem loadWorkbook_spreadsheet_city :
    (∀ extension ∈ SourcePath.fileExtension? "city.xlsx", extension ∉ otherBookExtensions)
      ∧ (loadWorkbook (fun _ => .ok (.book cityBook)) (.spreadsheet "city.xlsx")).outcome
        = .ok (.ofSheets [⟨"city", cityRows⟩])
      ∧ cityBook.Has city
      ∧ (∃ top left height width, Anchors cityRows top left height width
        ∧ Spans (fun p => ∃ content, HoldsAt p content city.cells) top left height width)
      ∧ city.ShowsAt false (2, 1) "1" ∧ city.ShowsAt false (2, 3) "FR"
      ∧ city.ShowsAt false (8, 5) "" := by
  have hkind : ∀ extension ∈ SourcePath.fileExtension? "city.xlsx",
      extension ∉ otherBookExtensions := by decide
  have hload : (loadWorkbook (fun _ => .ok (.book cityBook)) (.spreadsheet "city.xlsx")).outcome
      = .ok (.ofSheets [⟨"city", cityRows⟩]) := rfl
  obtain ⟨-, -, hsheets⟩ :=
    @loadWorkbook_spreadsheet (fun _ => .ok (.book cityBook)) "city.xlsx" cityBook rfl hkind
  obtain ⟨loaded, top, left, height, width, hloaded, hspans, hanchors, hcells, -⟩ :=
    hsheets _ hload city rfl
  obtain rfl : ⟨"city", cityRows⟩ = loaded := Option.some.inj hloaded
  exact ⟨hkind, hload, rfl, ⟨top, left, height, width, hanchors, hspans⟩, (hcells 2 1 "1").1 rfl,
    (hcells 2 3 "FR").1 rfl, (hcells 8 5 "").1 rfl⟩

end City

end Source

end LinkedSheets
