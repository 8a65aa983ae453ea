/-!
# Workbooks

A workbook holds sheets under their names, and a sheet holds rows of cell texts. The first row of a
sheet is its header; the others are its data rows and are counted from zero. Rows may be shorter or
longer than the header: a cell that a row does not reach is blank, and one that no column names is
never looked at.

The sheets of a workbook are kept in the order of their names, so two workbooks are equal when they
hold equal sheets, in whatever order those were put in.
-/

namespace LinkedSheets

abbrev Row := List String

/-- The text of a cell; a cell past the end of the row is blank. -/
def Row.cell (row : Row) (column : Nat) : String :=
  row[column]?.getD ""

/-- The columns of a header, each with the cell that the row has for it. -/
def Row.against : (header : List String) → Row → List (String × String)
  | [], _ => []
  | column :: header, [] => (column, "") :: Row.against header []
  | column :: header, text :: row => (column, text) :: Row.against header row

structure Sheet where
  name : String
  rows : List Row
  deriving DecidableEq, Repr

namespace Sheet

variable (sheet : Sheet)

/-- The names of the columns. A sheet without rows has none. -/
def header : List String :=
  sheet.rows.headD []

def dataRows : List Row :=
  sheet.rows.tail

end Sheet

structure Workbook where
  sheets : List Sheet
  sorted : sheets.Pairwise (·.name < ·.name)
  deriving DecidableEq

namespace Workbook

def empty : Workbook := ⟨[], .nil⟩

instance : Inhabited Workbook := ⟨empty⟩

/-- Puts a sheet in its place, instead of one of the same name. -/
def place (sheet : Sheet) : List Sheet → List Sheet
  | [] => [sheet]
  | other :: rest =>
    if sheet.name < other.name then sheet :: other :: rest
    else if sheet.name = other.name then sheet :: rest
    else other :: place sheet rest

theorem mem_place {sheet s : Sheet} : ∀ {sheets : List Sheet}, s ∈ place sheet sheets →
    s = sheet ∨ s ∈ sheets
  | [], h => by simpa [place] using h
  | other :: rest, h => by
    rw [place] at h
    split at h
    · simpa using h
    split at h
    · rcases List.mem_cons.1 h with h | h
      · exact .inl h
      · exact .inr (List.mem_cons_of_mem _ h)
    · rcases List.mem_cons.1 h with h | h
      · exact .inr (h ▸ List.mem_cons_self)
      · exact (mem_place h).imp_right (List.mem_cons_of_mem _)

theorem pairwise_place (sheet : Sheet) : ∀ {sheets : List Sheet},
    sheets.Pairwise (·.name < ·.name) → (place sheet sheets).Pairwise (·.name < ·.name)
  | [], _ => by simp [place]
  | other :: rest, h => by
    obtain ⟨hother, hrest⟩ := List.pairwise_cons.1 h
    rw [place]
    split
    · rename_i hlt
      refine List.pairwise_cons.2 ⟨fun s hs => ?_, h⟩
      rcases List.mem_cons.1 hs with rfl | hs
      · exact hlt
      · exact String.lt_trans hlt (hother s hs)
    split
    · rename_i heq
      exact List.pairwise_cons.2 ⟨fun s hs => heq ▸ hother s hs, hrest⟩
    · rename_i hlt hne
      refine List.pairwise_cons.2 ⟨fun s hs => ?_, pairwise_place sheet hrest⟩
      rcases mem_place hs with rfl | hs
      · have hle := String.not_lt.1 hlt
        exact Decidable.byContradiction fun hge =>
          hne (String.le_antisymm (String.not_lt.1 hge) hle)
      · exact hother s hs

/-- Adds a sheet; one of the same name goes. -/
def insert (w : Workbook) (sheet : Sheet) : Workbook :=
  ⟨place sheet w.sheets, pairwise_place sheet w.sorted⟩

def sheet? (w : Workbook) (name : String) : Option Sheet :=
  w.sheets.find? (·.name == name)

/-- The workbook that holds the sheets; of two with one name it holds the later one. -/
def ofSheets (sheets : List Sheet) : Workbook :=
  sheets.foldl insert empty

def names (w : Workbook) : List String :=
  w.sheets.map (·.name)

def size (w : Workbook) : Nat :=
  w.sheets.length

end Workbook

end LinkedSheets
