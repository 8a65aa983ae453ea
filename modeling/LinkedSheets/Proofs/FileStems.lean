import LinkedSheets.Proofs.PairedLists
import LinkedSheets.Proofs.Placed
import LinkedSheets.Source.Load

/-!
# Files of one name

A file of separated values gives its sheet a name that does not tell its directory or its extension,
so several files of a list may give one name. The list is loaded when every file of it makes a sheet
(`outcome_csv_eq_ok_iff`); under each name there is then the sheet of the last file that gives it
(`sheet?_of_forall₂`), and the sheets of the files before are gone. Nothing of the list gets lost
just when files that give one name have the same records.
-/

namespace LinkedSheets

namespace Source

/-- The file at the path can be read, and it has these records. -/
def HasRecords (files : Files) (byte : UInt8) (path : String) (rows : List Row) : Prop :=
  ∃ entry bytes, files path = .ok entry ∧ entry.read = .ok bytes ∧ Csv.read? byte bytes = some rows

/-- The sheet has the name that the path gives and the records of the file there. -/
structure IsSheetOf (files : Files) (byte : UInt8) (path : String) (sheet : Sheet) : Prop where
  name : SourcePath.fileStem? path = some sheet.name
  rows : HasRecords files byte path sheet.rows

/-- The sheet of the file is in the workbook. -/
def Keeps (files : Files) (byte : UInt8) (w : Workbook) (path : String) : Prop :=
  ∃ sheet, IsSheetOf files byte path sheet ∧ w.sheet? sheet.name = some sheet

/-- Of the paths that give the name this one is the last. -/
def LastOf (paths : List String) (name path : String) : Prop :=
  paths.reverse.find? (SourcePath.fileStem? · = some name) = some path

variable {files : Files} {byte : UInt8} {path name : String} {paths : List String}

section Sheet

theorem HasRecords.unique {rows rows' : List Row} (h : HasRecords files byte path rows)
    (h' : HasRecords files byte path rows') : rows = rows' := by
  obtain ⟨entry, bytes, hentry, hbytes, hrows⟩ := h
  obtain ⟨entry', bytes', hentry', hbytes', hrows'⟩ := h'
  obtain rfl := Except.ok.inj (hentry.symm.trans hentry')
  obtain rfl := Except.ok.inj (hbytes.symm.trans hbytes')
  exact Option.some.inj (hrows.symm.trans hrows')

theorem IsSheetOf.unique {sheet sheet' : Sheet} (h : IsSheetOf files byte path sheet)
    (h' : IsSheetOf files byte path sheet') : sheet = sheet' := by
  obtain ⟨name, rows⟩ := sheet
  obtain ⟨name', rows'⟩ := sheet'
  obtain rfl : name = name' := Option.some.inj (h.name.symm.trans h'.name)
  obtain rfl : rows = rows' := h.rows.unique h'.rows
  rfl

theorem readCsvSheet_eq_ok_iff {sheet : Sheet} : readCsvSheet path name byte files = .ok sheet ↔
    HasRecords files byte path sheet.rows ∧ name = sheet.name := by
  simp only [readCsvSheet, bind_eq_ok_iff, mapError_eq_ok_iff, HasRecords]
  constructor
  · rintro ⟨entry, hentry, bytes, hbytes, hsheet⟩
    rcases hrows : Csv.read? byte bytes with _ | rows <;> rw [hrows] at hsheet
    · nomatch hsheet
    · obtain rfl := Except.ok.inj hsheet
      exact ⟨⟨entry, bytes, hentry, hbytes, hrows⟩, rfl⟩
  · rintro ⟨⟨entry, bytes, hentry, hbytes, hrows⟩, rfl⟩
    exact ⟨entry, hentry, bytes, hbytes, by rw [hrows]⟩

theorem outcome_loadCsvFile_eq_ok_iff {sheet : Sheet} :
    (loadCsvFile files byte path).outcome = .ok sheet ↔ IsSheetOf files byte path sheet := by
  rw [loadCsvFile]
  rcases hstem : SourcePath.fileStem? path with _ | name
  · refine ⟨nofun, fun h => ?_⟩
    rw [h.name] at hstem
    nomatch hstem
  · simp only [Traced.outcome_bind, Traced.outcome_emit, Traced.outcome_ofExcept, ok_bind,
      readCsvSheet_eq_ok_iff]
    constructor
    · rintro ⟨hrows, rfl⟩
      exact ⟨hstem, hrows⟩
    · intro h
      exact ⟨h.rows, Option.some.inj (hstem.symm.trans h.name)⟩

end Sheet

section Workbook

theorem outcome_loadCsvFiles (paths : List String) : (loadCsvFiles files byte paths).outcome
    = paths.mapM fun path => (loadCsvFile files byte path).outcome := by
  induction paths with
  | nil => rfl
  | cons path paths ih =>
    rw [loadCsvFiles, Traced.outcome_bind, List.mapM_cons]
    simp only [Traced.outcome_bind, Traced.outcome_pure, ih, pure_eq_ok]

theorem outcome_csv_eq_ok_iff {delimiter : Char} {w : Workbook} :
    (loadWorkbook files (.csv paths delimiter)).outcome = .ok w ↔ ∃ byte sheets,
      delimiterByte? delimiter = some byte ∧ List.Forall₂ (IsSheetOf files byte) paths sheets
        ∧ w = .ofSheets sheets := by
  rw [loadWorkbook, Traced.outcome_bind, loadSheets, loadCsv]
  rcases delimiterByte? delimiter with _ | byte
  · simp
  · simp only [bind_eq_ok_iff, Traced.outcome_pure, Except.ok.injEq, outcome_loadCsvFiles,
      mapM_eq_ok_iff_forall₂, outcome_loadCsvFile_eq_ok_iff, Option.some.injEq]
    constructor
    · rintro ⟨sheets, hsheets, rfl⟩
      exact ⟨byte, sheets, rfl, hsheets, rfl⟩
    · rintro ⟨byte, sheets, rfl, hsheets, rfl⟩
      exact ⟨sheets, hsheets, rfl⟩

/-- A file and its sheet are found in the same place, as the name is that of the file. -/
theorem find?_of_forall₂ {sheets : List Sheet}
    (h : List.Forall₂ (IsSheetOf files byte) paths sheets) (sheet : Sheet) : sheets.find? (·.name == name) = some sheet ↔ ∃ path,
      paths.find? (SourcePath.fileStem? · = some name) = some path
        ∧ IsSheetOf files byte path sheet := by
  induction h with
  | nil => simp
  | @cons path other paths sheets hother _ ih =>
    by_cases hname : other.name = name
    · simp only [List.find?_cons, hother.name, hname, beq_self_eq_true, decide_true,
        Option.some.injEq]
      constructor
      · rintro rfl
        exact ⟨path, rfl, hother⟩
      · rintro ⟨found, rfl, hsheet⟩
        exact hother.unique hsheet
    · simp [hother.name, hname, ih]

theorem sheet?_of_forall₂ {sheets : List Sheet}
    (h : List.Forall₂ (IsSheetOf files byte) paths sheets) (sheet : Sheet) :
    (Workbook.ofSheets sheets).sheet? name = some sheet ↔
      ∃ path, LastOf paths name path ∧ IsSheetOf files byte path sheet := by
  rw [Workbook.sheet?_ofSheets]
  exact find?_of_forall₂ (List.rel_reverse h) sheet

theorem exists_lastOf (hpath : path ∈ paths) (hname : SourcePath.fileStem? path = some name) :
    ∃ last, LastOf paths name last := by
  refine Option.isSome_iff_exists.1 (List.find?_isSome.2 ⟨path, List.mem_reverse.2 hpath, ?_⟩)
  exact decide_eq_true hname

theorem LastOf.mem (h : LastOf paths name path) : path ∈ paths :=
  List.mem_reverse.1 (List.mem_of_find?_eq_some h)

theorem LastOf.fileStem?_eq (h : LastOf paths name path) :
    SourcePath.fileStem? path = some name := by
  simpa using List.find?_some h

theorem keeps_iff {sheets : List Sheet} (h : List.Forall₂ (IsSheetOf files byte) paths sheets) :
    (∀ path ∈ paths, Keeps files byte (.ofSheets sheets) path) ↔
      ∀ p ∈ paths, ∀ q ∈ paths, SourcePath.fileStem? p = SourcePath.fileStem? q →
        ∀ rows, HasRecords files byte p rows → HasRecords files byte q rows := by
  constructor
  · intro hkeeps p hp q hq hpq rows hrows
    obtain ⟨sheet, hsheet, hfound⟩ := hkeeps p hp
    obtain ⟨sheet', hsheet', hfound'⟩ := hkeeps q hq
    have hname : sheet.name = sheet'.name :=
      Option.some.inj (hsheet.name.symm.trans (hpq.trans hsheet'.name))
    rw [← hname, hfound] at hfound'
    rw [hrows.unique hsheet.rows, Option.some.inj hfound']
    exact hsheet'.rows
  · intro hsame path hpath
    obtain ⟨sheet, -, hsheet⟩ := exists_right_of_forall₂ h hpath
    obtain ⟨last, hlast⟩ := exists_lastOf hpath hsheet.name
    have hrows : HasRecords files byte last sheet.rows :=
      hsame path hpath last hlast.mem (hsheet.name.trans hlast.fileStem?_eq.symm) _ hsheet.rows
    exact ⟨sheet, hsheet, (sheet?_of_forall₂ h sheet).2 ⟨last, hlast, hlast.fileStem?_eq, hrows⟩⟩

end Workbook

/-- Files are loaded just when the delimiter is a byte and every path gives a name and leads to a
file that has records. The workbook then has the sheet of the last file of each name and no others;
that is one for every file of the list as long as files of one name have the same records, and not
otherwise. -/
theorem loadWorkbook_csv (files : Files) (paths : List String) (delimiter : Char) :
    ((∃ w, (loadWorkbook files (.csv paths delimiter)).outcome = .ok w) ↔
        ∃ byte, delimiterByte? delimiter = some byte
          ∧ ∀ path ∈ paths, ∃ sheet, IsSheetOf files byte path sheet)
      ∧ ∀ w, (loadWorkbook files (.csv paths delimiter)).outcome = .ok w →
        ∃ byte, delimiterByte? delimiter = some byte
          ∧ (∀ name sheet, w.sheet? name = some sheet ↔
            ∃ path, LastOf paths name path ∧ IsSheetOf files byte path sheet)
          ∧ ((∀ path ∈ paths, Keeps files byte w path) ↔
            ∀ p ∈ paths, ∀ q ∈ paths, SourcePath.fileStem? p = SourcePath.fileStem? q →
              ∀ rows, HasRecords files byte p rows → HasRecords files byte q rows) := by
  simp only [outcome_csv_eq_ok_iff]
  constructor
  · constructor
    · rintro ⟨-, byte, sheets, hbyte, hsheets, -⟩
      refine ⟨byte, hbyte, fun path hpath => ?_⟩
      obtain ⟨sheet, -, hsheet⟩ := exists_right_of_forall₂ hsheets hpath
      exact ⟨sheet, hsheet⟩
    · rintro ⟨byte, hbyte, hpaths⟩
      obtain ⟨sheets, hsheets⟩ := exists_forall₂_of_forall_mem hpaths
      exact ⟨_, byte, sheets, hbyte, hsheets, rfl⟩
  · rintro - ⟨byte, sheets, hbyte, hsheets, rfl⟩
    exact ⟨byte, hbyte, fun name sheet => sheet?_of_forall₂ hsheets sheet, keeps_iff hsheets⟩

section Crew

/-- A file whose text has only characters of a single byte. -/
def plainFile (text : String) : FileEntry :=
  .bytes (text.toList.map Char.toUInt8)

def crewFiles : Files := fun path =>
  if path = "a/crew.csv" then .ok (plainFile "name\nAnn\n")
  else if path = "b/crew.csv" then .ok (plainFile "name\nBob\n")
  else if path = "staff.csv" then .ok (plainFile "name\nEve\n")
  else .error .notFound

theorem loadWorkbook_csv_two_names :
    (loadWorkbook crewFiles (.csv ["a/crew.csv", "staff.csv"] ',')).outcome
        = .ok (.ofSheets [⟨"crew", [["name"], ["Ann"]]⟩, ⟨"staff", [["name"], ["Eve"]]⟩])
      ∧ ∃ byte, delimiterByte? ',' = some byte
        ∧ LastOf ["a/crew.csv", "staff.csv"] "crew" "a/crew.csv"
        ∧ IsSheetOf crewFiles byte "a/crew.csv" ⟨"crew", [["name"], ["Ann"]]⟩ := by
  have hload : (loadWorkbook crewFiles (.csv ["a/crew.csv", "staff.csv"] ',')).outcome
      = .ok (.ofSheets [⟨"crew", [["name"], ["Ann"]]⟩, ⟨"staff", [["name"], ["Eve"]]⟩]) := rfl
  obtain ⟨byte, hbyte, hsheets, -⟩ :=
    (loadWorkbook_csv crewFiles ["a/crew.csv", "staff.csv"] ',').2 _ hload
  obtain ⟨path, hlast, hsheet⟩ := (hsheets "crew" ⟨"crew", [["name"], ["Ann"]]⟩).1 rfl
  obtain rfl : "a/crew.csv" = path := Option.some.inj hlast
  exact ⟨hload, byte, hbyte, hlast, hsheet⟩

/-- Of two files of one name in different directories only the later one is loaded. -/
theorem not_keeps_crew :
    (loadWorkbook crewFiles (.csv ["a/crew.csv", "b/crew.csv"] ',')).outcome
        = .ok (.ofSheets [⟨"crew", [["name"], ["Bob"]]⟩])
      ∧ IsSheetOf crewFiles 0x2C "a/crew.csv" ⟨"crew", [["name"], ["Ann"]]⟩
      ∧ ¬ Keeps crewFiles 0x2C (.ofSheets [⟨"crew", [["name"], ["Bob"]]⟩]) "a/crew.csv" := by
  have hsheet : IsSheetOf crewFiles 0x2C "a/crew.csv" ⟨"crew", [["name"], ["Ann"]]⟩ :=
    ⟨rfl, _, _, rfl, rfl, rfl⟩
  refine ⟨rfl, hsheet, ?_⟩
  rintro ⟨sheet, hkept, hfound⟩
  obtain rfl := hsheet.unique hkept
  exact absurd (Option.some.inj hfound) (by decide)

end Crew

end Source

end LinkedSheets
