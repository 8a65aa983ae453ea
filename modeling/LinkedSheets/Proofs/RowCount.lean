import LinkedSheets.Proofs.Cycle
import LinkedSheets.Proofs.Lenient
import Mathlib.Data.List.Perm.Subperm

/-!
# Chains longer than a workbook

A data row is told by its label, the name of its sheet and its number, and a workbook has as many
labels as data rows in all its sheets. A list of data rows that are all different is therefore no
longer than that (`length_le_rowCount`), and a longer chain of references comes to some data row
twice, so it goes round a cycle (`exists_cycle_of_chain`).

A failure for depth comes at the end of a walk that has followed as many references as the limit
allows. With the data row that it began in, the walk has one row more, so if the limit is not below
the number of data rows it goes round a cycle (`failsInCircle_of_tooDeep`).
-/

namespace LinkedSheets

/-- The number of data rows in all sheets together. -/
def Workbook.rowCount (w : Workbook) : Nat :=
  (w.sheets.flatMap (·.dataRows)).length

def Workbook.labels (w : Workbook) : List (String × Nat) :=
  w.sheets.flatMap fun sheet => (List.range sheet.dataRows.length).map (sheet.name, ·)

theorem length_labels (w : Workbook) : w.labels.length = w.rowCount := by
  simp [Workbook.labels, Workbook.rowCount, List.length_flatMap]

namespace DataRow

open Relation Resolver

variable {w : Workbook}

def label (a : DataRow w) : String × Nat :=
  (a.sheet.name, a.index)

section Labels

theorem eq_of_label_eq {a b : DataRow w} (h : a.label = b.label) : a = b := by
  obtain ⟨sheet, index, row, hs, hr⟩ := a
  obtain ⟨sheet', index', row', hs', hr'⟩ := b
  obtain ⟨hname, rfl⟩ : sheet.name = sheet'.name ∧ index = index' := Prod.mk.inj h
  obtain rfl : sheet = sheet' := by simpa [hname, hs'] using hs.symm
  obtain rfl : row = row' := by simpa [hr] using hr'
  rfl

theorem label_mem_labels (a : DataRow w) : a.label ∈ w.labels := by
  obtain ⟨hmem, -⟩ := sheet?_eq_some_iff.1 a.sheet_eq
  obtain ⟨hlt, -⟩ := List.getElem?_eq_some_iff.1 a.row_eq
  refine List.mem_flatMap.2 ⟨a.sheet, hmem, ?_⟩
  exact List.mem_map.2 ⟨a.index, List.mem_range.2 hlt, rfl⟩

/-- There are no more different data rows than the workbook has. -/
theorem length_le_rowCount {rows : List (DataRow w)} (h : (rows.map label).Nodup) :
    rows.length ≤ w.rowCount := by
  have hsub : rows.map label ⊆ w.labels := by
    intro l hl
    obtain ⟨a, -, rfl⟩ := List.mem_map.1 hl
    exact a.label_mem_labels
  have hle := (h.subperm hsub).length_le
  rwa [List.length_map, length_labels] at hle

end Labels

section Chain

theorem transGen_of_mem_chain : ∀ {chain : List (DataRow w)} {a b : DataRow w},
    ChainFrom a.sheet.header a.row chain → b ∈ chain → TransGen Points a b
  | d :: chain, a, b, ⟨had, hd⟩, hb => by
    rcases List.mem_cons.1 hb with rfl | hb
    · exact .single had
    · exact .head had (transGen_of_mem_chain hd hb)

/-- A chain that comes to a data row twice goes round a cycle. -/
theorem exists_cycle_of_chain : ∀ {chain : List (DataRow w)} {a : DataRow w},
    ChainFrom a.sheet.header a.row chain → ¬ ((a :: chain).map label).Nodup →
      ∃ c, ReflTransGen Points a c ∧ TransGen Points c c
  | [], a, _, hdup => absurd (List.nodup_singleton _) hdup
  | d :: chain, a, hc, hdup => by
    by_cases ha : a.label ∈ (d :: chain).map label
    · obtain ⟨b, hb, heq⟩ := List.mem_map.1 ha
      obtain rfl := eq_of_label_eq heq
      exact ⟨b, .refl, transGen_of_mem_chain hc hb⟩
    · have hdup' : ¬ ((d :: chain).map label).Nodup := fun hnd => hdup (List.nodup_cons.2 ⟨ha, hnd⟩)
      obtain ⟨c, hdc, hcc⟩ := exists_cycle_of_chain hc.2 hdup'
      exact ⟨c, .head hc.1 hdc, hcc⟩

end Chain

/-- The data row fails for depth at the end of a walk that comes to some data row twice, so that a
cycle can be reached from it. -/
structure FailsInCircle (r : Resolver) (a : DataRow w) (limit : Nat) (field : FieldPath) :
    Prop where
  fails : (r.resolveDataRow w a.sheet a.index a.row).outcome = .error (.tooDeep limit field)
  walk : ∃ path rows last, field = a.sheet.name :: a.index.repr :: path
    ∧ Walk r.keys w r.maxDepth a.sheet.header a.row path rows last
    ∧ ¬ ((a :: rows).map label).Nodup
  cycle : ∃ c, ReflTransGen Points a c ∧ TransGen Points c c

variable {r : Resolver} (hw : w.rowCount ≤ r.maxDepth)
include hw

/-- With the row it began in, the walk has one row more than the workbook. -/
theorem failsInCircle_of_tooDeep {a : DataRow w} {limit : Nat} {field : FieldPath}
    (h : (r.resolveDataRow w a.sheet a.index a.row).outcome = .error (.tooDeep limit field)) :
    a.FailsInCircle r limit field := by
  obtain ⟨path, rows, last, hwalk, hfail⟩ := exists_walk_of_resolveDataRow h rfl
  have hlen : rows.length = r.maxDepth := hfail.eq_of_tooDeep
  have hdup : ¬ ((a :: rows).map label).Nodup := by
    intro hnd
    have hle := length_le_rowCount hnd
    rw [List.length_cons] at hle
    omega
  exact ⟨h, ⟨path, rows, last, Option.some.inj hfail.field?_eq, hwalk, hdup⟩,
    exists_cycle_of_chain hwalk.chainFrom hdup⟩

theorem exists_failsInCircle_of_sheet {name : String} {limit : Nat} {field : FieldPath}
    (h : (r.sheet w name).outcome = .error (.tooDeep limit field)) :
    ∃ a : DataRow w, a.sheet.name = name ∧ a.FailsInCircle r limit field := by
  rcases (sheet_eq_error_iff r).1 h with ⟨-, he⟩ | ⟨a, hname, ha, -⟩
  · simp at he
  · exact ⟨a, hname, failsInCircle_of_tooDeep hw ha⟩

theorem exists_failsInCircle_of_skipped {name : String} {m : Materialized} {index limit : Nat}
    {field : FieldPath} (h : (r.sheetLeniently w name).outcome = .ok m)
    (hskipped : (index, .tooDeep limit field) ∈ m.skipped) :
    ∃ a : DataRow w, a.sheet.name = name ∧ a.index = index ∧ a.FailsInCircle r limit field := by
  obtain ⟨a, hname, hindex, ha⟩ := exists_dataRow_of_skipped h hskipped
  exact ⟨a, hname, hindex, failsInCircle_of_tooDeep hw ha⟩

omit hw

/-- With a limit that is not below the number of data rows, a failure for depth, of a sheet or in
the list of a lenient reading, means that the references followed from the row go round a cycle.
Without cycles there is none. -/
theorem failsInCircle_of_rowCount_le (r : Resolver) (w : Workbook) (hw : w.rowCount ≤ r.maxDepth) :
    (∀ name limit field, (r.sheet w name).outcome = .error (.tooDeep limit field) →
        ∃ a : DataRow w, a.sheet.name = name ∧ a.FailsInCircle r limit field)
      ∧ (∀ name m, (r.sheetLeniently w name).outcome = .ok m →
        ∀ index limit field, (index, .tooDeep limit field) ∈ m.skipped →
          ∃ a : DataRow w, a.sheet.name = name ∧ a.index = index ∧ a.FailsInCircle r limit field)
      ∧ ((∀ c : DataRow w, ¬ TransGen Points c c) →
        (∀ name limit field, (r.sheet w name).outcome ≠ .error (.tooDeep limit field))
          ∧ ∀ name m, (r.sheetLeniently w name).outcome = .ok m →
            ∀ index limit field, (index, .tooDeep limit field) ∉ m.skipped) := by
  refine ⟨fun name limit field => exists_failsInCircle_of_sheet hw,
    fun name m h index limit field => exists_failsInCircle_of_skipped hw h, fun hacyclic => ?_⟩
  constructor
  · intro name limit field h
    obtain ⟨a, -, ha⟩ := exists_failsInCircle_of_sheet hw h
    obtain ⟨c, -, hc⟩ := ha.cycle
    exact hacyclic c hc
  · intro name m h index limit field hskipped
    obtain ⟨a, -, -, ha⟩ := exists_failsInCircle_of_skipped hw h hskipped
    obtain ⟨c, -, hc⟩ := ha.cycle
    exact hacyclic c hc

/-- Two data rows and two references: the third one is the first that is too many. -/
theorem failsInCircle_of_rowCount_le_loop :
    loop.rowCount ≤ 2 ∧ ∃ a : DataRow loop, a.sheet.name = "start"
      ∧ a.FailsInCircle ⟨.verbatim, 2⟩ 2 ["start", "0", "first", "next", "next"] := by
  have hw : loop.rowCount ≤ 2 := by decide
  have h : (Resolver.sheet ⟨.verbatim, 2⟩ loop "start").outcome
      = .error (.tooDeep 2 ["start", "0", "first", "next", "next"]) := rfl
  exact ⟨hw, (failsInCircle_of_rowCount_le ⟨.verbatim, 2⟩ loop hw).1 _ _ _ h⟩

end DataRow

end LinkedSheets
