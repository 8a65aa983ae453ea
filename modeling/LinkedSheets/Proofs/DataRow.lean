import LinkedSheets.Proofs.Placed
import LinkedSheets.Proofs.RowOutcome
import Mathlib.Data.List.Nodup
import Mathlib.Logic.Relation

/-!
# Which row leads to which

A specifier selects at most one data row of a workbook, and following it is resolving that row
(`outcome_follow_of_selects`). A row leads to the data rows that the specifiers in its cells select,
as far as its header goes, and chains of references are made of such steps. A row from which a cycle
can be reached has chains of every length (`exists_chain_of_cycle`).
-/

namespace LinkedSheets

/-- A data row of a workbook, with its sheet and its number. -/
structure DataRow (w : Workbook) where
  sheet : Sheet
  index : Nat
  row : Row
  sheet_eq : w.sheet? sheet.name = some sheet
  row_eq : sheet.dataRows[index]? = some row

variable {w : Workbook}

section Lookup

theorem name_of_sheet? {name : String} {sheet : Sheet} (h : w.sheet? name = some sheet) :
    sheet.name = name := by
  simpa using List.find?_some h

theorem sheet?_eq_some_iff {name : String} {sheet : Sheet} :
    w.sheet? name = some sheet ↔ sheet ∈ w.sheets ∧ sheet.name = name := by
  constructor
  · intro h
    exact ⟨List.mem_of_find?_eq_some h, name_of_sheet? h⟩
  · rintro ⟨hmem, rfl⟩
    rcases hs : w.sheet? sheet.name with _ | other
    · exact absurd (List.find?_eq_none.1 hs sheet hmem) (by simp)
    · exact congrArg some (List.inj_on_of_nodup_map w.nodup_names (List.mem_of_find?_eq_some hs)
        hmem (name_of_sheet? hs))

theorem getElem?_of_findRow {sheet : Sheet} {column value : String} {row : Row} {index : Nat}
    (h : sheet.findRow column value = .ok (some (row, index))) :
    sheet.dataRows[index]? = some row := by
  unfold Sheet.findRow at h
  split at h
  · rw [Except.ok.injEq] at h
    exact List.mk_mem_zipIdx_iff_getElem?.1 (List.mem_of_find?_eq_some h)
  · simp at h

end Lookup

/-- The specifier is a target, and the data row is the one that the target selects. -/
def Selects (spec : String) (d : DataRow w) : Prop :=
  ∃ t, Target.parse? spec = some t ∧ w.sheet? t.sheet = some d.sheet
    ∧ d.sheet.findRow t.column t.value = .ok (some (d.row, d.index))

/-- A cell of the row, within its header, has a specifier that selects the data row. -/
def Leads (header : List String) (row : Row) (d : DataRow w) : Prop :=
  ∃ i < header.length, ∃ spec ∈ (Cell.classify (row.cell i)).specs, Selects spec d

/-- A chain of references: the row leads to the first data row, and each of them to the next. -/
def ChainFrom : (header : List String) → Row → List (DataRow w) → Prop
  | _, _, [] => True
  | header, row, d :: chain => Leads header row d ∧ ChainFrom d.sheet.header d.row chain

section Selection

theorem Selects.unique {spec : String} {d e : DataRow w} (hd : Selects spec d)
    (he : Selects spec e) : d = e := by
  obtain ⟨t, ht, hds, hdr⟩ := hd
  obtain ⟨t', ht', hes, her⟩ := he
  obtain rfl : t = t' := by simpa [ht] using ht'
  obtain ⟨sheet, index, row, hs, hr⟩ := d
  obtain ⟨sheet', index', row', hs', hr'⟩ := e
  obtain rfl : sheet = sheet' := by simpa [hds] using hes
  obtain ⟨rfl, rfl⟩ : row = row' ∧ index = index' := by simpa [hdr] using her
  rfl

theorem locate_eq_ok_iff {path : FieldPath} {t : Target} {sheet : Sheet} {row : Row} :
    Resolver.locate w path t = .ok (sheet, row) ↔
      ∃ d : DataRow w, w.sheet? t.sheet = some d.sheet
        ∧ d.sheet.findRow t.column t.value = .ok (some (d.row, d.index))
        ∧ d.sheet = sheet ∧ d.row = row := by
  constructor
  · intro h
    unfold Resolver.locate at h
    split at h
    · simp at h
    rename_i s hs
    split at h
    · simp at h
    · simp at h
    rename_i row' index hr
    obtain ⟨rfl, rfl⟩ : s = sheet ∧ row' = row := by simpa using h
    exact ⟨⟨s, index, row', name_of_sheet? hs ▸ hs, getElem?_of_findRow hr⟩, hs, hr, rfl, rfl⟩
  · rintro ⟨d, hs, hr, rfl, rfl⟩
    simp [Resolver.locate, hs, hr]

variable (r : Resolver) (path : FieldPath) {spec : String}

theorem outcome_follow_of_selects {d : DataRow w} (h : Selects spec d) (next : RowReader) :
    (r.follow w (some next) path spec).outcome = (next path d.sheet.header d.row).outcome := by
  obtain ⟨t, ht, hs, hr⟩ := h
  have hl : Resolver.locate w path t = .ok (d.sheet, d.row) :=
    locate_eq_ok_iff.2 ⟨d, hs, hr, rfl, rfl⟩
  simp [Resolver.follow, ht, hl, Traced.outcome_bind]

/-- Where the limit is reached, a specifier that selects a row is one too many. -/
theorem outcome_follow_none_of_selects {d : DataRow w} (h : Selects spec d) :
    (r.follow w none path spec).outcome = .error (.tooDeep r.maxDepth path) := by
  obtain ⟨t, ht, -⟩ := h
  simp [Resolver.follow, ht]

theorem follow_none_ne_ok {v : Value} : (r.follow w none path spec).outcome ≠ .ok v := by
  unfold Resolver.follow
  rcases Target.parse? spec with _ | t <;> simp

/-- What a specifier resolves to is what the row resolves to that it selects. -/
theorem follow_eq_ok_iff {next : RowReader} {v : Value} :
    (r.follow w (some next) path spec).outcome = .ok v ↔
      ∃ d : DataRow w, Selects spec d ∧ (next path d.sheet.header d.row).outcome = .ok v := by
  constructor
  · intro h
    rcases ht : Target.parse? spec with _ | t
    · simp [Resolver.follow, ht] at h
    rcases hl : Resolver.locate w path t with e | ⟨sheet, row⟩
    · simp [Resolver.follow, ht, hl, Traced.outcome_bind] at h
    obtain ⟨d, hs, hr, rfl, rfl⟩ := locate_eq_ok_iff.1 hl
    have hd : Selects spec d := ⟨t, ht, hs, hr⟩
    exact ⟨d, hd, by rwa [outcome_follow_of_selects r path hd] at h⟩
  · rintro ⟨d, hd, h⟩
    rwa [outcome_follow_of_selects r path hd]

end Selection

namespace DataRow

open Relation

/-- The data row leads to another one, with the header of its own sheet. -/
def Points (a b : DataRow w) : Prop :=
  Leads a.sheet.header a.row b

theorem exists_chain_of_reach {a b : DataRow w} (hab : ReflTransGen Points a b) {n : Nat}
    (hb : ∃ chain : List (DataRow w), ChainFrom b.sheet.header b.row chain ∧ n ≤ chain.length) :
    ∃ chain : List (DataRow w), ChainFrom a.sheet.header a.row chain ∧ n ≤ chain.length := by
  induction hab using ReflTransGen.head_induction_on with
  | refl => exact hb
  | @head a c hac _ ih =>
    obtain ⟨chain, hc, hn⟩ := ih
    exact ⟨c :: chain, ⟨hac, hc⟩, by simp only [List.length_cons]; omega⟩

/-- A row on a cycle has chains of every length. -/
theorem exists_chain_of_cycle {c : DataRow w} (hc : TransGen Points c c) : ∀ n : Nat,
    ∃ chain : List (DataRow w), ChainFrom c.sheet.header c.row chain ∧ n ≤ chain.length
  | 0 => ⟨[], trivial, Nat.zero_le _⟩
  | n + 1 => by
    obtain ⟨d, hcd, hdc⟩ := TransGen.head'_iff.1 hc
    obtain ⟨chain, hd, hn⟩ := exists_chain_of_reach hdc (exists_chain_of_cycle hc n)
    exact ⟨d :: chain, ⟨hcd, hd⟩, Nat.succ_le_succ hn⟩

end DataRow

section Sheet

variable (r : Resolver)

/-- A sheet fails because there is none of that name, or as the first of its data rows does that
fails. -/
theorem sheet_eq_error_iff {name : String} {e : ResolutionFailure} :
    (r.sheet w name).outcome = .error e ↔
      (w.sheet? name = none ∧ e = .unknownSheet name [])
        ∨ ∃ a : DataRow w, a.sheet.name = name
          ∧ (r.resolveDataRow w a.sheet a.index a.row).outcome = .error e
          ∧ ∀ b : DataRow w, b.sheet.name = name → b.index < a.index →
            ∃ v, (r.resolveDataRow w b.sheet b.index b.row).outcome = .ok v := by
  rcases hs : w.sheet? name with _ | sheet
  · rw [Resolver.outcome_sheet_of_none r w hs, Except.error.injEq]
    refine ⟨fun h => .inl ⟨rfl, h.symm⟩, ?_⟩
    rintro (⟨-, rfl⟩ | ⟨a, rfl, -⟩)
    · rfl
    · simp [a.sheet_eq] at hs
  obtain rfl := name_of_sheet? hs
  have hsheet : ∀ a : DataRow w, a.sheet.name = sheet.name → a.sheet = sheet := by
    intro a ha
    have hsa := a.sheet_eq
    rw [ha, hs] at hsa
    exact (Option.some.inj hsa).symm
  rw [Resolver.outcome_sheet r w hs, zipIdx_eq_ofFn, mapM_ofFn_eq_error_iff]
  simp only [reduceCtorEq, false_and, false_or]
  constructor
  · rintro ⟨i, hbefore, hi⟩
    refine ⟨⟨sheet, i, sheet.dataRows.get i, hs, by simp⟩, rfl, hi, fun b hb hlt => ?_⟩
    obtain rfl := hsheet b hb
    obtain ⟨hbound, hrow⟩ := List.getElem?_eq_some_iff.1 b.row_eq
    obtain ⟨v, hv⟩ := hbefore ⟨b.index, hbound⟩ hlt
    rw [List.get_eq_getElem, hrow] at hv
    exact ⟨v, hv⟩
  · rintro ⟨a, ha, he, hbefore⟩
    obtain rfl := hsheet a ha
    obtain ⟨hbound, hrow⟩ := List.getElem?_eq_some_iff.1 a.row_eq
    refine ⟨⟨a.index, hbound⟩, fun j hj => ?_, ?_⟩
    · exact hbefore ⟨a.sheet, j, a.sheet.dataRows.get j, a.sheet_eq, by simp⟩ rfl hj
    · rw [List.get_eq_getElem, hrow]
      exact he

end Sheet

end LinkedSheets
