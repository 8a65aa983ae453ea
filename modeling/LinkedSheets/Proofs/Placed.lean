import LinkedSheets.Table
import LinkedSheets.Workbook
import Mathlib.Data.List.Perm.Basic

/-!
# Elements in their places

Tables and workbooks put one element after the other in its place. Nothing gets lost as long as no
name is repeated (`perm_foldl`), so a table of entries has all of them (`Table.perm_ofList`), and a
workbook is made up of its sheets in whatever order they come (`Workbook.ofSheets_of_perm`).
-/

namespace LinkedSheets

section Lookup

variable {α κ : Type} [BEq κ] [LawfulBEq κ] {entries : List (κ × α)} {key : κ}

theorem lookup_eq_some_iff_mem (hd : (entries.map (·.1)).Nodup) {a : α} :
    entries.lookup key = some a ↔ (key, a) ∈ entries := by
  rw [List.lookup_eq_some_iff]
  constructor
  · rintro ⟨before, after, rfl, -⟩
    simp
  · intro h
    obtain ⟨before, after, rfl⟩ := List.append_of_mem h
    refine ⟨before, after, rfl, fun p hp => bne_iff_ne.2 fun heq => ?_⟩
    rw [List.map_append, List.nodup_append] at hd
    exact hd.2.2 p.1 (List.mem_map_of_mem hp) key (by simp) heq.symm

theorem lookup_eq_none_iff_not_mem : entries.lookup key = none ↔ key ∉ entries.map (·.1) := by
  rw [List.lookup_eq_none_iff]
  constructor
  · intro h hmem
    obtain ⟨p, hp, rfl⟩ := List.mem_map.1 hmem
    simpa using h p hp
  · intro h p hp
    exact bne_iff_ne.2 fun heq => h (heq ▸ List.mem_map_of_mem hp)

theorem lookup_reverse (hd : (entries.map (·.1)).Nodup) (key : κ) :
    entries.reverse.lookup key = entries.lookup key := by
  refine Option.ext fun a => ?_
  have hreverse : (entries.reverse.map (·.1)).Nodup := by
    rw [List.map_reverse]
    exact (List.reverse_perm _).nodup_iff.2 hd
  rw [lookup_eq_some_iff_mem hd, lookup_eq_some_iff_mem hreverse, List.mem_reverse]

end Lookup

section Sorted

variable {α : Type} {name : α → String} {as bs : List α}

theorem nodup_map_of_sorted (h : as.Pairwise (name · < name ·)) : (as.map name).Nodup := by
  refine List.pairwise_map.2 (h.imp fun hlt heq => ?_)
  rw [heq] at hlt
  exact String.lt_irrefl _ hlt

/-- There is one way to bring elements in the order of their names. -/
theorem eq_of_perm_of_sorted (h : as.Perm bs) (has : as.Pairwise (name · < name ·))
    (hbs : bs.Pairwise (name · < name ·)) : as = bs := by
  refine h.eq_of_pairwise (fun a b _ _ hab hba => ?_) has hbs
  exact absurd (String.lt_trans hab hba) (String.lt_irrefl _)

end Sorted

/-- What is put in one after the other is all there in the end, if no name is repeated. -/
theorem perm_foldl {α : Type} {name : α → String} {put : List α → α → List α}
    (hput : ∀ table a, name a ∉ table.map name → (put table a).Perm (a :: table)) :
    ∀ as table : List α, ((table ++ as).map name).Nodup → (as.foldl put table).Perm (table ++ as)
  | [], table, _ => by simp
  | a :: as, table, hnodup => by
    have hnot : name a ∉ table.map name := by
      rw [List.map_append, List.map_cons, List.nodup_append] at hnodup
      exact fun hmem => hnodup.2.2 _ hmem _ List.mem_cons_self rfl
    have hperm : (put table a ++ as).Perm (table ++ a :: as) :=
      ((hput table a hnot).append_right as).trans List.perm_middle.symm
    exact (perm_foldl hput as _ ((hperm.map name).nodup_iff.2 hnodup)).trans hperm

theorem Table.perm_insert {α : Type} {name : String} {value : α} {table : List (String × α)}
    (h : name ∉ table.map (·.1)) : (insert name value table).Perm ((name, value) :: table) := by
  induction table with
  | nil => exact .refl _
  | cons entry table ih =>
    rw [List.map_cons, List.mem_cons, not_or] at h
    rw [insert]
    split
    · exact .refl _
    split
    · rename_i heq
      exact absurd heq h.1
    · exact ((ih h.2).cons entry).trans (.swap _ _ _)

theorem Table.perm_ofList {α : Type} {entries : List (String × α)}
    (h : (entries.map (·.1)).Nodup) : (ofList entries).Perm entries :=
  perm_foldl (fun _ _ => perm_insert) entries [] h

namespace Workbook

variable {sheet : Sheet} {sheets : List Sheet} {v w : Workbook}

theorem perm_place (h : sheet.name ∉ sheets.map (·.name)) :
    (place sheet sheets).Perm (sheet :: sheets) := by
  induction sheets with
  | nil => exact .refl _
  | cons other sheets ih =>
    rw [List.map_cons, List.mem_cons, not_or] at h
    rw [place]
    split
    · exact .refl _
    split
    · rename_i heq
      exact absurd heq h.1
    · exact ((ih h.2).cons other).trans (.swap _ _ _)

theorem perm_ofSheets (h : (sheets.map (·.name)).Nodup) :
    (ofSheets sheets).sheets.Perm sheets := by
  have hfold : (ofSheets sheets).sheets = sheets.foldl (fun table sheet => place sheet table) [] :=
    (List.foldl_hom Workbook.sheets fun _ _ => rfl).symm
  rw [hfold]
  exact perm_foldl (fun _ _ => perm_place) sheets [] h

theorem find?_place (sheet : Sheet) (name : String) (sheets : List Sheet) :
    (place sheet sheets).find? (·.name == name)
      = if sheet.name = name then some sheet else sheets.find? (·.name == name) := by
  induction sheets with
  | nil => by_cases h : sheet.name = name <;> simp [place, h]
  | cons other sheets ih =>
    rw [place]
    split
    · by_cases h : sheet.name = name <;> simp [List.find?_cons, h]
    split
    · rename_i heq
      by_cases h : sheet.name = name
      · simp [h]
      · have hother : other.name ≠ name := heq ▸ h
        simp [h, hother]
    · rename_i hne
      by_cases hother : other.name = name
      · have h : sheet.name ≠ name := hother ▸ hne
        simp [h, hother]
      · simp [hother, ih]

theorem sheet?_insert (w : Workbook) (sheet : Sheet) (name : String) :
    (w.insert sheet).sheet? name = if sheet.name = name then some sheet else w.sheet? name :=
  find?_place sheet name w.sheets

/-- Of sheets with one name the last one is there. -/
theorem sheet?_ofSheets (sheets : List Sheet) (name : String) :
    (ofSheets sheets).sheet? name = sheets.reverse.find? (·.name == name) := by
  have hfold : ∀ (sheets : List Sheet) (w : Workbook), (sheets.foldl insert w).sheet? name
      = (sheets.reverse.find? (·.name == name)).or (w.sheet? name) := by
    intro sheets
    induction sheets with
    | nil => simp
    | cons sheet sheets ih =>
      intro w
      rw [List.foldl_cons, ih, sheet?_insert, List.reverse_cons, List.find?_append, Option.or_assoc]
      by_cases h : sheet.name = name <;> simp [h]
  rw [ofSheets, hfold]
  exact Option.or_none

theorem nodup_names (w : Workbook) : w.names.Nodup :=
  nodup_map_of_sorted w.sorted

theorem eq_of_sheets_eq (h : v.sheets = w.sheets) : v = w := by
  obtain ⟨sheets, hv⟩ := v
  obtain ⟨sheets', hw⟩ := w
  obtain rfl : sheets = sheets' := h
  rfl

/-- Sheets make up one workbook, in whatever order they are. -/
theorem ofSheets_of_perm (h : sheets.Perm w.sheets) : ofSheets sheets = w := by
  have hnodup : (sheets.map (·.name)).Nodup := (h.map _).nodup_iff.2 w.nodup_names
  exact eq_of_sheets_eq
    (eq_of_perm_of_sorted ((perm_ofSheets hnodup).trans h) (ofSheets sheets).sorted w.sorted)

end Workbook

end LinkedSheets
