import LinkedSheets.Proofs.DataRow

/-!
# The first match

A look-up is two searches, each for the first match: for a column among the names of the header
(`columnIndex?_eq_some_iff`), and then for a row among the cells of that column
(`rowWith?_eq_some_iff`). Names, cells and what is looked for are compared without the blanks at
their ends. Together they say what finding a row in a sheet means (`findRow_eq_some_iff`).

Where no two names of a header are the same but for blanks, any column of the name is the first one
(`columnIndex?_eq_some_iff_of_nodup`).
-/

namespace LinkedSheets

namespace Sheet

variable {sheet : Sheet} {column value : String}

theorem columnIndex?_eq_some_iff {j : Nat} :
    sheet.columnIndex? column = some j ↔
      ∃ h : j < sheet.header.length, Text.trim (sheet.header.get ⟨j, h⟩) = Text.trim column
        ∧ ∀ i (hi : i < j),
          Text.trim (sheet.header.get ⟨i, Nat.lt_trans hi h⟩) ≠ Text.trim column := by
  simp [columnIndex?, List.findIdx?_eq_some_iff_getElem]

theorem columnIndex?_eq_some_iff_of_nodup (hd : (sheet.header.map Text.trim).Nodup) {j : Nat} :
    sheet.columnIndex? column = some j ↔
      ∃ h : j < sheet.header.length,
        Text.trim (sheet.header.get ⟨j, h⟩) = Text.trim column := by
  rw [columnIndex?_eq_some_iff]
  refine exists_congr fun h => and_iff_left_of_imp fun hj i hi heq => ?_
  have hne := List.pairwise_iff_getElem.1 (List.pairwise_map.1 hd) i j (Nat.lt_trans hi h) h hi
  exact hne (heq.trans hj.symm)

theorem rowWith?_eq_some_iff {j index : Nat} {row : Row} :
    sheet.rowWith? j value = some (row, index) ↔
      sheet.dataRows[index]? = some row ∧ Text.trim (row.cell j) = Text.trim value
        ∧ ∀ i < index, ∀ row', sheet.dataRows[i]? = some row' →
          Text.trim (row'.cell j) ≠ Text.trim value := by
  simp only [rowWith?, List.find?_eq_some_iff_getElem, List.getElem_zipIdx, List.length_zipIdx,
    Prod.mk.injEq, Nat.zero_add, beq_iff_eq, Bool.not_eq_true', beq_eq_false_iff_ne]
  constructor
  · rintro ⟨hrow, i, hi, ⟨rfl, rfl⟩, hfirst⟩
    refine ⟨List.getElem?_eq_getElem hi, hrow, fun k hk row' hrow' => ?_⟩
    obtain ⟨-, rfl⟩ := List.getElem?_eq_some_iff.1 hrow'
    exact hfirst k hk
  · rintro ⟨hindex, hrow, hfirst⟩
    obtain ⟨hi, rfl⟩ := List.getElem?_eq_some_iff.1 hindex
    exact ⟨hrow, index, hi, ⟨rfl, rfl⟩, fun k hk =>
      hfirst k hk _ (List.getElem?_eq_getElem (Nat.lt_trans hk hi))⟩

/-- A row is found by a value in a column as the first data row that has the value in the first
column of that name. -/
theorem findRow_eq_some_iff {row : Row} {index : Nat} :
    sheet.findRow column value = .ok (some (row, index)) ↔
      ∃ j, sheet.columnIndex? column = some j ∧ sheet.rowWith? j value = some (row, index) := by
  unfold findRow
  rcases sheet.columnIndex? column with _ | j <;> simp

end Sheet

end LinkedSheets
