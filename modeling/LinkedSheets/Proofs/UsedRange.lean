import LinkedSheets.Proofs.Placed
import LinkedSheets.Spreadsheet.Book
import Mathlib.Tactic.SplitIfs

/-!
# The used range

The used range of a spreadsheet's sheet is the smallest rectangle around its cells (`Spans`), and it
begins where they do. Rows without cells above it and blank cells to the left of it put it back in
its place (`Anchors`), so that every text of the rectangle stays where it was
(`UsedRange.cellAt_rows`). Of cells at one place the last one counts, in the rectangle as well as
among the cells that are to be seen (`UsedRange.textAt_ofCells`, `UsedRange.lookup_visible`).
-/

namespace LinkedSheets

/-- The text at a row and a column, both counted from zero. There is none where no cell is. -/
def cellAt (rows : List Row) (i j : Nat) : String :=
  Row.cell (rows[i]?.getD []) j

/-- The rectangle is the smallest one around the places: all of them are in it, and some are on each
of its sides. Around no places it is empty and begins at the first place. -/
structure Spans (occupied : Nat × Nat → Prop) (top left height width : Nat) : Prop where
  inside : ∀ p, occupied p → top ≤ p.1 ∧ p.1 < top + height ∧ left ≤ p.2 ∧ p.2 < left + width
  sides : (∃ p, occupied p) → (∃ p, occupied p ∧ p.1 = top) ∧ (∃ p, occupied p ∧ p.2 = left)
    ∧ (∃ p, occupied p ∧ p.1 + 1 = top + height) ∧ ∃ p, occupied p ∧ p.2 + 1 = left + width
  empty : (∀ p, ¬ occupied p) → top = 0 ∧ left = 0 ∧ height = 0 ∧ width = 0

/-- The rows hold a rectangle where it belongs: rows without cells are above it, and each of its own
rows begins with the first column. -/
structure Anchors (rows : List Row) (top left height width : Nat) : Prop where
  length : rows.length = top + height
  above : ∀ i < top, rows[i]? = some []
  across : ∀ i row, top ≤ i → rows[i]? = some row → row.length = left + width

theorem Row.cell_append (blanks row : Row) (hblank : ∀ text ∈ blanks, text = "") (j : Nat) :
    Row.cell (blanks ++ row) j
      = if blanks.length ≤ j then Row.cell row (j - blanks.length) else "" := by
  unfold Row.cell
  rw [List.getElem?_append]
  split_ifs with hlt hle hle
  · omega
  · rw [List.getElem?_eq_getElem hlt]
    exact hblank _ (List.getElem_mem hlt)
  · rfl
  · omega

namespace UsedRange

/-- A rectangle with rows of one length. -/
structure IsDense (range : UsedRange) (height width : Nat) : Prop where
  height : range.cells.length = height
  width : ∀ texts ∈ range.cells, texts.length = width

/-- The text that the rectangle has at a place of the sheet. -/
def textAt (range : UsedRange) (i j : Nat) : String :=
  if range.row ≤ i ∧ range.column ≤ j then cellAt range.cells (i - range.row) (j - range.column)
  else ""

section Rows

variable {range : UsedRange}

theorem getElem?_rows (i : Nat) : range.rows[i]? =
    if i < range.row then some []
    else range.cells[i - range.row]?.map (List.replicate range.column "" ++ ·) := by
  rw [rows, List.getElem?_append, List.length_replicate, List.getElem?_map]
  split_ifs with hi
  · rw [List.getElem?_replicate, if_pos hi]
  · rfl

theorem anchors_rows {height width : Nat} (h : range.IsDense height width) :
    Anchors range.rows range.row range.column height width where
  length := by simp [rows, h.height]
  above i hi := by rw [getElem?_rows, if_pos hi]
  across i row hi hrow := by
    rw [getElem?_rows, if_neg (by omega)] at hrow
    obtain ⟨texts, htexts, rfl⟩ := Option.map_eq_some_iff.1 hrow
    rw [List.length_append, List.length_replicate, h.width texts (List.mem_of_getElem? htexts)]

/-- Every text of the rectangle stays at its place, and there are no others. -/
theorem cellAt_rows (i j : Nat) : cellAt range.rows i j = range.textAt i j := by
  unfold cellAt textAt
  rw [getElem?_rows]
  by_cases hi : i < range.row
  · rw [if_pos hi, if_neg (by omega)]
    rfl
  rw [if_neg hi]
  rcases htexts : range.cells[i - range.row]? with _ | texts
  · simp [cellAt, htexts, Row.cell]
  · have hblank : ∀ text ∈ List.replicate range.column "", text = "" :=
      fun text h => List.eq_of_mem_replicate h
    rw [Option.map_some, Option.getD_some, Row.cell_append _ _ hblank, List.length_replicate,
      cellAt, htexts, Option.getD_some]
    by_cases hj : range.column ≤ j
    · rw [if_pos hj, if_pos ⟨by omega, hj⟩]
    · rw [if_neg hj, if_neg (by omega)]

end Rows

section Extent

/-- How many numbers there are from the least to the greatest one. -/
def extent (ns : List Nat) : Nat :=
  greatest ns - least ns + 1

variable {ns : List Nat}

theorem least_mem (h : ns ≠ []) : least ns ∈ ns := by
  obtain ⟨a, ha⟩ := Option.isSome_iff_exists.1 (List.isSome_min?_iff.2 h)
  rw [least, ha, Option.getD_some]
  exact List.min?_mem ha

theorem greatest_mem (h : ns ≠ []) : greatest ns ∈ ns := by
  obtain ⟨a, ha⟩ := Option.isSome_iff_exists.1 (List.isSome_max?_iff.2 h)
  rw [greatest, ha, Option.getD_some]
  exact List.max?_mem ha

theorem least_le {n : Nat} (hn : n ∈ ns) : least ns ≤ n := by
  obtain ⟨a, ha⟩ := Option.isSome_iff_exists.1 (List.isSome_min?_iff.2 (List.ne_nil_of_mem hn))
  rw [least, ha, Option.getD_some]
  exact (List.min?_eq_some_iff.1 ha).2 n hn

theorem le_greatest {n : Nat} (hn : n ∈ ns) : n ≤ greatest ns := by
  obtain ⟨a, ha⟩ := Option.isSome_iff_exists.1 (List.isSome_max?_iff.2 (List.ne_nil_of_mem hn))
  rw [greatest, ha, Option.getD_some]
  exact (List.max?_eq_some_iff.1 ha).2 n hn

theorem lt_least_add_extent {n : Nat} (hn : n ∈ ns) : n < least ns + extent ns := by
  have hle := le_greatest hn
  have hleast := least_le hn
  unfold extent
  omega

theorem exists_mem_last (h : ns ≠ []) : ∃ n ∈ ns, n + 1 = least ns + extent ns := by
  have hle := least_le (greatest_mem h)
  refine ⟨greatest ns, greatest_mem h, ?_⟩
  unfold extent
  omega

end Extent

section Visible

variable {α : Type} {cells : List (Placed α)}

theorem mem_of_mem_visible {cell : Placed α} (h : cell ∈ visible cells) : cell ∈ cells := by
  induction cells with
  | nil => exact h
  | cons c cells ih =>
    rw [visible] at h
    split at h
    · exact List.mem_cons_of_mem _ (ih h)
    · rcases List.mem_cons.1 h with rfl | h
      · exact List.mem_cons_self
      · exact List.mem_cons_of_mem _ (ih h)

theorem nodup_visible : ∀ cells : List (Placed α), ((visible cells).map (·.1)).Nodup
  | [] => .nil
  | cell :: cells => by
    rw [visible]
    split
    · exact nodup_visible cells
    rename_i hany
    rw [List.map_cons, List.nodup_cons]
    refine ⟨fun hmem => hany ?_, nodup_visible cells⟩
    obtain ⟨other, hother, heq⟩ := List.mem_map.1 hmem
    exact List.any_eq_true.2 ⟨other, mem_of_mem_visible hother, decide_eq_true heq⟩

/-- What is to be seen at a place is what was put there last. -/
theorem lookup_visible (place : Nat × Nat) : ∀ cells : List (Placed α),
    (visible cells).lookup place = cells.reverse.lookup place
  | [] => rfl
  | (other, a) :: cells => by
    rw [visible, List.reverse_cons, List.lookup_append, ← lookup_visible place cells]
    by_cases hplace : place = other
    · subst hplace
      split
      · rename_i hany
        rcases hv : (visible cells).lookup place with _ | b
        · rw [lookup_visible, lookup_eq_none_iff_not_mem, List.map_reverse, List.mem_reverse] at hv
          obtain ⟨c, hc, heq⟩ := List.any_eq_true.1 hany
          exact absurd (List.mem_map.2 ⟨c, hc, of_decide_eq_true heq⟩) hv
        · rfl
      · rename_i hany
        have hnone : (visible cells).lookup place = none := by
          rw [lookup_eq_none_iff_not_mem]
          intro hmem
          obtain ⟨c, hc, heq⟩ := List.mem_map.1 hmem
          exact hany (List.any_eq_true.2 ⟨c, mem_of_mem_visible hc, decide_eq_true heq⟩)
        simp [hnone]
    · have hbeq : (place == other) = false := beq_eq_false_iff_ne.2 hplace
      split <;> simp [List.lookup_cons, hbeq]

theorem mem_visible_iff {place : Nat × Nat} {a : α} :
    (place, a) ∈ visible cells ↔ cells.reverse.lookup place = some a := by
  rw [← lookup_visible, lookup_eq_some_iff_mem (nodup_visible cells)]

end Visible

section OfCells

variable {shown : List (Placed String)}

theorem ofCells_of_ne_nil (h : shown ≠ []) : ofCells shown =
    ⟨least (shown.map (·.1.1)), least (shown.map (·.1.2)),
      (List.range (extent (shown.map (·.1.1)))).map fun i =>
        (List.range (extent (shown.map (·.1.2)))).map fun j =>
          (shown.reverse.lookup
            (least (shown.map (·.1.1)) + i, least (shown.map (·.1.2)) + j)).getD ""⟩ := by
  obtain ⟨cell, cells, rfl⟩ := List.exists_cons_of_ne_nil h
  rfl

/-- What is made of cells is the smallest rectangle around them. -/
theorem exists_isDense_ofCells (shown : List (Placed String)) : ∃ height width,
    (ofCells shown).IsDense height width
      ∧ Spans (· ∈ shown.map (·.1)) (ofCells shown).row (ofCells shown).column height width := by
  by_cases hshown : shown = []
  · subst hshown
    exact ⟨0, 0, ⟨rfl, nofun⟩, ⟨by simp, by simp, fun _ => ⟨rfl, rfl, rfl, rfl⟩⟩⟩
  have hrows : shown.map (·.1.1) ≠ [] := by simpa using hshown
  have hcolumns : shown.map (·.1.2) ≠ [] := by simpa using hshown
  have hplace {f : Nat × Nat → Nat} {n : Nat} (hn : n ∈ shown.map fun c => f c.1) :
      ∃ p ∈ shown.map (·.1), f p = n := by
    obtain ⟨c, hc, rfl⟩ := List.mem_map.1 hn
    exact ⟨c.1, List.mem_map_of_mem hc, rfl⟩
  rw [ofCells_of_ne_nil hshown]
  refine ⟨extent (shown.map (·.1.1)), extent (shown.map (·.1.2)), ⟨by simp, by simp⟩,
    ⟨fun p hp => ?inside, fun _ => ⟨?top, ?left, ?bottom, ?right⟩, fun hnone => ?empty⟩⟩
  case inside =>
    obtain ⟨c, hc, rfl⟩ := List.mem_map.1 hp
    have hrow : c.1.1 ∈ shown.map (·.1.1) := List.mem_map_of_mem hc
    have hcolumn : c.1.2 ∈ shown.map (·.1.2) := List.mem_map_of_mem hc
    exact ⟨least_le hrow, lt_least_add_extent hrow, least_le hcolumn, lt_least_add_extent hcolumn⟩
  case top => exact hplace (least_mem hrows)
  case left => exact hplace (least_mem hcolumns)
  case bottom =>
    obtain ⟨n, hn, hlast⟩ := exists_mem_last hrows
    obtain ⟨p, hp, rfl⟩ := hplace hn
    exact ⟨p, hp, hlast⟩
  case right =>
    obtain ⟨n, hn, hlast⟩ := exists_mem_last hcolumns
    obtain ⟨p, hp, rfl⟩ := hplace hn
    exact ⟨p, hp, hlast⟩
  case empty =>
    obtain ⟨c, cells, rfl⟩ := List.exists_cons_of_ne_nil hshown
    exact absurd (List.mem_map_of_mem List.mem_cons_self) (hnone c.1)

theorem cellAt_table (height width : Nat) (f : Nat → Nat → String) (i j : Nat) :
    cellAt ((List.range height).map fun i => (List.range width).map (f i)) i j
      = if i < height ∧ j < width then f i j else "" := by
  unfold cellAt Row.cell
  by_cases hi : i < height
  · by_cases hj : j < width
    · simp [hi, hj]
    · simp [hi, hj]
  · simp [hi]

/-- The rectangle has the text that was put at a place last. -/
theorem textAt_ofCells (i j : Nat) :
    (ofCells shown).textAt i j = (shown.reverse.lookup (i, j)).getD "" := by
  by_cases hshown : shown = []
  · subst hshown
    simp [ofCells, textAt, cellAt, Row.cell]
  rw [ofCells_of_ne_nil hshown, textAt]
  simp only [cellAt_table]
  by_cases hmem : (i, j) ∈ shown.map (·.1)
  · obtain ⟨c, hc, heq⟩ := List.mem_map.1 hmem
    have hrow : i ∈ shown.map (·.1.1) := List.mem_map.2 ⟨c, hc, congrArg (·.1) heq⟩
    have hcolumn : j ∈ shown.map (·.1.2) := List.mem_map.2 ⟨c, hc, congrArg (·.2) heq⟩
    have htop := least_le hrow
    have hbottom := lt_least_add_extent hrow
    have hleft := least_le hcolumn
    have hright := lt_least_add_extent hcolumn
    rw [if_pos ⟨htop, hleft⟩, if_pos (by omega), Nat.add_sub_cancel' htop,
      Nat.add_sub_cancel' hleft]
  · have hnone : shown.reverse.lookup (i, j) = none := by
      rw [lookup_eq_none_iff_not_mem, List.map_reverse, List.mem_reverse]
      exact hmem
    split_ifs with hinside
    · rw [Nat.add_sub_cancel' hinside.1, Nat.add_sub_cancel' hinside.2]
    · rw [hnone]
      rfl
    · rw [hnone]
      rfl

end OfCells

end UsedRange

end LinkedSheets
