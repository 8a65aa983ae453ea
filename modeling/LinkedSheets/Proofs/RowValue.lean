import LinkedSheets.Proofs.DataRow

/-!
# The value of a row

What a row stands for, said without a resolver: `RowValue keys w height header row v` holds when
every column has a key and a value, and `v` is the object of them. `height` bounds how many
references are followed one after the other, and a reference has the value at one height less of the
row that it selects.

Resolving computes exactly this value (`resolve_eq_ok_iff`), by induction on the depth. Height
matters only through the chains of references from a row: a row has a value at some height as soon
as it has one at all and no chain from it is longer (`RowValue.of_chain_length_le`).
-/

namespace LinkedSheets

mutual

/-- The row, read with the header, has this value. -/
inductive RowValue (keys : KeyNaming) (w : Workbook) :
    (height : Nat) → (header : List String) → Row → Value → Prop
  | object {height : Nat} {header : List String} {row : Row} (key : Fin header.length → String)
      (value : Fin header.length → Value)
      (hkey : ∀ i : Fin header.length,
        keys.key? (header.get i) (Cell.classify (row.cell i)).isReference = some (key i))
      (hvalue : ∀ i : Fin header.length,
        CellValue keys w height (Cell.classify (row.cell i)) (value i)) :
      RowValue keys w height header row (.ofColumns (List.ofFn fun i => (key i, value i)))

/-- A cell has this value: its own text, that of a row, or those of a list of rows. -/
inductive CellValue (keys : KeyNaming) (w : Workbook) : (height : Nat) → Cell → Value → Prop
  | scalar {height : Nat} (text : String) : CellValue keys w height (.scalar text) (.scalar text)
  | reference {height : Nat} {spec : String} {v : Value} (h : SpecValue keys w height spec v) :
      CellValue keys w height (.reference spec) v
  | references {height : Nat} {specs : List String} (value : Fin specs.length → Value)
      (h : ∀ i : Fin specs.length, SpecValue keys w height (specs.get i) (value i)) :
      CellValue keys w height (.references specs) (.array (List.ofFn value))

/-- A specifier has the value of the row that it selects, with the header of that row's sheet. -/
inductive SpecValue (keys : KeyNaming) (w : Workbook) : (height : Nat) → String → Value → Prop
  | follow {height : Nat} {spec : String} {v : Value} (d : DataRow w) (hd : Selects spec d)
      (h : RowValue keys w height d.sheet.header d.row v) : SpecValue keys w (height + 1) spec v

end

variable {keys : KeyNaming} {w : Workbook}

section Inversion

theorem rowValue_iff {height : Nat} {header : List String} {row : Row} {v : Value} :
    RowValue keys w height header row v ↔
      ∃ (key : Fin header.length → String) (value : Fin header.length → Value),
        (∀ i : Fin header.length,
            keys.key? (header.get i) (Cell.classify (row.cell i)).isReference = some (key i))
          ∧ (∀ i : Fin header.length,
            CellValue keys w height (Cell.classify (row.cell i)) (value i))
          ∧ v = .ofColumns (List.ofFn fun i => (key i, value i)) := by
  constructor
  · rintro ⟨key, value, hkey, hvalue⟩
    exact ⟨key, value, hkey, hvalue, rfl⟩
  · rintro ⟨key, value, hkey, hvalue, rfl⟩
    exact .object key value hkey hvalue

theorem RowValue.exists_object {height : Nat} {header : List String} {row : Row} {v : Value}
    (h : RowValue keys w height header row v) : ∃ fields, v = .object fields := by
  obtain ⟨key, value, -, -, rfl⟩ := rowValue_iff.1 h
  exact ⟨_, rfl⟩

theorem not_specValue_zero {spec : String} {v : Value} : ¬ SpecValue keys w 0 spec v :=
  fun h => nomatch h

theorem specValue_succ_iff {height : Nat} {spec : String} {v : Value} :
    SpecValue keys w (height + 1) spec v ↔
      ∃ d : DataRow w, Selects spec d ∧ RowValue keys w height d.sheet.header d.row v := by
  constructor
  · rintro ⟨d, hd, h⟩
    exact ⟨d, hd, h⟩
  · rintro ⟨d, hd, h⟩
    exact .follow d hd h

theorem CellValue.exists_specValue {height : Nat} {cell : Cell} {v : Value}
    (h : CellValue keys w height cell v) {spec : String} (hspec : spec ∈ cell.specs) :
    ∃ u, SpecValue keys w height spec u := by
  cases h with
  | scalar text => simp [Cell.specs] at hspec
  | reference hv =>
    obtain rfl := List.mem_singleton.1 hspec
    exact ⟨v, hv⟩
  | references value hv =>
    obtain ⟨i, hi, rfl⟩ := List.mem_iff_getElem.1 hspec
    exact ⟨_, hv ⟨i, hi⟩⟩

/-- The value of a cell depends on the height only through its specifiers. -/
theorem CellValue.of_specs {height height' : Nat} {cell : Cell} {v : Value}
    (h : CellValue keys w height cell v)
    (hspecs : ∀ spec ∈ cell.specs, ∀ u, SpecValue keys w height spec u →
      SpecValue keys w height' spec u) : CellValue keys w height' cell v := by
  cases h with
  | scalar text => exact .scalar text
  | reference hv => exact .reference (hspecs _ (List.mem_singleton_self _) v hv)
  | references value hv =>
    exact .references value fun i => hspecs _ (List.getElem_mem _) _ (hv i)

end Inversion

section Resolves

variable {r : Resolver} {deeper : Option RowReader} {height : Nat}

/-- Following takes the positions of specifiers into the path; in the values they play no part. -/
theorem readCell_eq_ok_iff
    (hfollow : ∀ path spec v, (r.follow w deeper path spec).outcome = .ok v ↔
      SpecValue r.keys w height spec v) {path : FieldPath} {cell : Cell} {v : Value} :
    (r.readCell w deeper path cell).outcome = .ok v ↔ CellValue r.keys w height cell v := by
  cases cell with
  | scalar text =>
    constructor
    · intro h
      obtain rfl : Value.scalar text = v := by simpa [Resolver.readCell] using h
      exact .scalar text
    · rintro ⟨⟩
      rfl
  | reference spec =>
    refine (hfollow path spec v).trans ⟨.reference, ?_⟩
    rintro ⟨⟩
    assumption
  | references specs =>
    rw [Resolver.outcome_readCell_references, map_eq_ok_iff, zipIdx_eq_ofFn]
    simp only [mapM_ofFn_eq_ok_iff, hfollow]
    constructor
    · rintro ⟨_, ⟨value, rfl, hv⟩, rfl⟩
      exact .references value hv
    · rintro ⟨⟩
      rename_i value hv
      exact ⟨_, ⟨value, rfl, hv⟩, rfl⟩

/-- One step of the resolver: if following specifiers gives their values, reading rows does. -/
theorem readRow_eq_ok_iff
    (hfollow : ∀ path spec v, (r.follow w deeper path spec).outcome = .ok v ↔
      SpecValue r.keys w height spec v) {path : FieldPath} {header : List String} {row : Row}
    {v : Value} : (r.readRow w deeper path header row).outcome = .ok v ↔
      RowValue r.keys w height header row v := by
  rw [Resolver.outcome_readRow, map_eq_ok_iff, rowValue_iff]
  simp only [mapM_ofFn_eq_ok_iff, Resolver.readColumn_eq_ok_iff, readCell_eq_ok_iff hfollow]
  constructor
  · rintro ⟨_, ⟨column, rfl, hc⟩, rfl⟩
    exact ⟨fun i => (column i).1, fun i => (column i).2, fun i => (hc i).1, fun i => (hc i).2, rfl⟩
  · rintro ⟨key, value, hkey, hvalue, rfl⟩
    exact ⟨_, ⟨fun i => (key i, value i), rfl, fun i => ⟨hkey i, hvalue i⟩⟩, rfl⟩

/-- Resolving computes the value of a row, at the height of the depth and whatever leads to it. -/
theorem resolve_eq_ok_iff : ∀ (depth : Nat) {path : FieldPath} {header : List String} {row : Row}
    {v : Value}, (r.resolve w depth path header row).outcome = .ok v ↔
      RowValue r.keys w depth header row v
  | 0, path, header, row, v => by
    refine readRow_eq_ok_iff fun path spec v => ?_
    exact iff_of_false (follow_none_ne_ok r path) not_specValue_zero
  | depth + 1, path, header, row, v => by
    refine readRow_eq_ok_iff fun path spec v => ?_
    rw [follow_eq_ok_iff, specValue_succ_iff]
    simp only [resolve_eq_ok_iff depth]

theorem follow_deeperAt_eq_ok_iff {depth : Nat} {path : FieldPath} {spec : String} {v : Value} :
    (r.follow w (r.deeperAt w depth) path spec).outcome = .ok v ↔
      SpecValue r.keys w depth spec v := by
  cases depth with
  | zero => exact iff_of_false (follow_none_ne_ok r path) not_specValue_zero
  | succ depth =>
    rw [specValue_succ_iff]
    simp only [Resolver.deeperAt, follow_eq_ok_iff, resolve_eq_ok_iff]

theorem readCell_deeperAt_eq_ok_iff {depth : Nat} {path : FieldPath} {cell : Cell} {v : Value} :
    (r.readCell w (r.deeperAt w depth) path cell).outcome = .ok v ↔
      CellValue r.keys w depth cell v :=
  readCell_eq_ok_iff fun _ _ _ => follow_deeperAt_eq_ok_iff

end Resolves

section Chains

/-- A chain of references from a row that has a value is no longer than its height: the specifier of
each link has the value of the one row that it selects. -/
theorem RowValue.chain_length_le : ∀ {height : Nat} {header : List String} {row : Row} {v : Value},
    RowValue keys w height header row v → ∀ {chain : List (DataRow w)},
      ChainFrom header row chain → chain.length ≤ height
  | _, _, _, _, _, [], _ => Nat.zero_le _
  | height, header, row, v, h, d :: chain, ⟨⟨i, hi, spec, hspec, hd⟩, hc⟩ => by
    obtain ⟨key, value, -, hvalue, -⟩ := rowValue_iff.1 h
    obtain ⟨u, hu⟩ := (hvalue ⟨i, hi⟩).exists_specValue hspec
    cases height with
    | zero => exact absurd hu not_specValue_zero
    | succ height =>
      obtain ⟨d', hd', hv⟩ := specValue_succ_iff.1 hu
      obtain rfl := hd.unique hd'
      exact Nat.succ_le_succ (hv.chain_length_le hc)

/-- A row with a value has it at every height that no chain of references from it exceeds. -/
theorem RowValue.of_chain_length_le : ∀ {height height' : Nat} {header : List String} {row : Row}
    {v : Value}, RowValue keys w height header row v →
      (∀ chain : List (DataRow w), ChainFrom header row chain → chain.length ≤ height') →
      RowValue keys w height' header row v
  | height, height', header, row, v, h, hchain => by
    obtain ⟨key, value, hkey, hvalue, rfl⟩ := rowValue_iff.1 h
    refine .object key value hkey fun i => (hvalue i).of_specs fun spec hspec u hu => ?_
    cases height with
    | zero => exact absurd hu not_specValue_zero
    | succ height =>
      obtain ⟨d, hd, hv⟩ := specValue_succ_iff.1 hu
      have hl : Leads header row d := ⟨i, i.isLt, spec, hspec, hd⟩
      cases height' with
      | zero => exact absurd (hchain [d] ⟨hl, trivial⟩) (by simp)
      | succ height' =>
        refine specValue_succ_iff.2 ⟨d, hd, hv.of_chain_length_le fun chain hc => ?_⟩
        exact Nat.le_of_succ_le_succ (hchain (d :: chain) ⟨hl, hc⟩)

theorem RowValue.mono {height height' : Nat} (hle : height ≤ height') {header : List String}
    {row : Row} {v : Value} (h : RowValue keys w height header row v) :
    RowValue keys w height' header row v :=
  h.of_chain_length_le fun _ hc => Nat.le_trans (h.chain_length_le hc) hle

end Chains

/-- A row resolves to its value at the height of the limit and to nothing else. The limit is one on
the length of the chains of references: up to it, a row that has a value at all resolves to it,
however many references there are. -/
theorem resolveRow_eq_ok_iff (r : Resolver) (w : Workbook) (header : List String) (row : Row)
    (v : Value) :
    ((r.resolveRow w header row).outcome = .ok v ↔ RowValue r.keys w r.maxDepth header row v)
      ∧ (RowValue r.keys w r.maxDepth header row v ↔
        (∃ height, RowValue r.keys w height header row v)
          ∧ ∀ chain : List (DataRow w), ChainFrom header row chain → chain.length ≤ r.maxDepth) := by
  refine ⟨resolve_eq_ok_iff r.maxDepth,
    fun h => ⟨⟨_, h⟩, fun chain hc => h.chain_length_le hc⟩, ?_⟩
  rintro ⟨⟨height, h⟩, hchain⟩
  exact h.of_chain_length_le hchain

end LinkedSheets
