import LinkedSheets.Proofs.Lenient

/-!
# Renaming keys

A column is known by its name wherever rows are looked up and wherever a failure says where it is;
its key is used for the object alone. So if a table of new names has every column of a workbook and
keeps different columns apart, resolving with the new names is resolving with the old ones and then
replacing the keys of all objects, and it fails in the same way (`outcome_resolve_renamed`).

That columns are kept apart is needed where a key is repeated: the same columns are dropped with the
new keys as with the old ones (`ofColumns_rename`).
-/

namespace LinkedSheets

namespace Value

mutual

/-- The value with another key for every key of every object in it. -/
def mapKeys (f : String → String) : Value → Value
  | scalar text => scalar text
  | array items => array (mapKeysOfItems f items)
  | object fields => object (mapKeysOfFields f fields)

def mapKeysOfItems (f : String → String) : List Value → List Value
  | [] => []
  | item :: items => mapKeys f item :: mapKeysOfItems f items

def mapKeysOfFields (f : String → String) : List (String × Value) → List (String × Value)
  | [] => []
  | (key, value) :: fields => (f key, mapKeys f value) :: mapKeysOfFields f fields

end

variable (f : String → String)

/-- A field with another key, and other keys in its value. -/
def mapKeysOfField (c : String × Value) : String × Value :=
  (f c.1, c.2.mapKeys f)

@[simp] theorem mapKeys_scalar (text : String) : (scalar text).mapKeys f = scalar text := rfl

@[simp] theorem mapKeys_array (items : List Value) :
    (array items).mapKeys f = array (items.map (mapKeys f)) := by
  have hmap : ∀ items : List Value, mapKeysOfItems f items = items.map (mapKeys f) := by
    intro items
    induction items with
    | nil => rfl
    | cons item items ih => simp only [mapKeysOfItems, ih, List.map_cons]
  rw [mapKeys, hmap]

@[simp] theorem mapKeys_object (fields : List (String × Value)) :
    (object fields).mapKeys f = object (fields.map (mapKeysOfField f)) := by
  have hmap : ∀ fields : List (String × Value),
      mapKeysOfFields f fields = fields.map (mapKeysOfField f) := by
    intro fields
    induction fields with
    | nil => rfl
    | cons c fields ih => simp only [mapKeysOfFields, ih, List.map_cons, mapKeysOfField]
  rw [mapKeys, hmap]

end Value

open Value

/-- The names of the columns of all sheets. -/
def Workbook.columns (w : Workbook) : List String :=
  w.sheets.flatMap (·.header)

/-- The table has a new name for every column of the workbook, and not the same one for two. -/
structure Workbook.ToldApart (w : Workbook) (names : List (String × String)) : Prop where
  defined : ∀ column ∈ w.columns, (KeyNaming.rename? names column).isSome
  injective : ∀ column ∈ w.columns, ∀ column' ∈ w.columns,
    KeyNaming.rename? names column = KeyNaming.rename? names column' → column = column'

/-- The new name of a column. A name that the table does not have stays. -/
def KeyNaming.newName (names : List (String × String)) (column : String) : String :=
  (rename? names column).getD column

open KeyNaming

section Columns

variable {f : String → String}

theorem untaken_rename : ∀ {taken : List String} {columns : List (String × Value)},
    (∀ k ∈ taken ++ columns.map (·.1), ∀ l ∈ taken ++ columns.map (·.1), f k = f l → k = l) →
      Resolver.untaken (taken.map f) (columns.map (mapKeysOfField f))
        = (Resolver.untaken taken columns).map (mapKeysOfField f)
  | taken, [], _ => by simp [Resolver.untaken]
  | taken, (key, value) :: columns, hf => by
    have htaken : f key ∈ taken.map f ↔ key ∈ taken := by
      constructor
      · intro h
        obtain ⟨k, hk, heq⟩ := List.mem_map.1 h
        have hkey : k = key := hf k (by simp [hk]) key (by simp) heq
        rwa [← hkey]
      · exact List.mem_map_of_mem
    rw [List.map_cons, mapKeysOfField]
    by_cases h : key ∈ taken
    · rw [Resolver.untaken_cons_of_mem (htaken.2 h), Resolver.untaken_cons_of_mem h]
      refine untaken_rename fun k hk l hl => hf k ?_ l ?_
      · exact List.mem_append.2 ((List.mem_append.1 hk).imp_right (List.mem_cons_of_mem _))
      · exact List.mem_append.2 ((List.mem_append.1 hl).imp_right (List.mem_cons_of_mem _))
    · rw [Resolver.untaken_cons_of_not_mem (mt htaken.1 h), Resolver.untaken_cons_of_not_mem h,
        List.map_cons, mapKeysOfField, ← List.map_cons]
      congr 1
      refine untaken_rename fun k hk l hl => hf k ?_ l ?_
      · simpa [or_assoc, or_left_comm] using hk
      · simpa [or_assoc, or_left_comm] using hl

/-- Where different columns have different new keys, the same ones are dropped. -/
theorem ofColumns_rename {columns : List (String × Value)}
    (hf : ∀ c ∈ columns, ∀ d ∈ columns, f c.1 = f d.1 → c.1 = d.1) :
    Value.ofColumns (columns.map (mapKeysOfField f)) = (Value.ofColumns columns).mapKeys f := by
  rw [← Resolver.untaken_nil, ← Resolver.untaken_nil, mapKeys_object]
  refine congrArg Value.object (@untaken_rename f [] columns fun k hk l hl heq => ?_)
  obtain ⟨c, hc, rfl⟩ := List.mem_map.1 hk
  obtain ⟨d, hd, rfl⟩ := List.mem_map.1 hl
  exact hf c hc d hd heq

end Columns

namespace Workbook.ToldApart

variable {w : Workbook} {names : List (String × String)} (h : w.ToldApart names)
include h

theorem rename?_eq {column : String} (hc : column ∈ w.columns) :
    rename? names column = some (newName names column) := by
  obtain ⟨key, hkey⟩ := Option.isSome_iff_exists.1 (h.defined column hc)
  rw [newName, hkey, Option.getD_some]

theorem newName_inj {column column' : String} (hc : column ∈ w.columns) (hc' : column' ∈ w.columns)
    (heq : newName names column = newName names column') : column = column' := by
  apply h.injective column hc column' hc'
  rw [h.rename?_eq hc, h.rename?_eq hc', heq]

end Workbook.ToldApart

namespace Resolver

variable {w : Workbook} {names : List (String × String)} {limit : Nat}
  {deeper deeper' : Option RowReader}

theorem header_subset_columns {name : String} {sheet : Sheet} (h : w.sheet? name = some sheet) :
    sheet.header ⊆ w.columns := by
  intro column hc
  obtain ⟨hmem, -⟩ := sheet?_eq_some_iff.1 h
  exact List.mem_flatMap.2 ⟨sheet, hmem, hc⟩

section Step

variable (hfollow : ∀ path spec, (follow ⟨.renamed names .all, limit⟩ w deeper' path spec).outcome
  = mapKeys (newName names) <$> (follow ⟨.verbatim, limit⟩ w deeper path spec).outcome)
include hfollow

theorem outcome_readCell_renamed (path : FieldPath) (cell : Cell) :
    (readCell ⟨.renamed names .all, limit⟩ w deeper' path cell).outcome
      = mapKeys (newName names) <$> (readCell ⟨.verbatim, limit⟩ w deeper path cell).outcome := by
  cases cell with
  | scalar text => rfl
  | reference spec => exact hfollow path spec
  | references specs =>
    rw [outcome_readCell_references, outcome_readCell_references,
      mapM_eq_map_mapM fun p _ => hfollow (path ++ [p.2.repr]) p.1, Functor.map_map,
      Functor.map_map]
    congr 1
    funext values
    exact (mapKeys_array _ values).symm

variable (hw : w.ToldApart names)
include hw

theorem readColumn_renamed (path : FieldPath) {column : String × String}
    (hc : column.1 ∈ w.columns) :
    readColumn ⟨.renamed names .all, limit⟩ w deeper' path column
      = mapKeysOfField (newName names)
        <$> readColumn ⟨.verbatim, limit⟩ w deeper path column := by
  have hkey : keyOf ⟨.renamed names .all, limit⟩ column.1 (.classify column.2)
      = .ok (newName names column.1) := keyOf_eq_ok_iff.2 (hw.rename?_eq hc)
  have hkey' : keyOf ⟨.verbatim, limit⟩ column.1 (.classify column.2) = .ok column.1 := rfl
  rw [readColumn, readColumn, hkey, hkey', outcome_readCell_renamed hfollow]
  rcases (readCell ⟨.verbatim, limit⟩ w deeper (path ++ [column.1])
    (.classify column.2)).outcome with e | value <;> rfl

theorem outcome_readRow_renamed (path : FieldPath) {header : List String}
    (hheader : header ⊆ w.columns) (row : Row) :
    (readRow ⟨.renamed names .all, limit⟩ w deeper' path header row).outcome
      = mapKeys (newName names)
        <$> (readRow ⟨.verbatim, limit⟩ w deeper path header row).outcome := by
  have hcolumns : ∀ c ∈ List.ofFn fun i : Fin header.length => (header.get i, row.cell i),
      c.1 ∈ w.columns := by
    intro c hc
    obtain ⟨i, rfl⟩ := List.mem_ofFn.1 hc
    exact hheader (List.get_mem header i)
  rw [outcome_readRow, outcome_readRow,
    mapM_eq_map_mapM fun c hc => readColumn_renamed hfollow hw path (hcolumns c hc)]
  rcases hcs : (List.ofFn fun i : Fin header.length => (header.get i, row.cell i)).mapM
    (readColumn ⟨.verbatim, limit⟩ w deeper path) with e | cs
  · rfl
  · have hkeys : ∀ c ∈ cs, c.1 ∈ w.columns := by
      intro c hc
      obtain ⟨x, hx, hxc⟩ := exists_mem_of_mapM_eq_ok hcs hc
      obtain ⟨hkey, -⟩ := readColumn_eq_ok_iff.1 hxc
      have hname : x.1 = c.1 := Option.some.inj hkey
      exact hname ▸ hcolumns x hx
    exact congrArg Except.ok
      (ofColumns_rename fun c hc d hd => hw.newName_inj (hkeys c hc) (hkeys d hd))

end Step

theorem outcome_follow_renamed {next next' : RowReader}
    (hnext : ∀ path header row, header ⊆ w.columns → (next' path header row).outcome
      = mapKeys (newName names) <$> (next path header row).outcome)
    (path : FieldPath) (spec : String) :
    (follow ⟨.renamed names .all, limit⟩ w (some next') path spec).outcome
      = mapKeys (newName names)
        <$> (follow ⟨.verbatim, limit⟩ w (some next) path spec).outcome := by
  rcases ht : Target.parse? spec with _ | t
  · simp [follow, ht]
  rcases hl : locate w path t with e | ⟨sheet, row⟩
  · simp [follow, ht, hl, Traced.outcome_bind]
  · obtain ⟨d, -, -, rfl, rfl⟩ := locate_eq_ok_iff.1 hl
    have hd := hnext path d.sheet.header d.row (header_subset_columns d.sheet_eq)
    simpa [follow, ht, hl, Traced.outcome_bind] using hd

variable (hw : w.ToldApart names)
include hw

/-- Resolving with the new names replaces the keys, in any row that is read with columns of the
workbook. -/
theorem outcome_resolve_renamed : ∀ (depth : Nat) (path : FieldPath) (header : List String)
    (row : Row), header ⊆ w.columns →
      (resolve ⟨.renamed names .all, limit⟩ w depth path header row).outcome
        = mapKeys (newName names)
          <$> (resolve ⟨.verbatim, limit⟩ w depth path header row).outcome
  | 0, path, header, row, hheader => by
    refine outcome_readRow_renamed (fun path spec => ?_) hw path hheader row
    rcases ht : Target.parse? spec with _ | t <;> simp [follow, ht]
  | depth + 1, path, header, row, hheader =>
    outcome_readRow_renamed (outcome_follow_renamed (outcome_resolve_renamed depth)) hw path
      hheader row

theorem outcome_resolveDataRow_renamed {name : String} {sheet : Sheet}
    (hs : w.sheet? name = some sheet) (index : Nat) (row : Row) :
    (resolveDataRow ⟨.renamed names .all, limit⟩ w sheet index row).outcome
      = mapKeys (newName names)
        <$> (resolveDataRow ⟨.verbatim, limit⟩ w sheet index row).outcome :=
  outcome_resolve_renamed hw limit _ _ row (header_subset_columns hs)

theorem materialized_renamed {name : String} {sheet : Sheet} (hs : w.sheet? name = some sheet)
    (rows : List (Row × Nat)) :
    materialized ⟨.renamed names .all, limit⟩ w sheet rows
      = ⟨(materialized ⟨.verbatim, limit⟩ w sheet rows).values.map (mapKeys (newName names)),
        (materialized ⟨.verbatim, limit⟩ w sheet rows).skipped⟩ := by
  simp only [materialized, outcome_resolveDataRow_renamed hw hs, List.map_filterMap,
    Materialized.mk.injEq]
  constructor
  · congr 1
    funext p
    rcases (resolveDataRow ⟨.verbatim, limit⟩ w sheet p.2 p.1).outcome with e | v <;> rfl
  · congr 1
    funext p
    rcases (resolveDataRow ⟨.verbatim, limit⟩ w sheet p.2 p.1).outcome with e | v <;> rfl

omit hw

/-- With new names that keep the columns of the workbook apart, a sheet comes to what it comes to
with the names as they are, but for the keys of its objects; it fails in the same way, at the same
path of columns. Read leniently it has the same rows with the new keys, and skips the same rows for
the same reasons. -/
theorem outcome_sheet_renamed (w : Workbook) (names : List (String × String))
    (hw : w.ToldApart names) (limit : Nat) (name : String) :
    (sheet ⟨.renamed names .all, limit⟩ w name).outcome
        = List.map (mapKeys (newName names)) <$> (sheet ⟨.verbatim, limit⟩ w name).outcome
      ∧ (sheetLeniently ⟨.renamed names .all, limit⟩ w name).outcome
        = (fun m => ⟨m.values.map (mapKeys (newName names)), m.skipped⟩)
          <$> (sheetLeniently ⟨.verbatim, limit⟩ w name).outcome := by
  rcases hs : w.sheet? name with _ | s
  · simp [outcome_sheet_of_none _ _ hs, outcome_sheetLeniently_of_none _ _ hs]
  · constructor
    · rw [outcome_sheet _ _ hs, outcome_sheet _ _ hs]
      exact mapM_eq_map_mapM fun p _ => outcome_resolveDataRow_renamed hw hs p.2 p.1
    · rw [outcome_sheetLeniently _ _ _ hs, outcome_sheetLeniently _ _ _ hs, map_ok,
        materialized_renamed hw hs]

section Staff

/-- Persons with their bosses, one of whom there is not, and a column too many. -/
def staff : Workbook where
  sheets := [⟨"person", [["name", "boss", "name"], ["Ann", "", "A"],
    ["Bob", "reference:person@name#Ann", "B"], ["Cid", "reference:person@name#Dan"]]⟩]
  sorted := List.pairwise_singleton _ _

def capitals : List (String × String) :=
  [("boss", "Boss"), ("name", "Name")]

theorem outcome_sheet_renamed_staff :
    staff.ToldApart capitals
      ∧ (sheet ⟨.renamed capitals .all, 1⟩ staff "person").outcome
        = .error (.rowNotFound ["person", "2", "boss"] ⟨"person", "name", "Dan"⟩)
      ∧ (sheetLeniently ⟨.renamed capitals .all, 1⟩ staff "person").outcome = .ok {
          values := [.object [("Name", .scalar "Ann"), ("Boss", .scalar "")],
            .object [("Name", .scalar "Bob"),
              ("Boss", .object [("Name", .scalar "Ann"), ("Boss", .scalar "")])]]
          skipped := [(2, .rowNotFound ["person", "2", "boss"] ⟨"person", "name", "Dan"⟩)] } := by
  have hw : staff.ToldApart capitals := ⟨by decide, by decide⟩
  obtain ⟨hstrict, hlenient⟩ := outcome_sheet_renamed staff capitals hw 1 "person"
  exact ⟨hw, hstrict.trans rfl, hlenient.trans rfl⟩

end Staff

end Resolver

end LinkedSheets
