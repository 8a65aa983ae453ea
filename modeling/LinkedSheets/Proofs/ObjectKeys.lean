import LinkedSheets.Proofs.Embedded
import LinkedSheets.Proofs.Lenient
import Mathlib.Data.List.OfFn

/-!
# The keys of objects

An object that a row resolves to has every key of the row once, in the order in which the columns
first have it, and under a key the value of the first column that has it (`MadeOf`). Columns differ
in their keys by the table of new names, and with it limited to references also by their cells, so
two columns of one name may have different keys, and two of different names the same one.

Every object in a value is made of some row, the row that was resolved or one that a specifier on
the way selects (`RowAt`), so all of this holds at every level (`exists_madeOf_of_holds`).
-/

namespace LinkedSheets

namespace Resolver

theorem nodup_untaken : ∀ (taken : List String) (columns : List (String × Value)),
    ((untaken taken columns).map (·.1)).Nodup
  | taken, [] => by simp [untaken]
  | taken, (key, value) :: columns => by
    by_cases h : key ∈ taken
    · rw [untaken_cons_of_mem h]
      exact nodup_untaken taken columns
    · rw [untaken_cons_of_not_mem h, List.map_cons, List.nodup_cons]
      refine ⟨fun hkey => ?_, nodup_untaken (key :: taken) columns⟩
      obtain ⟨c, hc, hck⟩ := List.mem_map.1 hkey
      obtain ⟨hnot, -⟩ := mem_untaken_iff.1 hc
      exact hnot (hck ▸ List.mem_cons_self)

/-- The keys of the columns that are kept are the keys that are not taken, without repetitions. -/
theorem map_fst_untaken : ∀ (taken : List String) (columns : List (String × Value)),
    (untaken taken columns).map (·.1) = ((columns.map (·.1)).filter (· ∉ taken)).eraseDups
  | taken, [] => by simp [untaken]
  | taken, (key, value) :: columns => by
    by_cases h : key ∈ taken
    · rw [untaken_cons_of_mem h, map_fst_untaken taken columns]
      simp [h]
    · have hrest : ((columns.map (·.1)).filter (· ∉ taken)).filter (fun k => !k == key)
          = (columns.map (·.1)).filter (· ∉ key :: taken) := by
        rw [List.filter_filter]
        refine List.filter_congr fun k _ => ?_
        by_cases hk : k = key <;> simp [hk]
      rw [untaken_cons_of_not_mem h, List.map_cons, map_fst_untaken (key :: taken) columns,
        List.map_cons, List.filter_cons_of_pos (by simpa using h), List.eraseDups_cons, hrest]

end Resolver

theorem untaken_of_nodup : ∀ {taken : List String} {columns : List (String × Value)},
    (∀ c ∈ columns, c.1 ∉ taken) → (columns.map (·.1)).Nodup →
      Resolver.untaken taken columns = columns
  | taken, [], _, _ => by simp [Resolver.untaken]
  | taken, (key, value) :: columns, htaken, hd => by
    obtain ⟨hkey, htaken⟩ := List.forall_mem_cons.1 htaken
    rw [List.map_cons, List.nodup_cons] at hd
    rw [Resolver.untaken_cons_of_not_mem hkey, untaken_of_nodup (fun c hc => ?_) hd.2]
    refine fun hmem => (List.mem_cons.1 hmem).elim (fun heq => ?_) (htaken c hc)
    exact hd.1 (heq ▸ List.mem_map_of_mem hc)

/-- Where the names of the columns differ, no column is left out. -/
theorem ofColumns_of_nodup {header : List String} (hd : header.Nodup)
    (value : Fin header.length → Value) :
    Value.ofColumns (List.ofFn fun i => (header.get i, value i))
      = .object (List.ofFn fun i => (header.get i, value i)) := by
  rw [← Resolver.untaken_nil, untaken_of_nodup (by simp)]
  rwa [List.map_ofFn, Function.comp_def, List.ofFn_get]

/-- The keys of the columns of a row, in their order; nothing where a column has no key. -/
def keysOf (keys : KeyNaming) (header : List String) (row : Row) : List (Option String) :=
  List.ofFn fun i : Fin header.length =>
    keys.key? (header.get i) (Cell.classify (row.cell i)).isReference

/-- The fields are those of the row: its keys in order and without repetitions, and under each the
value that the first column with that key resolves to. Every column has a field under its key, and
one that is blank, or missing, has the empty text there. -/
structure MadeOf (r : Resolver) (w : Workbook) (header : List String) (row : Row)
    (fields : List (String × Value)) : Prop where
  distinct : (fields.map (·.1)).Nodup
  keys : ∃ names : List String, keysOf r.keys header row = names.map some
    ∧ fields.map (·.1) = names.eraseDups
  mem_iff : ∀ key value, (key, value) ∈ fields ↔ ∃ cell, FieldCell r.keys header row key cell
    ∧ ∀ path, (r.readCell w (r.deeperAt w r.maxDepth) path cell).outcome = .ok value
  complete : ∀ i : Fin header.length, ∃ key value, (key, value) ∈ fields
    ∧ r.keys.key? (header.get i) (Cell.classify (row.cell i)).isReference = some key
  blank : ∀ (i : Fin header.length) key, row.cell i = "" →
    (∀ j < i, r.keys.key? (header.get j) (Cell.classify (row.cell j)).isReference ≠ some key) →
    r.keys.key? (header.get i) (Cell.classify (row.cell i)).isReference = some key →
    (key, .scalar "") ∈ fields

/-- The row that the object at a path is made of: the one that is resolved, or one that is selected
by the specifier that embeds the object. -/
inductive RowAt (keys : KeyNaming) (w : Workbook) (header : List String) (row : Row) :
    List Value.Step → List String → Row → Prop
  | here : RowAt keys w header row [] header row
  | embedded {path : List Value.Step} {spec : String} (he : Embeds keys w header row path spec)
      (d : DataRow w) (hd : Selects spec d) : RowAt keys w header row path d.sheet.header d.row

variable {r : Resolver} {w : Workbook} {header : List String} {row : Row}

theorem RowValue.madeOf {fields : List (String × Value)}
    (h : RowValue r.keys w r.maxDepth header row (.object fields)) :
    MadeOf r w header row fields := by
  obtain ⟨key, value, hkey, hvalue, hv⟩ := rowValue_iff.1 h
  rw [← Resolver.untaken_nil, Value.object.injEq] at hv
  subst hv
  have hread : ∀ (i : Fin header.length) (path : FieldPath), (r.readCell w
      (r.deeperAt w r.maxDepth) path (.classify (row.cell i))).outcome = .ok (value i) :=
    fun i path => readCell_deeperAt_eq_ok_iff.2 (hvalue i)
  have hmem : ∀ k v, (k, v) ∈ Resolver.untaken [] (List.ofFn fun i => (key i, value i)) ↔
      ∃ cell, FieldCell r.keys header row k cell
        ∧ ∀ path, (r.readCell w (r.deeperAt w r.maxDepth) path cell).outcome = .ok v := by
    intro k v
    rw [Resolver.mem_untaken_iff, Resolver.lookup_ofFn_eq_some_iff]
    constructor
    · rintro ⟨-, i, hfirst, rfl, rfl⟩
      refine ⟨_, ⟨i, fun j hj => ?_, hkey i, rfl⟩, hread i⟩
      rw [hkey j]
      exact fun heq => hfirst j hj (Option.some.inj heq)
    · rintro ⟨cell, ⟨i, hfirst, hi, rfl⟩, hv⟩
      simp only [hkey, ne_eq, Option.some.injEq] at hfirst hi
      have hvi := (hread i []).symm.trans (hv [])
      exact ⟨List.not_mem_nil, i, hfirst, hi, Except.ok.inj hvi⟩
  have hnames : (Resolver.untaken [] (List.ofFn fun i => (key i, value i))).map (·.1)
      = (List.ofFn key).eraseDups := by
    rw [Resolver.map_fst_untaken, List.filter_eq_self.2 (by simp), List.map_ofFn]
    rfl
  constructor
  case distinct => exact Resolver.nodup_untaken _ _
  case keys =>
    refine ⟨List.ofFn key, ?_, hnames⟩
    rw [keysOf, List.map_ofFn]
    exact congrArg List.ofFn (funext hkey)
  case mem_iff => exact hmem
  case complete =>
    intro i
    have hi : key i ∈ (Resolver.untaken [] (List.ofFn fun i => (key i, value i))).map (·.1) := by
      rw [hnames, List.mem_eraseDups]
      exact List.mem_ofFn.2 ⟨i, rfl⟩
    obtain ⟨⟨k, v⟩, hc, rfl⟩ := List.mem_map.1 hi
    exact ⟨_, v, hc, hkey i⟩
  case blank =>
    intro i k hblank hfirst hi
    refine (hmem k _).2 ⟨_, ⟨i, hfirst, hi, rfl⟩, fun path => ?_⟩
    rw [hblank]
    rfl

/-- Every object in what a row resolves to is made of a row. -/
theorem exists_madeOf_of_holds {v : Value} (h : (r.resolveRow w header row).outcome = .ok v)
    {path : List Value.Step} {fields : List (String × Value)} (hx : v.Holds path (.object fields)) :
    ∃ header' row', RowAt r.keys w header row path header' row'
      ∧ MadeOf r w header' row' fields := by
  have hv : RowValue r.keys w r.maxDepth header row v := (resolve_eq_ok_iff r.maxDepth).1 h
  by_cases hpath : path = []
  · subst hpath
    obtain rfl := Value.holds_nil_iff.1 hx
    exact ⟨header, row, .here, hv.madeOf⟩
  · obtain ⟨spec, he⟩ := hv.exists_embeds hpath hx
    obtain ⟨d, fields', hd, hresolve, hunique⟩ := resolveRow_of_embeds h he
    obtain rfl : fields = fields' := by simpa using (hunique _).1 hx
    have hd' : RowValue r.keys w r.maxDepth d.sheet.header d.row (.object fields) :=
      (resolve_eq_ok_iff r.maxDepth).1 hresolve
    exact ⟨_, _, .embedded he d hd, hd'.madeOf⟩

/-- Every object, at any level of what a row, a sheet or a sheet read leniently comes to, is made of
a row: it has the keys of that row in the order of its columns, each once and none left out, and
under each the value of the first column that has it. -/
theorem objects_madeOf (r : Resolver) (w : Workbook) :
    (∀ header row v, (r.resolveRow w header row).outcome = .ok v →
        ∀ path fields, v.Holds path (.object fields) →
          ∃ header' row', RowAt r.keys w header row path header' row'
            ∧ MadeOf r w header' row' fields)
      ∧ (∀ name vs, (r.sheet w name).outcome = .ok vs → ∀ v ∈ vs,
        ∃ d : DataRow w, d.sheet.name = name ∧ ∀ path fields, v.Holds path (.object fields) →
          ∃ header' row', RowAt r.keys w d.sheet.header d.row path header' row'
            ∧ MadeOf r w header' row' fields)
      ∧ ∀ name m, (r.sheetLeniently w name).outcome = .ok m → ∀ v ∈ m.values,
        ∃ d : DataRow w, d.sheet.name = name ∧ ∀ path fields, v.Holds path (.object fields) →
          ∃ header' row', RowAt r.keys w d.sheet.header d.row path header' row'
            ∧ MadeOf r w header' row' fields := by
  refine ⟨fun header row v h path fields hx => exists_madeOf_of_holds h hx, ?_, ?_⟩
  · intro name vs h v hv
    obtain ⟨d, hname, hd⟩ := Resolver.exists_dataRow_of_sheet h hv
    exact ⟨d, hname, fun path fields hx => exists_madeOf_of_holds hd hx⟩
  · intro name m h v hv
    obtain ⟨d, hname, hd⟩ := Resolver.exists_dataRow_of_values h hv
    exact ⟨d, hname, fun path fields hx => exists_madeOf_of_holds hd hx⟩

section Parcels

/-- The address is renamed to what the second column is called already, where it is a reference. -/
def parcels : Workbook where
  sheets := [⟨"address", [["zip", "city"], ["1"]]⟩,
    ⟨"parcel", [["address", "note"], ["reference:address@zip#1", "urgent"], ["", "lost"]]⟩]
  sorted := by decide

def notes : KeyNaming :=
  .renamed [("address", "note")] .references

theorem objects_madeOf_parcels :
    (Resolver.sheet ⟨notes, 1⟩ parcels "parcel").outcome = .ok [
        .object [("note", .object [("zip", .scalar "1"), ("city", .scalar "")])],
        .object [("address", .scalar ""), ("note", .scalar "lost")]]
      ∧ ∃ header row, RowAt notes parcels ["address", "note"]
          ["reference:address@zip#1", "urgent"] [.field "note"] header row
        ∧ MadeOf ⟨notes, 1⟩ parcels header row [("zip", .scalar "1"), ("city", .scalar "")] := by
  have h : (Resolver.resolveRow ⟨notes, 1⟩ parcels ["address", "note"]
      ["reference:address@zip#1", "urgent"]).outcome
    = .ok (.object [("note", .object [("zip", .scalar "1"), ("city", .scalar "")])]) := rfl
  refine ⟨rfl, (objects_madeOf ⟨notes, 1⟩ parcels).1 _ _ _ h [.field "note"] _ ?_⟩
  exact .field List.mem_cons_self (.self _)

end Parcels

end LinkedSheets
