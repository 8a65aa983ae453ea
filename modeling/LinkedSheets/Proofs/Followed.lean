import LinkedSheets.Proofs.ObjectKeys

/-!
# The references that a row follows

Resolving a row follows the references in its cells in the order of the columns, and right behind
each of them the references in the row that it leads to (`RowFollows`). A column whose key is taken
is no exception: its references are followed, though no value shows it.

A row with a value follows one list of references and no other (`RowFollows.unique`). Where no name
of a column is repeated, neither in its header nor in those of the rows that are followed, nothing
is dropped, and the references stand where the objects are in the value: they have the same fields
in the same order (`RowFollows.map_field`).
-/

namespace LinkedSheets

/-- A reference that is followed: where it stands, its target and the row that it leads to. -/
structure Followed (w : Workbook) where
  field : FieldPath
  target : Target
  row : DataRow w

mutual

/-- What a row, read with the header, follows: what each of its columns does. -/
inductive RowFollows (w : Workbook) :
    FieldPath → (header : List String) → Row → List (Followed w) → Prop
  | columns {path : FieldPath} {header : List String} {row : Row}
      (below : Fin header.length → List (Followed w))
      (h : ∀ i : Fin header.length,
        CellFollows w (path ++ [header.get i]) (Cell.classify (row.cell i)) (below i)) :
      RowFollows w path header row (List.ofFn below).flatten

inductive CellFollows (w : Workbook) : FieldPath → Cell → List (Followed w) → Prop
  | scalar {path : FieldPath} (text : String) : CellFollows w path (.scalar text) []
  | reference {path : FieldPath} {spec : String} {below : List (Followed w)}
      (h : SpecFollows w path spec below) : CellFollows w path (.reference spec) below
  | references {path : FieldPath} {specs : List String}
      (below : Fin specs.length → List (Followed w))
      (h : ∀ i : Fin specs.length,
        SpecFollows w (path ++ [i.val.repr]) (specs.get i) (below i)) :
      CellFollows w path (.references specs) (List.ofFn below).flatten

/-- A specifier is followed, and then what the row that it selects follows. -/
inductive SpecFollows (w : Workbook) : FieldPath → String → List (Followed w) → Prop
  | follow {path : FieldPath} {spec : String} {below : List (Followed w)} (t : Target)
      (ht : Target.parse? spec = some t) (d : DataRow w) (hd : Selects spec d)
      (h : RowFollows w path d.sheet.header d.row below) :
      SpecFollows w path spec (⟨path, t, d⟩ :: below)

end

/-- What the data rows of a sheet follow, one row after the other. -/
def SheetFollows (w : Workbook) (sheet : Sheet) (followed : List (Followed w)) : Prop :=
  ∃ below : Fin sheet.dataRows.length → List (Followed w),
    (∀ i : Fin sheet.dataRows.length,
        RowFollows w [sheet.name, i.val.repr] sheet.header (sheet.dataRows.get i) (below i))
      ∧ followed = (List.ofFn below).flatten

namespace Value

mutual

/-- The paths of the objects in a value, given the path of the value. An object comes before those
that are in it, and these are in the order of its fields. -/
def objectsAt (path : FieldPath) : Value → List FieldPath
  | scalar _ => []
  | array items => objectsInItems path 0 items
  | object fields => path :: objectsInFields path fields

def objectsInItems (path : FieldPath) : (position : Nat) → List Value → List FieldPath
  | _, [] => []
  | position, item :: items =>
    objectsAt (path ++ [position.repr]) item ++ objectsInItems path (position + 1) items

def objectsInFields (path : FieldPath) : List (String × Value) → List FieldPath
  | [] => []
  | (key, value) :: fields => objectsAt (path ++ [key]) value ++ objectsInFields path fields

end

theorem objectsInItems_eq_flatMap (path : FieldPath) (position : Nat) (items : List Value) :
    objectsInItems path position items
      = (items.zipIdx position).flatMap fun p => objectsAt (path ++ [p.2.repr]) p.1 := by
  induction items generalizing position with
  | nil => rfl
  | cons item items ih => rw [objectsInItems, ih, List.zipIdx_cons, List.flatMap_cons]

theorem objectsInFields_eq_flatMap (path : FieldPath) (fields : List (String × Value)) :
    objectsInFields path fields = fields.flatMap fun c => objectsAt (path ++ [c.1]) c.2 := by
  induction fields with
  | nil => rfl
  | cons field fields ih => rw [objectsInFields, ih, List.flatMap_cons]

end Value

variable {w : Workbook} {path : FieldPath}

section Unique

variable {keys : KeyNaming}

theorem CellFollows.unique {height : Nat} {cell : Cell} {v : Value}
    {below below' : List (Followed w)}
    (hspec : ∀ {path spec u below below'}, SpecValue keys w height spec u →
      SpecFollows w path spec below → SpecFollows w path spec below' → below = below')
    (hv : CellValue keys w height cell v) (h : CellFollows w path cell below)
    (h' : CellFollows w path cell below') : below = below' := by
  cases hv with
  | scalar text =>
    cases h
    cases h'
    rfl
  | reference hv =>
    cases h with
    | reference h =>
      cases h' with
      | reference h' => exact hspec hv h h'
  | references value hv =>
    cases h with
    | references below h =>
      cases h' with
      | references below' h' =>
        have heq : below = below' := funext fun i => hspec (hv i) (h i) (h' i)
        rw [heq]

/-- By induction on the height of the value, which the references do not go beyond. -/
theorem RowFollows.unique : ∀ {height : Nat} {path : FieldPath} {header : List String} {row : Row}
    {v : Value} {below below' : List (Followed w)}, RowFollows w path header row below →
      RowFollows w path header row below' → RowValue keys w height header row v → below = below'
  | height, path, header, row, v, _, _, .columns below h, .columns below' h', hv => by
    obtain ⟨key, value, -, hvalue, rfl⟩ := rowValue_iff.1 hv
    have heq : below = below' := by
      funext i
      refine CellFollows.unique (fun {path spec u below below'} hu hs hs' => ?_) (hvalue i) (h i)
        (h' i)
      cases height with
      | zero => exact absurd hu not_specValue_zero
      | succ height =>
        obtain ⟨d, hd, hv⟩ := specValue_succ_iff.1 hu
        obtain ⟨t, ht, e, he, hb⟩ := hs
        obtain ⟨t', ht', e', he', hb'⟩ := hs'
        obtain rfl := hd.unique he
        obtain rfl := hd.unique he'
        obtain rfl : t = t' := Option.some.inj (ht.symm.trans ht')
        rw [hb.unique hb' hv]
    rw [heq]

theorem SheetFollows.unique {height : Nat} {sheet : Sheet} {followed followed' : List (Followed w)}
    (h : SheetFollows w sheet followed) (h' : SheetFollows w sheet followed')
    (hv : ∀ i : Fin sheet.dataRows.length, ∃ v,
      RowValue keys w height sheet.header (sheet.dataRows.get i) v) : followed = followed' := by
  obtain ⟨below, hbelow, rfl⟩ := h
  obtain ⟨below', hbelow', rfl⟩ := h'
  have heq : below = below' := by
    funext i
    obtain ⟨v, hv⟩ := hv i
    exact (hbelow i).unique (hbelow' i) hv
  rw [heq]

end Unique

section Places

/-- All columns of the rows that are followed have different names. -/
def NoneRepeated (below : List (Followed w)) : Prop :=
  ∀ f ∈ below, f.row.sheet.header.Nodup

theorem NoneRepeated.of_flatten {n : Nat} {below : Fin n → List (Followed w)}
    (h : NoneRepeated (List.ofFn below).flatten) (i : Fin n) : NoneRepeated (below i) :=
  fun f hf => h f (List.mem_flatten.2 ⟨below i, List.mem_ofFn.2 ⟨i, rfl⟩, hf⟩)

theorem map_flatten_ofFn {α β : Type} {n : Nat} {g : α → β} {l : Fin n → List α}
    {l' : Fin n → List β} (h : ∀ i, (l i).map g = l' i) :
    (List.ofFn l).flatten.map g = (List.ofFn l').flatten := by
  rw [List.map_flatten, List.map_ofFn]
  exact congrArg (fun l => (List.ofFn l).flatten) (funext h)

theorem CellFollows.map_field {height : Nat} {cell : Cell} {v : Value} {below : List (Followed w)}
    (hspec : ∀ {path spec u below}, SpecValue .verbatim w height spec u →
      SpecFollows w path spec below → NoneRepeated below → below.map (·.field) = u.objectsAt path)
    (hv : CellValue .verbatim w height cell v) (h : CellFollows w path cell below)
    (hnone : NoneRepeated below) : below.map (·.field) = v.objectsAt path := by
  cases hv with
  | scalar text =>
    cases h
    rfl
  | reference hv =>
    cases h with
    | reference h => exact hspec hv h hnone
  | references value hv =>
    cases h with
    | references below h =>
      rw [Value.objectsAt, Value.objectsInItems_eq_flatMap, zipIdx_ofFn, flatMap_ofFn]
      exact map_flatten_ofFn fun i => hspec (hv i) (h i) (hnone.of_flatten i)

/-- Where no column is dropped, the references stand where the objects are. -/
theorem RowFollows.map_field : ∀ {height : Nat} {path : FieldPath} {header : List String}
    {row : Row} {v : Value} {below : List (Followed w)}, RowFollows w path header row below →
      RowValue .verbatim w height header row v → header.Nodup → NoneRepeated below →
      path :: below.map (·.field) = v.objectsAt path
  | height, path, header, row, v, _, .columns below h, hv, hheader, hnone => by
    obtain ⟨key, value, hkey, hvalue, rfl⟩ := rowValue_iff.1 hv
    obtain rfl : header.get = key := funext fun i => Option.some.inj (hkey i)
    have hspec : ∀ {path spec u below}, SpecValue .verbatim w height spec u →
        SpecFollows w path spec below → NoneRepeated below →
          below.map (·.field) = u.objectsAt path := by
      intro path spec u below hu hs hnone
      cases height with
      | zero => exact absurd hu not_specValue_zero
      | succ height =>
        obtain ⟨d, hd, hv⟩ := specValue_succ_iff.1 hu
        obtain ⟨t, ht, e, he, hb⟩ := hs
        obtain rfl := hd.unique he
        obtain ⟨hdistinct, hnone⟩ := List.forall_mem_cons.1 hnone
        exact hb.map_field hv hdistinct hnone
    rw [ofColumns_of_nodup hheader, Value.objectsAt, Value.objectsInFields_eq_flatMap, flatMap_ofFn]
    refine congrArg (path :: ·) (map_flatten_ofFn fun i => ?_)
    exact (h i).map_field hspec (hvalue i) (hnone.of_flatten i)

/-- The objects below those of the rows themselves are where the rows follow references. -/
theorem SheetFollows.map_field {height : Nat} {sheet : Sheet} {followed : List (Followed w)}
    {value : Fin sheet.dataRows.length → Value}
    (h : SheetFollows w sheet followed)
    (hv : ∀ i, RowValue .verbatim w height sheet.header (sheet.dataRows.get i) (value i))
    (hheader : sheet.dataRows ≠ [] → sheet.header.Nodup) (hnone : NoneRepeated followed) :
    followed.map (·.field) = (List.ofFn value).zipIdx.flatMap fun p =>
      (p.1.objectsAt [sheet.name, p.2.repr]).tail := by
  obtain ⟨below, hbelow, rfl⟩ := h
  rw [zipIdx_ofFn, flatMap_ofFn]
  refine map_flatten_ofFn fun i => ?_
  have hrows : sheet.dataRows ≠ [] := List.ne_nil_of_mem (List.get_mem _ i)
  rw [← (hbelow i).map_field (hv i) (hheader hrows) (hnone.of_flatten i), List.tail_cons]

end Places

end LinkedSheets
