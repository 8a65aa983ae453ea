import LinkedSheets.Proofs.PathFront

/-!
# Fields that are empty

The text of a path is empty where there is no path, and also where the path is a single name which
is empty (`FieldPath.text_eq_empty_iff`). So a failure for want of a sheet whose field is empty is
one of two. Either the sheet was asked for directly, or a row was resolved by itself, and a
reference of its own, in a column without a name, is to a sheet that there is not
(`Resolver.resolveRow_emptyField_iff`).

A data row that is read with its sheet has the name of the sheet and its own number in front of
every path, which then is never empty. For a sheet, read strictly or leniently, an empty field tells
that it was asked for and is not there (`Resolver.unknownSheet_emptyField_iff`).
-/

namespace LinkedSheets

theorem FieldPath.text_eq_empty_iff {path : FieldPath} :
    path.text = "" ↔ path = [] ∨ path = [""] := by
  rcases path with _ | ⟨first, _ | ⟨second, rest⟩⟩
  · simp [FieldPath.text]
  · simp [FieldPath.text]
  · simpa using FieldPath.text_ne_empty

theorem Place.segments_eq_singleton_iff {header : List String} {row : Row} {p : Place header row}
    {name : String} : p.segments = [name] ↔ header.get p.column = name ∧ p.position = none := by
  simp [segments]

/-- A reference in a column without a name, and no list of them, fails for want of the sheet `s`,
and all that is read before it is in order. -/
structure Place.LacksUnnamed (r : Resolver) (w : Workbook) (s : String) {header : List String}
    {row : Row} (p : Place header row) : Prop where
  first : p.First r.keys w r.maxDepth
  column : header.get p.column = ""
  position : p.position = none
  limit : 0 < r.maxDepth
  sheet : ∃ t, Target.parse? p.spec = some t ∧ t.sheet = s ∧ w.sheet? s = none

/-- A path with a single name ends in the row that it begins in. -/
theorem Walk.exists_place {keys : KeyNaming} {w : Workbook} {height : Nat} {header : List String}
    {row : Row} {name : String} {rows : List (DataRow w)} {last : String}
    (h : Walk keys w height header row [name] rows last) :
    ∃ p : Place header row, p.First keys w height ∧ p.segments = [name]
      ∧ rows = [] ∧ last = p.spec := by
  generalize hpath : [name] = path at h
  cases h with
  | stop p hp => exact ⟨p, hp, rfl, rfl, rfl⟩
  | @follow height header row path rows last p hp d hd h =>
    obtain ⟨-, hrest⟩ := List.cons.inj hpath
    exact absurd (List.append_eq_nil_iff.1 hrest.symm).2 h.path_ne_nil

theorem FailsAt.lacks_of_unknownSheet {limit followed : Nat} {w : Workbook} {path field : FieldPath}
    {spec s : String} (h : FailsAt limit w path followed spec (.unknownSheet s field)) :
    followed < limit
      ∧ ∃ t, Target.parse? spec = some t ∧ t.sheet = s ∧ w.sheet? s = none := by
  cases h with
  | unknownSheet ht hlimit hs => exact ⟨hlimit, _, ht, rfl, hs⟩

namespace Resolver

section Row

variable {r : Resolver} {w : Workbook} {header : List String} {row : Row} {s : String}
  {field : FieldPath}

theorem outcome_follow_of_sheet_none {path : FieldPath} {spec : String} {t : Target}
    (hlimit : 0 < r.maxDepth) (ht : Target.parse? spec = some t) (hs : w.sheet? t.sheet = none) :
    (r.follow w (r.deeperAt w r.maxDepth) path spec).outcome
      = .error (.unknownSheet t.sheet path) := by
  obtain ⟨depth, hdepth⟩ := Nat.exists_eq_add_of_lt hlimit
  rw [hdepth]
  have hl : locate w path t = .error (.unknownSheet t.sheet path) := by
    rw [locate, hs]
  simp [deeperAt, follow, ht, hl, Traced.outcome_bind]

/-- A row that is resolved by itself lacks a sheet at an empty field just when it does so in a
column without a name. -/
theorem resolveRow_emptyField_iff :
    (r.resolveRow w header row).outcome = .error (.unknownSheet s field) ∧ field.text = "" ↔
      field = [""] ∧ ∃ p : Place header row, p.LacksUnnamed r w s := by
  constructor
  · rintro ⟨h, hempty⟩
    obtain ⟨path, rows, last, hwalk, hfail⟩ := exists_walk_of_resolve (Nat.zero_add _) h rfl
    obtain rfl : field = path := Option.some.inj hfail.field?_eq
    obtain rfl : field = [""] :=
      (FieldPath.text_eq_empty_iff.1 hempty).resolve_left hwalk.path_ne_nil
    obtain ⟨p, hp, hsegments, rfl, rfl⟩ := hwalk.exists_place
    obtain ⟨hcolumn, hposition⟩ := Place.segments_eq_singleton_iff.1 hsegments
    obtain ⟨hlimit, hsheet⟩ := hfail.lacks_of_unknownSheet
    exact ⟨rfl, p, hp, hcolumn, hposition, hlimit, hsheet⟩
  · rintro ⟨rfl, p, hp⟩
    obtain ⟨t, ht, rfl, hs⟩ := hp.sheet
    have hsegments : p.segments = [""] :=
      Place.segments_eq_singleton_iff.2 ⟨hp.column, hp.position⟩
    refine ⟨resolve_eq_error_iff.2 (.inr ⟨p, hp.first, ?_⟩), rfl⟩
    rw [hsegments]
    exact outcome_follow_of_sheet_none hp.limit ht hs

end Row

section Sheet

variable (r : Resolver) (w : Workbook)

theorem sheetLeniently_emptyField_iff {name s : String} {field : FieldPath} :
    (r.sheetLeniently w name).outcome = .error (.unknownSheet s field) ∧ field.text = "" ↔
      w.sheet? name = none ∧ s = name ∧ field = [] := by
  rw [sheetLeniently_eq_error_iff]
  constructor
  · rintro ⟨⟨hnone, he⟩, -⟩
    obtain ⟨rfl, rfl⟩ := ResolutionFailure.unknownSheet.inj he
    exact ⟨hnone, rfl, rfl⟩
  · rintro ⟨hnone, rfl, rfl⟩
    exact ⟨⟨hnone, rfl⟩, rfl⟩

/-- No row that is skipped has a failure with an empty field. -/
theorem text_ne_empty_of_mem_skipped {name : String} {m : Materialized}
    (h : (r.sheetLeniently w name).outcome = .ok m) {index : Nat} {e : ResolutionFailure}
    (he : (index, e) ∈ m.skipped) {field : FieldPath} (hfield : e.field? = some field) :
    field.text ≠ "" := by
  obtain ⟨d, -, -, hd⟩ := exists_dataRow_of_skipped h he
  exact text_ne_empty_of_resolveDataRow hd hfield

end Sheet

/-- For a sheet, read strictly or leniently, a failure for want of a sheet has an empty field just
when it is the sheet that was asked for, and no row that is skipped has such a failure. A row that
is resolved by itself has one just when a reference of its own, in a column without a name, is the
first that fails and is to a sheet that there is not. -/
theorem unknownSheet_emptyField_iff (r : Resolver) (w : Workbook) (s : String)
    (field : FieldPath) :
    (∀ header row,
        (r.resolveRow w header row).outcome = .error (.unknownSheet s field) ∧ field.text = "" ↔
          field = [""] ∧ ∃ p : Place header row, p.LacksUnnamed r w s)
      ∧ (∀ name,
        (r.sheet w name).outcome = .error (.unknownSheet s field) ∧ field.text = "" ↔
          w.sheet? name = none ∧ s = name ∧ field = [])
      ∧ (∀ name,
        (r.sheetLeniently w name).outcome = .error (.unknownSheet s field) ∧ field.text = "" ↔
          w.sheet? name = none ∧ s = name ∧ field = [])
      ∧ ∀ name m index, (r.sheetLeniently w name).outcome = .ok m →
        (index, .unknownSheet s field) ∈ m.skipped → field.text ≠ "" :=
  ⟨fun _ _ => resolveRow_emptyField_iff, fun _ => sheet_emptyField_iff r w,
    fun _ => sheetLeniently_emptyField_iff r w,
    fun _ _ _ h he => text_ne_empty_of_mem_skipped r w h he rfl⟩

section Unnamed

/-- The row has one cell, in a column without a name, and it refers to a sheet that there is not. -/
theorem unknownSheet_emptyField_iff_unnamed :
    (resolveRow ⟨.verbatim, 64⟩ .empty [""] ["reference:missing@zip#1"]).outcome
        = .error (.unknownSheet "missing" [""])
      ∧ ∃ p : Place [""] ["reference:missing@zip#1"],
        p.LacksUnnamed ⟨.verbatim, 64⟩ .empty "missing" := by
  have h : (resolveRow ⟨.verbatim, 64⟩ .empty [""] ["reference:missing@zip#1"]).outcome
      = .error (.unknownSheet "missing" [""]) := rfl
  obtain ⟨hrow, -⟩ := unknownSheet_emptyField_iff ⟨.verbatim, 64⟩ .empty "missing" [""]
  exact ⟨h, ((hrow _ _).1 ⟨h, rfl⟩).2⟩

/-- What is told of that row is what is told where the sheet was asked for. -/
theorem unnamed_column_emptyField :
    (resolveRow ⟨.verbatim, 64⟩ .empty [""] ["reference:missing@zip#1"]).outcome
        = .error (.unknownSheet "missing" [""])
      ∧ FieldPath.text [""] = ""
      ∧ (sheet ⟨.verbatim, 64⟩ .empty "missing").outcome = .error (.unknownSheet "missing" [])
      ∧ (ResolutionFailure.unknownSheet "missing" [""]).message
        = (ResolutionFailure.unknownSheet "missing" []).message :=
  ⟨rfl, rfl, rfl, rfl⟩

end Unnamed

end Resolver

end LinkedSheets
