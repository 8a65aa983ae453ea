import LinkedSheets.Proofs.RowOutcome
import LinkedSheets.Resolution.Typed
import Mathlib.Data.List.Forall2

/-!
# What a typed sheet comes to

A sheet is resolved as a whole before its rows are decoded one by one, so it comes to some data just
when it resolves and every value decodes, the data in the order of the rows
(`Resolver.parseBy_eq_ok_iff`). When it does not resolve, that is why it fails
(`Resolver.parseBy_eq_unresolved_iff`), and when it does, it fails as the first value that does not
decode, by the number of its row (`decodeRows_ofFn_eq_undecodable_iff`). All this holds of any way
to decode a value (`Resolver.parsesRows_parseBy`).
-/

namespace LinkedSheets

section Rows

variable {α : Type} {decode : Value → Except DecodeFailure α}

theorem decodeRows_eq_ok_iff : ∀ {row : Nat} {values : List Value}
    {ds : List α}, decodeRows decode row values = .ok ds ↔
      List.Forall₂ (fun v d => decode v = .ok d) values ds
  | row, [], ds => by simp [decodeRows, eq_comm]
  | row, v :: values, ds => by
    rw [decodeRows, List.forall₂_cons_left_iff]
    rcases decode v with e | d
    · simp
    simp only [exceptMap_eq_ok_iff, decodeRows_eq_ok_iff, Except.ok.injEq]
    constructor
    · rintro ⟨ds, hds, rfl⟩
      exact ⟨d, ds, rfl, hds, rfl⟩
    · rintro ⟨d, ds, rfl, hds, rfl⟩
      exact ⟨ds, hds, rfl⟩

theorem decodeRows_eq_mapM (row : Nat) (values : List Value) :
    decodeRows decode row values
      = (values.zipIdx row).mapM fun p => (decode p.1).mapError (.undecodable p.2) := by
  induction values generalizing row with
  | nil => rfl
  | cons v values ih =>
    rw [decodeRows, List.zipIdx_cons, List.mapM_cons, ← ih]
    rcases decode v with e | d <;> rfl

theorem decodeRows_ne_unresolved {values : List Value} {e : ResolutionFailure} :
    decodeRows decode 0 values ≠ .error (.unresolved e) := by
  rw [decodeRows_eq_mapM, ne_eq, mapM_eq_error_iff]
  simp only [mapError_eq_error_iff]
  rintro ⟨before, p, after, -, -, failure, -, h⟩
  cases h

section Numbered

variable {n : Nat} {value : Fin n → Value}

theorem decodeRows_ofFn :
    decodeRows decode 0 (List.ofFn value) = (List.ofFn fun i => (value i, i.val)).mapM
      fun p => (decode p.1).mapError (.undecodable p.2) := by
  rw [decodeRows_eq_mapM, zipIdx_ofFn]

theorem decodeRows_ofFn_eq_ok_iff {ds : List α} :
    decodeRows decode 0 (List.ofFn value) = .ok ds ↔
      ∃ datum : Fin n → α, ds = List.ofFn datum
        ∧ ∀ i, decode (value i) = .ok (datum i) := by
  rw [decodeRows_ofFn, mapM_ofFn_eq_ok_iff]
  simp only [mapError_eq_ok_iff]

/-- The first value that does not decode is reported, and no other one. -/
theorem decodeRows_ofFn_eq_undecodable_iff {index : Nat} {failure : DecodeFailure} :
    decodeRows decode 0 (List.ofFn value) = .error (.undecodable index failure) ↔
      ∃ i : Fin n, i.val = index ∧ decode (value i) = .error failure
        ∧ ∀ j < i, ∃ d, decode (value j) = .ok d := by
  rw [decodeRows_ofFn, mapM_ofFn_eq_error_iff]
  simp only [mapError_eq_ok_iff, mapError_eq_error_iff, ParseFailure.undecodable.injEq]
  constructor
  · rintro ⟨i, hbefore, failure, hi, rfl, rfl⟩
    exact ⟨i, rfl, hi, hbefore⟩
  · rintro ⟨i, rfl, hi, hbefore⟩
    exact ⟨i, hbefore, failure, hi, rfl, rfl⟩

end Numbered

end Rows

namespace Resolver

variable {α : Type} {decode : Value → Except DecodeFailure α} {r : Resolver} {w : Workbook}
  {name : String}

theorem parseBy_eq_ok_iff_decodeRows {ds : List α} :
    (r.parseBy w decode name).outcome = .ok ds ↔
      ∃ values, (r.sheet w name).outcome = .ok values ∧ decodeRows decode 0 values = .ok ds := by
  rw [parseBy, Traced.outcome_bind, bind_eq_ok_iff]
  exact exists_congr fun values => and_congr_left fun _ => mapError_eq_ok_iff

theorem parseBy_eq_ok_iff {ds : List α} : (r.parseBy w decode name).outcome = .ok ds ↔
    ∃ values, (r.sheet w name).outcome = .ok values
      ∧ List.Forall₂ (fun v d => decode v = .ok d) values ds := by
  simp only [parseBy_eq_ok_iff_decodeRows, decodeRows_eq_ok_iff]

theorem parseBy_eq_error_iff {e : ParseFailure} : (r.parseBy w decode name).outcome = .error e ↔
    (∃ e', (r.sheet w name).outcome = .error e' ∧ .unresolved e' = e)
      ∨ ∃ values, (r.sheet w name).outcome = .ok values
        ∧ decodeRows decode 0 values = .error e := by
  rw [parseBy, Traced.outcome_bind, bind_eq_error_iff]
  exact or_congr mapError_eq_error_iff
    (exists_congr fun values => and_congr_left fun _ => mapError_eq_ok_iff)

theorem parseBy_eq_unresolved_iff {e : ResolutionFailure} :
    (r.parseBy w decode name).outcome = .error (.unresolved e) ↔
      (r.sheet w name).outcome = .error e := by
  simp [parseBy_eq_error_iff, decodeRows_ne_unresolved]

theorem parseBy_eq_undecodable_iff {index : Nat} {failure : DecodeFailure} :
    (r.parseBy w decode name).outcome = .error (.undecodable index failure) ↔
      ∃ values, (r.sheet w name).outcome = .ok values
        ∧ decodeRows decode 0 values = .error (.undecodable index failure) := by
  simp [parseBy_eq_error_iff]

/-- A typed sheet comes to some data when it resolves and the value of every data row decodes, and
then to the data of the rows in their order. If it does not resolve, that is why it fails, whether
rows before would decode or not; else it fails as the first row that does not decode, by the number
of that row. -/
structure ParsesRows (r : Resolver) (w : Workbook) (name : String)
    (decode : Value → Except DecodeFailure α) (outcome : Except ParseFailure (List α)) : Prop where
  ok : ∀ ds, outcome = .ok ds ↔
    ∃ (sheet : Sheet) (value : Fin sheet.dataRows.length → Value)
        (datum : Fin sheet.dataRows.length → α),
      r.RowsResolve w name sheet value ∧ (∀ i, decode (value i) = .ok (datum i))
        ∧ ds = List.ofFn datum
  unresolved : ∀ e, outcome = .error (.unresolved e) ↔ (r.sheet w name).outcome = .error e
  undecodable : ∀ index failure, outcome = .error (.undecodable index failure) ↔
    ∃ (sheet : Sheet) (value : Fin sheet.dataRows.length → Value) (i : Fin sheet.dataRows.length),
      r.RowsResolve w name sheet value ∧ i.val = index ∧ decode (value i) = .error failure
        ∧ ∀ j < i, ∃ d, decode (value j) = .ok d

theorem parsesRows_parseBy (decode : Value → Except DecodeFailure α) :
    r.ParsesRows w name decode (r.parseBy w decode name).outcome where
  ok ds := by
    simp only [parseBy_eq_ok_iff_decodeRows, outcome_sheet_eq_ok_iff]
    constructor
    · rintro ⟨_, ⟨sheet, value, h, rfl⟩, hds⟩
      obtain ⟨datum, rfl, hd⟩ := decodeRows_ofFn_eq_ok_iff.1 hds
      exact ⟨sheet, value, datum, h, hd, rfl⟩
    · rintro ⟨sheet, value, datum, h, hd, rfl⟩
      exact ⟨_, ⟨sheet, value, h, rfl⟩, decodeRows_ofFn_eq_ok_iff.2 ⟨datum, rfl, hd⟩⟩
  unresolved e := parseBy_eq_unresolved_iff
  undecodable index failure := by
    simp only [parseBy_eq_undecodable_iff, outcome_sheet_eq_ok_iff]
    constructor
    · rintro ⟨_, ⟨sheet, value, h, rfl⟩, hfailure⟩
      obtain ⟨i, hi⟩ := decodeRows_ofFn_eq_undecodable_iff.1 hfailure
      exact ⟨sheet, value, i, h, hi⟩
    · rintro ⟨sheet, value, i, h, hi⟩
      exact ⟨_, ⟨sheet, value, h, rfl⟩, decodeRows_ofFn_eq_undecodable_iff.2 ⟨i, hi⟩⟩

end Resolver

end LinkedSheets
