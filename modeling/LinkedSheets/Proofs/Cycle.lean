import LinkedSheets.Proofs.DepthLimit
import LinkedSheets.Proofs.RowValue

/-!
# Rows that lead back to themselves

A row from which a cycle can be reached has chains of references of every length, and a row that
resolves has none longer than the limit, so it does not resolve. Where nothing else is wrong with
the rows that can be reached, a row fails for depth or not at all (`isTooDeep_of_healthy`), so
such a row fails for depth.
-/

namespace LinkedSheets

namespace DataRow

open Relation Resolver

variable {w : Workbook}

/-- Nothing is wrong with the row itself: every column has a key, and every specifier, as far as the
header goes, selects a row. -/
structure Healthy (keys : KeyNaming) (d : DataRow w) : Prop where
  key : ∀ i : Fin d.sheet.header.length,
    ∃ k, keys.key? (d.sheet.header.get i) (Cell.classify (d.row.cell i)).isReference = some k
  selects : ∀ i < d.sheet.header.length, ∀ spec ∈ (Cell.classify (d.row.cell i)).specs,
    ∃ e : DataRow w, Selects spec e

variable (r : Resolver)

theorem resolve_ne_ok_of_cycle {a c : DataRow w} (hac : ReflTransGen Points a c)
    (hc : TransGen Points c c) (depth : Nat) (path : FieldPath) (v : Value) :
    (r.resolve w depth path a.sheet.header a.row).outcome ≠ .ok v := by
  intro h
  obtain ⟨chain, hchain, hlen⟩ := exists_chain_of_reach hac (exists_chain_of_cycle hc (depth + 1))
  have := ((resolve_eq_ok_iff depth).1 h).chain_length_le hchain
  omega

variable {r}

/-- A healthy row fails as a specifier does that selects a row. -/
theorem Healthy.exists_follow_error {a : DataRow w} (ha : a.Healthy r.keys)
    {deeper : Option RowReader} {path : FieldPath} {e : ResolutionFailure}
    (h : (r.readRow w deeper path a.sheet.header a.row).outcome = .error e) :
    ∃ b : DataRow w, Points a b ∧ ∃ spec path', Selects spec b
      ∧ (r.follow w deeper path' spec).outcome = .error e := by
  obtain ⟨i, -, hi⟩ := readRow_eq_error_iff.1 h
  rcases readColumn_eq_error_iff.1 hi with hk | ⟨-, -, hcell⟩
  · obtain ⟨k, hk'⟩ := ha.key i
    rw [keyOf_eq_ok_iff.2 hk'] at hk
    simp at hk
  · obtain ⟨position, spec, hspec?, he, -⟩ := readCell_eq_error_iff.1 hcell
    have hspec := Cell.mem_specs_of_spec? hspec?
    obtain ⟨b, hb⟩ := ha.selects i i.isLt spec hspec
    exact ⟨b, ⟨i, i.isLt, spec, hspec, hb⟩, spec, _, hb, he⟩

theorem isTooDeep_of_healthy : ∀ {depth : Nat} {a : DataRow w} {path : FieldPath}
    {e : ResolutionFailure}, (∀ b, ReflTransGen Points a b → b.Healthy r.keys) →
      (r.resolve w depth path a.sheet.header a.row).outcome = .error e → IsTooDeep r.maxDepth e
  | 0, a, path, e, ha, h => by
    obtain ⟨b, -, spec, path', hb, he⟩ := (ha a .refl).exists_follow_error h
    rw [outcome_follow_none_of_selects r path' hb] at he
    exact ⟨path', by simpa using he.symm⟩
  | depth + 1, a, path, e, ha, h => by
    obtain ⟨b, hab, spec, path', hb, he⟩ := (ha a .refl).exists_follow_error h
    rw [outcome_follow_of_selects r path' hb] at he
    exact isTooDeep_of_healthy (fun c hbc => ha c (.head hab hbc)) he

variable (r)

theorem exists_tooDeep_of_cycle {a c : DataRow w} (hac : ReflTransGen Points a c)
    (hc : TransGen Points c c) (ha : ∀ b, ReflTransGen Points a b → b.Healthy r.keys)
    (depth : Nat) (path : FieldPath) :
    ∃ field, (r.resolve w depth path a.sheet.header a.row).outcome
      = .error (.tooDeep r.maxDepth field) := by
  rcases ho : (r.resolve w depth path a.sheet.header a.row).outcome with e | v
  · obtain ⟨field, rfl⟩ := isTooDeep_of_healthy ha ho
    exact ⟨field, rfl⟩
  · exact absurd ho (resolve_ne_ok_of_cycle r hac hc depth path v)

/-- A data row from which a cycle can be reached does not resolve, neither in its sheet nor by
itself. Where the rows that can be reached are healthy, it fails for depth. -/
theorem error_of_cycle {a c : DataRow w} (hac : ReflTransGen Points a c)
    (hc : TransGen Points c c) :
    (∀ v, (r.resolveDataRow w a.sheet a.index a.row).outcome ≠ .ok v)
      ∧ (∀ v, (r.resolveRow w a.sheet.header a.row).outcome ≠ .ok v)
      ∧ ((∀ b, ReflTransGen Points a b → b.Healthy r.keys) →
        (∃ field, (r.resolveDataRow w a.sheet a.index a.row).outcome
            = .error (.tooDeep r.maxDepth field))
          ∧ ∃ field, (r.resolveRow w a.sheet.header a.row).outcome
            = .error (.tooDeep r.maxDepth field)) :=
  ⟨resolve_ne_ok_of_cycle r hac hc _ _, resolve_ne_ok_of_cycle r hac hc _ _, fun ha =>
    ⟨exists_tooDeep_of_cycle r hac hc ha _ _, exists_tooDeep_of_cycle r hac hc ha _ _⟩⟩

section Loop

/-- A row that leads to a row of another sheet, which leads to itself. -/
def loop : Workbook where
  sheets := [⟨"node", [["id", "next"], ["a", "reference:node@id#a"]]⟩,
    ⟨"start", [["first"], ["reference:node@id#a"]]⟩]
  sorted := by decide

def loopNode : DataRow loop :=
  ⟨⟨"node", [["id", "next"], ["a", "reference:node@id#a"]]⟩, 0, ["a", "reference:node@id#a"],
    rfl, rfl⟩

def loopStart : DataRow loop :=
  ⟨⟨"start", [["first"], ["reference:node@id#a"]]⟩, 0, ["reference:node@id#a"], rfl, rfl⟩

theorem selects_loopNode : Selects "node@id#a" loopNode :=
  ⟨⟨"node", "id", "a"⟩, rfl, rfl, rfl⟩

theorem points_loopStart : Points loopStart loopNode :=
  ⟨0, by decide, "node@id#a", by decide, selects_loopNode⟩

theorem points_loopNode : Points loopNode loopNode :=
  ⟨1, by decide, "node@id#a", by decide, selects_loopNode⟩

theorem eq_of_mem_specs_loop {a : DataRow loop} (ha : a = loopStart ∨ a = loopNode) :
    ∀ i < a.sheet.header.length, ∀ spec ∈ (Cell.classify (a.row.cell i)).specs,
      spec = "node@id#a" := by
  rcases ha with rfl | rfl <;> decide

theorem eq_of_reach_loop {b : DataRow loop} (h : ReflTransGen Points loopStart b) :
    b = loopStart ∨ b = loopNode := by
  induction h with
  | refl => exact .inl rfl
  | tail _ hab ih =>
    obtain ⟨i, hi, spec, hspec, hb⟩ := hab
    obtain rfl := eq_of_mem_specs_loop ih i hi spec hspec
    exact .inr (hb.unique selects_loopNode)

theorem healthy_loop (b : DataRow loop) (h : ReflTransGen Points loopStart b) :
    b.Healthy .verbatim where
  key _ := ⟨_, rfl⟩
  selects i hi spec hspec := by
    obtain rfl := eq_of_mem_specs_loop (eq_of_reach_loop h) i hi spec hspec
    exact ⟨loopNode, selects_loopNode⟩

theorem error_of_cycle_loop :
    ReflTransGen Points loopStart loopNode ∧ TransGen Points loopNode loopNode
      ∧ (∀ b, ReflTransGen Points loopStart b → b.Healthy .verbatim)
      ∧ (∀ v, (resolveRow ⟨.verbatim, 64⟩ loop ["first"] ["reference:node@id#a"]).outcome ≠ .ok v)
      ∧ ∃ field, (resolveRow ⟨.verbatim, 64⟩ loop ["first"] ["reference:node@id#a"]).outcome
        = .error (.tooDeep 64 field) := by
  have h := error_of_cycle ⟨.verbatim, 64⟩ (.single points_loopStart) (.single points_loopNode)
  exact ⟨.single points_loopStart, .single points_loopNode, healthy_loop, h.2.1,
    (h.2.2 healthy_loop).2⟩

end Loop

end DataRow

end LinkedSheets
