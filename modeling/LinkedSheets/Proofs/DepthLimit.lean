import LinkedSheets.Proofs.RowOutcome

/-!
# Raising the depth limit

Two resolvers that differ in their limits only are compared step by step. With the lower limit a
specifier is refused before its sheet is looked for, and after it is taken apart, so whatever else
would fail first fails first with both (`resolve_sameUnless`). A higher limit therefore takes away
failures for depth, and changes nothing else.
-/

namespace LinkedSheets

namespace Resolver

variable {keys : KeyNaming} (w : Workbook) {limit limit' : Nat}

/-- A failure for depth, with the limit. -/
def IsTooDeep (limit : Nat) (e : ResolutionFailure) : Prop :=
  ∃ field, e = .tooDeep limit field

theorem follow_none_sameUnless (deeper : Option RowReader) (path : FieldPath) (spec : String) :
    SameUnless (IsTooDeep limit) (follow ⟨keys, limit⟩ w none path spec).outcome
      (follow ⟨keys, limit'⟩ w deeper path spec).outcome := by
  rcases ht : Target.parse? spec with _ | t
  · simp only [follow, ht]
    exact .refl _
  · simp only [follow, ht]
    exact .inr ⟨_, ⟨path, rfl⟩, rfl⟩

theorem follow_some_sameUnless {next next' : RowReader}
    (h : ∀ path header row, SameUnless (IsTooDeep limit) (next path header row).outcome
      (next' path header row).outcome) (path : FieldPath) (spec : String) :
    SameUnless (IsTooDeep limit) (follow ⟨keys, limit⟩ w (some next) path spec).outcome
      (follow ⟨keys, limit'⟩ w (some next') path spec).outcome := by
  rcases ht : Target.parse? spec with _ | t
  · simp only [follow, ht]
    exact .refl _
  · simp only [follow, ht, Traced.outcome_bind, Traced.outcome_ofExcept]
    refine .bind (.refl _) fun (sheet, row) => ?_
    simp only [Traced.outcome_emit]
    exact h path sheet.header row

/-- At its limit the first one refuses every target, whatever the second one makes of it. -/
theorem resolve_sameUnless : ∀ {depth depth' : Nat}, depth ≤ depth' → ∀ path header row,
    SameUnless (IsTooDeep limit) (resolve ⟨keys, limit⟩ w depth path header row).outcome
      (resolve ⟨keys, limit'⟩ w depth' path header row).outcome
  | 0, 0, _ => readRow_sameUnless rfl (follow_none_sameUnless w none)
  | 0, _ + 1, _ => readRow_sameUnless rfl (follow_none_sameUnless w _)
  | _ + 1, _ + 1, h =>
    readRow_sameUnless rfl
      (follow_some_sameUnless w (resolve_sameUnless (Nat.le_of_succ_le_succ h)))

theorem sheet_sameUnless (h : limit ≤ limit') (name : String) :
    SameUnless (IsTooDeep limit) (sheet ⟨keys, limit⟩ w name).outcome
      (sheet ⟨keys, limit'⟩ w name).outcome := by
  rcases hs : w.sheet? name with _ | s
  · rw [outcome_sheet_of_none _ _ hs, outcome_sheet_of_none _ _ hs]
    exact .refl _
  · rw [outcome_sheet _ _ hs, outcome_sheet _ _ hs]
    exact .mapM (fun _ => resolve_sameUnless w h _ _ _) _

theorem eq_or_tooDeep {α : Type} {x y : Except ResolutionFailure α}
    (h : SameUnless (IsTooDeep limit) x y) :
    x = y ∨ ∃ field, x = .error (.tooDeep limit field) := by
  rcases h with h | ⟨-, ⟨field, rfl⟩, h⟩
  · exact .inl h
  · exact .inr ⟨field, h⟩

/-- With a lower limit, a row and a sheet come to what they come to with a higher one, or they fail
for depth. -/
theorem outcome_of_limit_le (keys : KeyNaming) (w : Workbook) {limit limit' : Nat}
    (h : limit ≤ limit') :
    (∀ header row,
      (resolveRow ⟨keys, limit⟩ w header row).outcome
          = (resolveRow ⟨keys, limit'⟩ w header row).outcome
        ∨ ∃ field, (resolveRow ⟨keys, limit⟩ w header row).outcome = .error (.tooDeep limit field))
      ∧ ∀ name,
        (sheet ⟨keys, limit⟩ w name).outcome = (sheet ⟨keys, limit'⟩ w name).outcome
          ∨ ∃ field, (sheet ⟨keys, limit⟩ w name).outcome = .error (.tooDeep limit field) :=
  ⟨fun header row => eq_or_tooDeep (resolve_sameUnless w h [] header row),
    fun name => eq_or_tooDeep (sheet_sameUnless w h name)⟩

/-- Three rows in a line, the first of which needs two references. -/
def line : Workbook where
  sheets := [⟨"node", [["id", "next"], ["a", "reference:node@id#b"], ["b", "reference:node@id#c"],
    ["c", ""]]⟩]
  sorted := List.pairwise_singleton _ _

theorem outcome_of_limit_le_line :
    1 ≤ 2 ∧ ((sheet ⟨.verbatim, 1⟩ line "node").outcome = (sheet ⟨.verbatim, 2⟩ line "node").outcome
      ∨ ∃ field, (sheet ⟨.verbatim, 1⟩ line "node").outcome = .error (.tooDeep 1 field)) :=
  ⟨by decide, (outcome_of_limit_le .verbatim line (by decide)).2 "node"⟩

end Resolver

end LinkedSheets
