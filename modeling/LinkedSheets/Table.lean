/-!
# Tables

A table is a list of named values in the order of their names, each name there once. `ofList` makes
one of any list of named values: of repeated names the last one counts.
-/

namespace LinkedSheets.Table

variable {α : Type}

/-- Puts a value into a table, in place of one of the same name. -/
def insert (name : String) (value : α) : List (String × α) → List (String × α)
  | [] => [(name, value)]
  | (other, old) :: rest =>
    if name < other then (name, value) :: (other, old) :: rest
    else if name = other then (name, value) :: rest
    else (other, old) :: insert name value rest

def ofList (entries : List (String × α)) : List (String × α) :=
  entries.foldl (fun table (name, value) => insert name value table) []

section Lookup

theorem lookup_cons_eq_ite (name : String) (value : α) (rest : List (String × α)) (key : String) :
    ((name, value) :: rest).lookup key = if key = name then some value else rest.lookup key := by
  rw [List.lookup_cons]
  by_cases h : key = name
  · simp [h]
  · simp [h, beq_eq_false_iff_ne.2 h]

theorem lookup_map {β : Type} (f : α → β) (key : String) : ∀ entries : List (String × α),
    (entries.map fun entry => (entry.1, f entry.2)).lookup key = (entries.lookup key).map f
  | [] => rfl
  | (name, value) :: entries => by
    rw [List.map_cons, lookup_cons_eq_ite, lookup_cons_eq_ite, lookup_map f key entries]
    split <;> rfl

theorem lookup_insert (name : String) (value : α) (key : String) :
    ∀ table : List (String × α), (insert name value table).lookup key
      = if key = name then some value else table.lookup key
  | [] => lookup_cons_eq_ite name value [] key
  | (other, old) :: rest => by
    rw [insert]
    split
    · exact lookup_cons_eq_ite name value _ key
    split
    · rename_i heq
      subst heq
      rw [lookup_cons_eq_ite, lookup_cons_eq_ite]
      split <;> rfl
    · rename_i hne
      rw [lookup_cons_eq_ite, lookup_cons_eq_ite, lookup_insert name value key rest]
      by_cases h : key = other
      · have hname : key ≠ name := fun hk => hne (hk ▸ h)
        rw [if_pos h, if_neg hname, if_pos h]
      · rw [if_neg h, if_neg h]

/-- The last of repeated names counts. -/
theorem lookup_ofList (entries : List (String × α)) (key : String) :
    (ofList entries).lookup key = entries.reverse.lookup key := by
  have hfold : ∀ entries table : List (String × α),
      (entries.foldl (fun table (name, value) => insert name value table) table).lookup key
        = (entries.reverse.lookup key).or (table.lookup key) := by
    intro entries
    induction entries with
    | nil => simp
    | cons entry entries ih =>
      intro table
      rw [List.foldl_cons, ih, lookup_insert, List.reverse_cons, List.lookup_append,
        Option.or_assoc, lookup_cons_eq_ite]
      congr 1
      split <;> rfl
  rw [ofList, hfold, List.lookup_nil, Option.or_none]

end Lookup

section Sorted

theorem mem_insert {name : String} {value : α} {entry : String × α} :
    ∀ {table : List (String × α)}, entry ∈ insert name value table →
      entry = (name, value) ∨ entry ∈ table
  | [], h => by simpa [insert] using h
  | (other, old) :: rest, h => by
    rw [insert] at h
    split at h
    · simpa using h
    split at h
    · exact (List.mem_cons.1 h).imp_right (List.mem_cons_of_mem _)
    · rcases List.mem_cons.1 h with h | h
      · exact .inr (h ▸ List.mem_cons_self)
      · exact (mem_insert h).imp_right (List.mem_cons_of_mem _)

theorem pairwise_insert (name : String) (value : α) : ∀ {table : List (String × α)},
    table.Pairwise (·.1 < ·.1) → (insert name value table).Pairwise (·.1 < ·.1)
  | [], _ => List.pairwise_singleton _ _
  | (other, old) :: rest, h => by
    obtain ⟨hother, hrest⟩ := List.pairwise_cons.1 h
    rw [insert]
    split
    · rename_i hlt
      refine List.pairwise_cons.2 ⟨fun entry he => ?_, h⟩
      rcases List.mem_cons.1 he with rfl | he
      · exact hlt
      · exact String.lt_trans hlt (hother entry he)
    split
    · rename_i heq
      exact List.pairwise_cons.2 ⟨fun entry he => heq ▸ hother entry he, hrest⟩
    · rename_i hlt hne
      refine List.pairwise_cons.2 ⟨fun entry he => ?_, pairwise_insert name value hrest⟩
      rcases mem_insert he with rfl | he
      · have hle := String.not_lt.1 hlt
        exact Decidable.byContradiction fun hge =>
          hne (String.le_antisymm (String.not_lt.1 hge) hle)
      · exact hother entry he

/-- The names are in order, each there once. -/
theorem pairwise_ofList (entries : List (String × α)) :
    (ofList entries).Pairwise (·.1 < ·.1) := by
  have hfold : ∀ entries table : List (String × α), table.Pairwise (·.1 < ·.1) →
      (entries.foldl (fun table (name, value) => insert name value table) table).Pairwise
        (·.1 < ·.1) := by
    intro entries
    induction entries with
    | nil => exact fun table h => h
    | cons entry entries ih => exact fun table h => ih _ (pairwise_insert entry.1 entry.2 h)
  exact hfold entries [] .nil

end Sorted

end LinkedSheets.Table
