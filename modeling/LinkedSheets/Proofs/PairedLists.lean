import LinkedSheets.Proofs.FirstFailure
import Mathlib.Data.List.Forall2
import Mathlib.Data.List.Perm.Basic

/-!
# Lists element by element

Two lists go together when they are equally long and each element of the one stands as it should to
the element of the other at its place. A sequence that does not fail goes together with its results
(`mapM_eq_ok_iff_forall₂`), and so it does in any other order (`exists_mapM_of_perm`).
-/

namespace LinkedSheets

variable {α β : Type} {R S : α → β → Prop}

theorem exists_right_of_forall₂ {xs : List α} {ys : List β} (h : List.Forall₂ R xs ys) {x : α}
    (hx : x ∈ xs) : ∃ y ∈ ys, R x y := by
  induction h with
  | nil => simp at hx
  | cons hxy _ ih =>
    rcases List.mem_cons.1 hx with rfl | hx
    · exact ⟨_, List.mem_cons_self, hxy⟩
    · obtain ⟨y, hy, hxy⟩ := ih hx
      exact ⟨y, List.mem_cons_of_mem _ hy, hxy⟩

theorem exists_left_of_forall₂ {xs : List α} {ys : List β} (h : List.Forall₂ R xs ys) {y : β}
    (hy : y ∈ ys) : ∃ x ∈ xs, R x y :=
  exists_right_of_forall₂ (R := flip R) (.flip h) hy

theorem exists_forall₂_of_forall_mem : ∀ {xs : List α}, (∀ x ∈ xs, ∃ y, R x y) →
    ∃ ys, List.Forall₂ R xs ys
  | [], _ => ⟨[], .nil⟩
  | x :: xs, h => by
    obtain ⟨⟨y, hy⟩, hxs⟩ := List.forall_mem_cons.1 h
    obtain ⟨ys, hys⟩ := exists_forall₂_of_forall_mem hxs
    exact ⟨y :: ys, .cons hy hys⟩

theorem forall₂_congr_of_mem : ∀ {xs : List α} {ys : List β},
    (∀ x ∈ xs, ∀ y, R x y ↔ S x y) → (List.Forall₂ R xs ys ↔ List.Forall₂ S xs ys)
  | [], ys, _ => by simp
  | x :: xs, [], _ => by simp
  | x :: xs, y :: ys, h => by
    obtain ⟨hx, hxs⟩ := List.forall_mem_cons.1 h
    rw [List.forall₂_cons, List.forall₂_cons, hx y, forall₂_congr_of_mem hxs]

theorem mapM_eq_ok_iff_forall₂ {ε : Type} {f : α → Except ε β} {xs : List α} {ys : List β} :
    xs.mapM f = .ok ys ↔ List.Forall₂ (fun x y => f x = .ok y) xs ys := by
  rw [mapM_eq_ok_iff, ← List.forall₂_eq_eq_eq, List.forall₂_map_left_iff,
    List.forall₂_map_right_iff]

/-- Elements in another order succeed with the same results in another order. -/
theorem exists_mapM_of_perm {ε : Type} {f : α → Except ε β} {xs xs' : List α} (h : xs.Perm xs')
    {ys : List β} (hys : xs.mapM f = .ok ys) : ∃ ys', xs'.mapM f = .ok ys' ∧ ys'.Perm ys := by
  obtain ⟨ys', hys'⟩ := (exists_mapM_eq_ok_iff (f := f) xs').2 fun x hx =>
    (exists_mapM_eq_ok_iff xs).1 ⟨ys, hys⟩ x (h.mem_iff.2 hx)
  have hmap := (h.map f).symm
  rw [mapM_eq_ok_iff.1 hys, mapM_eq_ok_iff.1 hys'] at hmap
  exact ⟨ys', hys', (List.map_perm_map_iff fun _ _ => Except.ok.inj).1 hmap⟩

end LinkedSheets
