/-!
# Sequences that stop at the first failure

The rows of a sheet, the columns of a row and the specifiers of a list are all gone through by
`List.mapM` in `Except`. It succeeds with the results of all elements (`mapM_eq_ok_iff`), and it
fails as the first element that fails (`mapM_eq_error_iff`); where the elements are numbered, all
that have a lower number succeed (`mapM_ofFn_eq_error_iff`).

Where two computations come out the same but for some failures of the first one, which are excused,
so do sequences of them (`SameUnless.mapM`). This is how two resolvers are compared. Going on after
failures, and listing them, tells how the sequence that stops comes out (`mapM_eq_collect`).
-/

namespace LinkedSheets

variable {ε α β : Type}

section Except

@[simp] theorem ok_bind (a : α) (f : α → Except ε β) : (.ok a >>= f) = f a := rfl

@[simp] theorem error_bind (e : ε) (f : α → Except ε β) : (.error e >>= f) = .error e := rfl

@[simp] theorem map_ok (f : α → β) (a : α) : (f <$> (.ok a : Except ε α)) = .ok (f a) := rfl

@[simp] theorem map_error (f : α → β) (e : ε) : (f <$> (.error e : Except ε α)) = .error e := rfl

@[simp] theorem pure_eq_ok (a : α) : (pure a : Except ε α) = .ok a := rfl

theorem map_eq_ok_iff {f : α → β} {x : Except ε α} {b : β} :
    f <$> x = .ok b ↔ ∃ a, x = .ok a ∧ b = f a := by
  rcases x with e | a <;> simp [eq_comm]

theorem exceptMap_eq_ok_iff {f : α → β} {x : Except ε α} {b : β} :
    x.map f = .ok b ↔ ∃ a, x = .ok a ∧ b = f a :=
  map_eq_ok_iff

theorem map_eq_error_iff {f : α → β} {x : Except ε α} {e : ε} :
    f <$> x = .error e ↔ x = .error e := by
  rcases x with e' | a <;> simp

theorem bind_eq_ok_iff {x : Except ε α} {f : α → Except ε β} {b : β} :
    x >>= f = .ok b ↔ ∃ a, x = .ok a ∧ f a = .ok b := by
  rcases x with e | a <;> simp

theorem bind_eq_error_iff {x : Except ε α} {f : α → Except ε β} {e : ε} :
    x >>= f = .error e ↔ x = .error e ∨ ∃ a, x = .ok a ∧ f a = .error e := by
  rcases x with e' | a <;> simp

theorem mapError_eq_ok_iff {δ : Type} {g : ε → δ} {x : Except ε α} {a : α} :
    x.mapError g = .ok a ↔ x = .ok a := by
  rcases x with e | a'
  · exact ⟨nofun, nofun⟩
  · exact ⟨fun h => by cases h; rfl, fun h => by cases h; rfl⟩

theorem mapError_eq_error_iff {δ : Type} {g : ε → δ} {x : Except ε α} {e : δ} :
    x.mapError g = .error e ↔ ∃ e', x = .error e' ∧ g e' = e := by
  rcases x with e' | a
  · refine ⟨fun h => ⟨e', rfl, Except.error.inj h⟩, ?_⟩
    rintro ⟨e'', h, rfl⟩
    rw [Except.error.inj h]
    rfl
  · refine ⟨nofun, ?_⟩
    rintro ⟨e'', h, -⟩
    cases h

theorem mapError_bind {δ : Type} (g : ε → δ) (x : Except ε α) (f : α → Except ε β) :
    (x >>= f).mapError g = x.mapError g >>= fun a => (f a).mapError g := by
  rcases x with e | a <;> rfl

theorem mapError_map {δ : Type} (g : ε → δ) (f : α → β) (x : Except ε α) :
    (f <$> x).mapError g = f <$> x.mapError g := by
  rcases x with e | a <;> rfl

end Except

section Numbered

/-- To divide numbered elements at one of them is to choose a number. -/
theorem exists_ofFn_eq_append_iff {n : Nat} {g : Fin n → α} {P Q : α → Prop} :
    (∃ before x after, List.ofFn g = before ++ x :: after ∧ (∀ b ∈ before, P b) ∧ Q x) ↔
      ∃ i, (∀ j < i, P (g j)) ∧ Q (g i) := by
  constructor
  · rintro ⟨before, x, after, hl, hb, hx⟩
    have hlt : before.length < n := by
      have hlen := congrArg List.length hl
      simp only [List.length_ofFn, List.length_append, List.length_cons] at hlen
      omega
    have hget : ∀ j : Fin n, (before ++ x :: after)[j.val]? = some (g j) := by
      intro j
      rw [← hl]
      simp
    refine ⟨⟨before.length, hlt⟩, fun j hj => ?_, ?_⟩
    · have hj' := hget j
      rw [List.getElem?_append_left hj] at hj'
      exact hb _ (List.mem_of_getElem? hj')
    · have hi := hget ⟨before.length, hlt⟩
      simp only [Nat.le_refl, List.getElem?_append_right, Nat.sub_self, List.getElem?_cons_zero,
        Option.some.injEq] at hi
      rw [← hi]
      exact hx
  · rintro ⟨i, hb, hi⟩
    refine ⟨(List.ofFn g).take i, g i, (List.ofFn g).drop (i + 1), ?_, fun b hmem => ?_, hi⟩
    · have hlt : i.val < (List.ofFn g).length := by simp
      have hd := List.drop_eq_getElem_cons hlt
      rw [List.getElem_ofFn] at hd
      rw [← hd, List.take_append_drop]
    · obtain ⟨j, hj, rfl⟩ := List.mem_take_iff_getElem.1 hmem
      rw [List.getElem_ofFn]
      simp only [List.length_ofFn] at hj
      exact hb ⟨j, by omega⟩ (Fin.mk_lt_of_lt_val (by omega))

theorem zipIdx_eq_ofFn (xs : List α) :
    xs.zipIdx = List.ofFn fun i : Fin xs.length => (xs.get i, i.val) :=
  List.ext_getElem (by simp) fun i hi hi' => by simp

theorem zipIdx_ofFn {n : Nat} (f : Fin n → α) :
    (List.ofFn f).zipIdx = List.ofFn fun i => (f i, i.val) :=
  List.ext_getElem (by simp) fun i hi hi' => by simp

theorem flatMap_ofFn {n : Nat} (f : Fin n → α) (g : α → List β) :
    (List.ofFn f).flatMap g = (List.ofFn fun i => g (f i)).flatten := by
  rw [List.flatMap_def, List.map_ofFn]
  rfl

end Numbered

section Sequence

variable {f : α → Except ε β}

theorem mapM_eq_ok_iff : ∀ {xs : List α} {ys : List β},
    xs.mapM f = .ok ys ↔ xs.map f = ys.map .ok
  | [], ys => by cases ys <;> simp
  | x :: xs, ys => by
    rw [List.mapM_cons, List.map_cons]
    rcases hx : f x with e | y
    · cases ys <;> simp
    · rcases hxs : xs.mapM f with e | zs <;> cases ys <;> simp [← mapM_eq_ok_iff, hxs]

theorem exists_mapM_eq_ok_iff : ∀ xs : List α,
    (∃ ys, xs.mapM f = .ok ys) ↔ ∀ x ∈ xs, ∃ y, f x = .ok y
  | [] => by simp
  | x :: xs => by
    simp only [List.mapM_cons, bind_eq_ok_iff, pure_eq_ok, Except.ok.injEq, List.forall_mem_cons,
      ← exists_mapM_eq_ok_iff xs]
    constructor
    · rintro ⟨-, y, hy, ys, hys, -⟩
      exact ⟨⟨y, hy⟩, ys, hys⟩
    · rintro ⟨⟨y, hy⟩, ys, hys⟩
      exact ⟨y :: ys, y, hy, ys, hys, rfl⟩

theorem mapM_ofFn_eq_ok_iff {n : Nat} {g : Fin n → α} {ys : List β} :
    (List.ofFn g).mapM f = .ok ys ↔
      ∃ y : Fin n → β, ys = List.ofFn y ∧ ∀ i, f (g i) = .ok (y i) := by
  rw [mapM_eq_ok_iff, List.map_ofFn]
  constructor
  · intro h
    obtain rfl : ys.length = n := by simpa using (congrArg List.length h).symm
    refine ⟨fun i => ys[i], List.ofFn_getElem.symm, fun i => ?_⟩
    have hi := congrArg (·[i]?) h
    simpa using hi
  · rintro ⟨y, rfl, h⟩
    rw [List.map_ofFn]
    exact congrArg List.ofFn (funext h)

theorem exists_mem_of_mapM_eq_ok {xs : List α} {ys : List β} (h : xs.mapM f = .ok ys) {y : β}
    (hy : y ∈ ys) : ∃ x ∈ xs, f x = .ok y := by
  have hmem : (.ok y : Except ε β) ∈ xs.map f := by
    rw [mapM_eq_ok_iff.1 h]
    exact List.mem_map_of_mem hy
  exact List.mem_map.1 hmem

/-- Elements that come out as others do, with something done to what they come to, do so in a
sequence. -/
theorem mapM_eq_map_mapM {γ : Type} {f' : α → Except ε γ} {g : β → γ} : ∀ {xs : List α},
    (∀ x ∈ xs, f' x = g <$> f x) → xs.mapM f' = List.map g <$> xs.mapM f
  | [], _ => rfl
  | x :: xs, h => by
    obtain ⟨hx, hxs⟩ := List.forall_mem_cons.1 h
    rw [List.mapM_cons, List.mapM_cons, hx, mapM_eq_map_mapM hxs]
    rcases f x with e | y
    · rfl
    · rcases xs.mapM f with e | ys <;> rfl

theorem mapError_mapM {δ : Type} (g : ε → δ) : ∀ xs : List α,
    (xs.mapM f).mapError g = xs.mapM fun x => (f x).mapError g
  | [] => rfl
  | x :: xs => by
    simp only [List.mapM_cons, mapError_bind, mapError_mapM g xs]
    rfl

theorem mapM_flatten : ∀ xss : List (List α),
    xss.flatten.mapM f = List.flatten <$> xss.mapM (·.mapM f)
  | [] => rfl
  | xs :: xss => by
    rw [List.flatten_cons, List.mapM_append, List.mapM_cons, mapM_flatten xss]
    rcases xs.mapM f with e | ys
    · rfl
    · rcases hxss : xss.mapM (·.mapM f) with e | yss <;> simp [hxss]

/-- A sequence fails as the first of its elements that fails; all before it succeed. -/
theorem mapM_eq_error_iff {e : ε} : ∀ {xs : List α},
    xs.mapM f = .error e ↔ ∃ before x after, xs = before ++ x :: after
      ∧ (∀ b ∈ before, ∃ y, f b = .ok y) ∧ f x = .error e
  | [] => by simp
  | x :: xs => by
    rw [List.mapM_cons]
    constructor
    · intro h
      rcases hx : f x with e' | y
      · exact ⟨[], x, xs, rfl, by simp, by simpa [hx] using h⟩
      · rcases hxs : xs.mapM f with e' | zs
        · obtain rfl : e' = e := by simpa [hx, hxs] using h
          obtain ⟨before, z, after, rfl, hb, hz⟩ := mapM_eq_error_iff.1 hxs
          exact ⟨x :: before, z, after, rfl, List.forall_mem_cons.2 ⟨⟨y, hx⟩, hb⟩, hz⟩
        · simp [hx, hxs] at h
    · rintro ⟨before, z, after, hl, hb, hz⟩
      rcases before with _ | ⟨b, before⟩
      · obtain ⟨rfl, rfl⟩ := List.cons.inj hl
        simp [hz]
      · obtain ⟨rfl, rfl⟩ := List.cons.inj hl
        obtain ⟨⟨y, hy⟩, hb⟩ := List.forall_mem_cons.1 hb
        simp [hy, mapM_eq_error_iff.2 ⟨before, z, after, rfl, hb, hz⟩]

theorem mapM_ofFn_eq_error_iff {n : Nat} {g : Fin n → α} {e : ε} :
    (List.ofFn g).mapM f = .error e ↔
      ∃ i, (∀ j < i, ∃ y, f (g j) = .ok y) ∧ f (g i) = .error e :=
  mapM_eq_error_iff.trans exists_ofFn_eq_append_iff

end Sequence

section Collect

/-- What went wrong, if anything did. -/
def failure? : Except ε α → Option ε
  | .ok _ => none
  | .error e => some e

@[simp] theorem failure?_ok (a : α) : failure? (.ok a : Except ε α) = none := rfl

@[simp] theorem failure?_error (e : ε) : failure? (.error e : Except ε α) = some e := rfl

@[simp] theorem toOption_ok (a : α) : (.ok a : Except ε α).toOption = some a := rfl

@[simp] theorem toOption_error (e : ε) : (.error e : Except ε α).toOption = none := rfl

theorem failure?_eq_some_iff {x : Except ε α} {e : ε} : failure? x = some e ↔ x = .error e := by
  rcases x with e' | a <;> simp

theorem toOption_congr {x x' : Except ε α} (h : ∀ a, x = .ok a ↔ x' = .ok a) :
    x.toOption = x'.toOption := by
  rcases x with e | a
  · rcases x' with e' | a'
    · rfl
    · cases (h a').2 rfl
  · rw [(h a).1 rfl]

variable (f : α → Except ε β)

/-- A sequence that stops is one that goes on, as far as the first failure. -/
theorem mapM_eq_collect : ∀ xs : List α,
    xs.mapM f = match xs.filterMap fun x => failure? (f x) with
      | [] => .ok (xs.filterMap fun x => (f x).toOption)
      | e :: _ => .error e
  | [] => rfl
  | x :: xs => by
    rw [List.mapM_cons, mapM_eq_collect xs]
    rcases hx : f x with e | y
    · simp [hx]
    · rcases hxs : xs.filterMap fun x => failure? (f x) with _ | ⟨e, es⟩ <;>
        simp [hx, hxs]

theorem map_filter_eq_collect : ∀ xs : List α,
    (xs.filter fun x => (failure? (f x)).isNone).map f
      = (xs.filterMap fun x => (f x).toOption).map .ok
  | [] => rfl
  | x :: xs => by
    have ih := map_filter_eq_collect xs
    rcases hx : f x with e | y <;> simp [hx, ih]

theorem length_collect : ∀ xs : List α,
    (xs.filterMap fun x => (f x).toOption).length + (xs.filterMap fun x => failure? (f x)).length
      = xs.length
  | [] => rfl
  | x :: xs => by
    have ih := length_collect xs
    rcases hx : f x with e | y <;> simp [hx] <;> omega

end Collect

section SameUnless

/-- The two come out the same, or the first one fails with a failure that is excused. -/
def SameUnless (excused : ε → Prop) (x y : Except ε α) : Prop :=
  x = y ∨ ∃ e, excused e ∧ x = .error e

namespace SameUnless

variable {excused : ε → Prop}

theorem refl (x : Except ε α) : SameUnless excused x x :=
  .inl rfl

theorem bind {x y : Except ε α} {f g : α → Except ε β} (h : SameUnless excused x y)
    (hfg : ∀ a, SameUnless excused (f a) (g a)) : SameUnless excused (x >>= f) (y >>= g) := by
  rcases h with rfl | ⟨e, he, rfl⟩
  · rcases x with e | a
    · exact refl _
    · exact hfg a
  · exact .inr ⟨e, he, rfl⟩

theorem map {x y : Except ε α} (f : α → β) (h : SameUnless excused x y) :
    SameUnless excused (f <$> x) (f <$> y) := by
  rcases h with rfl | ⟨e, he, rfl⟩
  · exact refl _
  · exact .inr ⟨e, he, rfl⟩

theorem mapM {f g : α → Except ε β} (h : ∀ a, SameUnless excused (f a) (g a)) :
    ∀ xs : List α, SameUnless excused (xs.mapM f) (xs.mapM g)
  | [] => refl _
  | x :: xs => by
    rw [List.mapM_cons, List.mapM_cons]
    exact (h x).bind fun _ => (mapM h xs).bind fun _ => refl _

theorem eq_of_not_excused {x y : Except ε α} (h : SameUnless excused x y)
    (hx : ∀ e, x = .error e → ¬ excused e) : y = x := by
  rcases h with rfl | ⟨e, he, rfl⟩
  · rfl
  · exact absurd he (hx e rfl)

end SameUnless

end SameUnless

end LinkedSheets
