import LinkedSheets.Proofs.Followed
import Mathlib.Algebra.GroupWithZero.Nat
import Mathlib.Data.Finset.Card

/-!
# What the events of a sheet tell

A reference is told of before the row that it leads to is read, and a column that is dropped after
its cell has been read. So the references that are told of are those that are followed, in their
order, and there are as many collisions as there are columns with the name of an earlier one in all
rows that are read (`Accounts`), by induction on the depth (`exists_accounts_of_resolve`).
-/

namespace LinkedSheets

/-- The events that tell of a reference that is followed. -/
def followings (events : List Event) : List Event :=
  events.filter (·.message == "following reference")

/-- How many of the events tell of a column that is dropped. -/
def collisions (events : List Event) : Nat :=
  events.countP (·.message == "object key collision")

/-- How many columns have the name of an earlier one. -/
def repeats (header : List String) : Nat :=
  header.length - header.toFinset.card

theorem repeats_eq_zero_iff {header : List String} : repeats header = 0 ↔ header.Nodup := by
  have hle := header.toFinset_card_le
  have hnodup : header.toFinset.card = header.length ↔ header.Nodup :=
    Multiset.toFinset_card_eq_card_iff_nodup
  rw [← hnodup, repeats]
  omega

section Events

variable (events events' : List Event)

@[simp] theorem followings_nil : followings [] = [] := rfl

@[simp] theorem collisions_nil : collisions [] = 0 := rfl

@[simp] theorem followings_append :
    followings (events ++ events') = followings events ++ followings events' :=
  List.filter_append ..

@[simp] theorem collisions_append :
    collisions (events ++ events') = collisions events + collisions events' :=
  List.countP_append

theorem followings_cons_of_ne {event : Event} (h : event.message ≠ "following reference") :
    followings (event :: events) = followings events :=
  List.filter_cons_of_neg (by simpa using h)

theorem collisions_cons_of_ne {event : Event} (h : event.message ≠ "object key collision") :
    collisions (event :: events) = collisions events :=
  List.countP_cons_of_neg (by simpa using h)

@[simp] theorem followings_following (field : FieldPath) (target : Target) :
    followings (.following field target :: events)
      = .following field target :: followings events :=
  List.filter_cons_of_pos rfl

@[simp] theorem collisions_following (field : FieldPath) (target : Target) :
    collisions (.following field target :: events) = collisions events :=
  collisions_cons_of_ne _ (by simp [Event.message])

@[simp] theorem followings_keyCollision (key : String) (field : FieldPath) :
    followings (.keyCollision key field :: events) = followings events :=
  followings_cons_of_ne _ (by simp [Event.message])

@[simp] theorem collisions_keyCollision (key : String) (field : FieldPath) :
    collisions (.keyCollision key field :: events) = collisions events + 1 :=
  List.countP_cons_of_pos rfl

end Events

variable {w : Workbook}

namespace Followed

/-- The event that tells of the reference. -/
def event (f : Followed w) : Event :=
  .following f.field f.target

/-- How many columns are dropped from the row. -/
def dropped (f : Followed w) : Nat :=
  repeats f.row.sheet.header

end Followed

/-- The events tell of these references, and of so many dropped columns besides those of the rows
that the references lead to. -/
structure Accounts (own : Nat) (events : List Event) (below : List (Followed w)) : Prop where
  followings : followings events = below.map Followed.event
  collisions : collisions events = own + (below.map Followed.dropped).sum

theorem Accounts.flatten {own n : Nat} {events : Fin n → List Event}
    {below : Fin n → List (Followed w)} (h : ∀ i, Accounts own (events i) (below i)) :
    Accounts (n * own) (List.ofFn events).flatten (List.ofFn below).flatten := by
  induction n with
  | zero => exact ⟨rfl, by simp⟩
  | succ n ih =>
    have hrest := ih fun i => h i.succ
    rw [List.ofFn_succ, List.ofFn_succ, List.flatten_cons, List.flatten_cons]
    constructor
    · rw [followings_append, (h 0).followings, hrest.followings, List.map_append]
    · rw [collisions_append, (h 0).collisions, hrest.collisions, List.map_append, List.sum_append,
        Nat.succ_mul]
      omega

/-- A computation of two parts that succeeds has the events of both. -/
theorem Traced.of_bind_eq_ok {ε α β : Type} {t : Traced ε α} {f : α → Traced ε β} {b : β}
    (h : (t >>= f).outcome = .ok b) : ∃ a, t.outcome = .ok a ∧ (f a).outcome = .ok b
      ∧ (t >>= f).events = t.events ++ (f a).events := by
  rw [Traced.outcome_bind, bind_eq_ok_iff] at h
  obtain ⟨a, ha, hb⟩ := h
  exact ⟨a, ha, hb, Traced.events_bind_of_ok ha f⟩

namespace Resolver

section Steps

variable {r : Resolver} {deeper : Option RowReader} {path : FieldPath}

theorem events_follow {next : RowReader} {spec : String} {v : Value}
    (h : (r.follow w (some next) path spec).outcome = .ok v) :
    ∃ (t : Target) (d : DataRow w), Target.parse? spec = some t ∧ Selects spec d
      ∧ (next path d.sheet.header d.row).outcome = .ok v
      ∧ (r.follow w (some next) path spec).events
        = .following path t :: (next path d.sheet.header d.row).events := by
  obtain ⟨d, hd, hv⟩ := (follow_eq_ok_iff r path).1 h
  obtain ⟨t, ht, hs, hr⟩ := hd
  have hl : locate w path t = .ok (d.sheet, d.row) := locate_eq_ok_iff.2 ⟨d, hs, hr, rfl, rfl⟩
  refine ⟨t, d, ht, ⟨t, ht, hs, hr⟩, hv, ?_⟩
  simp only [follow, ht, hl, Traced.ofExcept_ok_bind,
    Traced.events_bind_of_ok (Traced.outcome_emit _), Traced.events_emit]
  rfl

theorem events_followAll {position : Nat} {specs : List String} {vs : List Value}
    (h : (r.followAll w deeper path position specs).outcome = .ok vs) :
    (r.followAll w deeper path position specs).events
      = (specs.zipIdx position).flatMap fun p =>
          (r.follow w deeper (path ++ [p.2.repr]) p.1).events := by
  induction specs generalizing position vs with
  | nil => rfl
  | cons spec specs ih =>
    rw [followAll] at h ⊢
    obtain ⟨v, -, h, hevents⟩ := Traced.of_bind_eq_ok h
    obtain ⟨vs, hvs, -, hrest⟩ := Traced.of_bind_eq_ok h
    rw [hevents, hrest, Traced.events_pure, List.append_nil, ih hvs, List.zipIdx_cons,
      List.flatMap_cons]

/-- Columns are read one after the other. One whose key is taken is read too, and then told of. -/
theorem readFields_cons_eq_ok {taken : List String} {column text : String}
    {columns : List (String × String)} {fields : List (String × Value)}
    (h : (r.readFields w deeper path taken ((column, text) :: columns)).outcome = .ok fields) :
    ∃ key, (key ∈ taken
        ∧ (r.readFields w deeper path taken columns).outcome = .ok fields
        ∧ (r.readFields w deeper path taken ((column, text) :: columns)).events
          = (r.readCell w deeper (path ++ [column]) (.classify text)).events
            ++ .keyCollision key (path ++ [column])
              :: (r.readFields w deeper path taken columns).events)
      ∨ (key ∉ taken ∧ ∃ value fields', fields = (key, value) :: fields'
        ∧ (r.readFields w deeper path (key :: taken) columns).outcome = .ok fields'
        ∧ (r.readFields w deeper path taken ((column, text) :: columns)).events
          = (r.readCell w deeper (path ++ [column]) (.classify text)).events
            ++ (r.readFields w deeper path (key :: taken) columns).events) := by
  rw [readFields] at h ⊢
  obtain ⟨key, -, h, hevents⟩ := Traced.of_bind_eq_ok h
  obtain ⟨value, -, h, hcell⟩ := Traced.of_bind_eq_ok h
  rw [hevents, hcell, Traced.events_ofExcept, List.nil_append]
  refine ⟨key, ?_⟩
  by_cases hmem : key ∈ taken
  · rw [if_pos (List.contains_iff_mem.2 hmem)] at h ⊢
    exact .inl ⟨hmem, h, rfl⟩
  · rw [if_neg (mt List.contains_iff_mem.1 hmem)] at h ⊢
    obtain ⟨fields', hfields, h, hrest⟩ := Traced.of_bind_eq_ok h
    rw [hrest, Traced.events_pure, List.append_nil]
    exact .inr ⟨hmem, value, fields', (Except.ok.inj h).symm, hfields, rfl⟩

/-- The events of the columns are those of their cells and, besides, a collision for each column
that is not kept. -/
theorem events_readFields {taken : List String} {columns : List (String × String)}
    {fields : List (String × Value)}
    (h : (r.readFields w deeper path taken columns).outcome = .ok fields) :
    followings (r.readFields w deeper path taken columns).events
        = followings (columns.flatMap fun c =>
            (r.readCell w deeper (path ++ [c.1]) (.classify c.2)).events)
      ∧ collisions (r.readFields w deeper path taken columns).events + fields.length
        = collisions (columns.flatMap fun c =>
            (r.readCell w deeper (path ++ [c.1]) (.classify c.2)).events) + columns.length := by
  induction columns generalizing taken fields with
  | nil =>
    obtain rfl := Except.ok.inj h
    exact ⟨rfl, rfl⟩
  | cons c columns ih =>
    obtain ⟨column, text⟩ := c
    rw [List.flatMap_cons]
    obtain ⟨key, ⟨-, hrest, hevents⟩ | ⟨-, value, fields', rfl, hrest, hevents⟩⟩ :=
      readFields_cons_eq_ok h
    · obtain ⟨hfollowings, hcollisions⟩ := ih hrest
      rw [hevents]
      constructor
      · simp [hfollowings]
      · simp only [collisions_append, collisions_keyCollision, List.length_cons]
        omega
    · obtain ⟨hfollowings, hcollisions⟩ := ih hrest
      rw [hevents]
      constructor
      · simp [hfollowings]
      · simp only [collisions_append, List.length_cons]
        omega

/-- With names for keys, one column of each name is kept. -/
theorem of_readFields_eq_ok {limit : Nat} {header : List String} {row : Row}
    {fields : List (String × Value)}
    (h : (readFields ⟨.verbatim, limit⟩ w deeper path [] (Row.against header row)).outcome
      = .ok fields) :
    fields.length = header.toFinset.card
      ∧ ∀ i : Fin header.length, ∃ v, (readCell ⟨.verbatim, limit⟩ w deeper (path ++ [header.get i])
        (.classify (row.cell i))).outcome = .ok v := by
  rw [outcome_readFields, map_eq_ok_iff, Row.against_eq_ofFn] at h
  obtain ⟨_, hcolumns, rfl⟩ := h
  obtain ⟨column, rfl, hcolumn⟩ := mapM_ofFn_eq_ok_iff.1 hcolumns
  have hread := fun i => readColumn_eq_ok_iff.1 (hcolumn i)
  have hkeys : (fun i => (column i).1) = header.get :=
    funext fun i => (Option.some.inj (hread i).1).symm
  refine ⟨?_, fun i => ⟨_, (hread i).2⟩⟩
  have hnames : (List.ofFn column).map (·.1) = header := by
    rw [List.map_ofFn, Function.comp_def, hkeys, List.ofFn_get]
  rw [← List.length_map (·.1), ← List.toFinset_card_of_nodup (nodup_untaken [] _), map_fst_untaken,
    hnames]
  congr 1
  ext name
  simp

end Steps

section Rows

variable {limit : Nat} {deeper : Option RowReader}

section Step

variable (hfollow : ∀ {path spec v},
  (follow ⟨.verbatim, limit⟩ w deeper path spec).outcome = .ok v → ∃ below,
    SpecFollows w path spec below
      ∧ Accounts 0 (follow ⟨.verbatim, limit⟩ w deeper path spec).events below)
include hfollow

theorem exists_accounts_of_readCell {path : FieldPath} {cell : Cell} {v : Value}
    (h : (readCell ⟨.verbatim, limit⟩ w deeper path cell).outcome = .ok v) :
    ∃ below, CellFollows w path cell below
      ∧ Accounts 0 (readCell ⟨.verbatim, limit⟩ w deeper path cell).events below := by
  cases cell with
  | scalar text => exact ⟨[], .scalar text, rfl, rfl⟩
  | reference spec =>
    obtain ⟨below, hbelow, haccounts⟩ := hfollow h
    exact ⟨below, .reference hbelow, haccounts⟩
  | references specs =>
    rw [readCell] at h ⊢
    obtain ⟨vs, hvs, -, hevents⟩ := Traced.of_bind_eq_ok h
    have hvalues := hvs
    rw [outcome_followAll, zipIdx_eq_ofFn, mapM_ofFn_eq_ok_iff] at hvalues
    obtain ⟨value, -, hvalue⟩ := hvalues
    choose below hbelow haccounts using fun i => hfollow (hvalue i)
    refine ⟨_, .references below hbelow, ?_⟩
    rw [hevents, Traced.events_pure, List.append_nil, events_followAll hvs, zipIdx_eq_ofFn,
      flatMap_ofFn]
    exact .flatten haccounts

theorem exists_accounts_of_readRow {path : FieldPath} {header : List String} {row : Row}
    {v : Value} (h : (readRow ⟨.verbatim, limit⟩ w deeper path header row).outcome = .ok v) :
    ∃ below, RowFollows w path header row below
      ∧ Accounts (repeats header) (readRow ⟨.verbatim, limit⟩ w deeper path header row).events
        below := by
  rw [readRow] at h ⊢
  obtain ⟨fields, hfields, -, hevents⟩ := Traced.of_bind_eq_ok h
  obtain ⟨hkept, hcells⟩ := of_readFields_eq_ok hfields
  choose value hvalue using hcells
  choose below hbelow haccounts using fun i => exists_accounts_of_readCell hfollow (hvalue i)
  obtain ⟨hfollowings, hcollisions⟩ := events_readFields hfields
  rw [Row.against_eq_ofFn, flatMap_ofFn] at hfollowings hcollisions
  have hall := Accounts.flatten haccounts
  have hle := header.toFinset_card_le
  refine ⟨_, .columns below hbelow, ?_⟩
  rw [hevents, Traced.events_pure, List.append_nil, Row.against_eq_ofFn]
  constructor
  · rw [hfollowings, hall.followings]
  · rw [hall.collisions, hkept, List.length_ofFn] at hcollisions
    rw [repeats]
    omega

end Step

theorem exists_accounts_of_resolve : ∀ {depth : Nat} {path : FieldPath} {header : List String}
    {row : Row} {v : Value},
    (resolve ⟨.verbatim, limit⟩ w depth path header row).outcome = .ok v →
      ∃ below, RowFollows w path header row below ∧ Accounts (repeats header)
        (resolve ⟨.verbatim, limit⟩ w depth path header row).events below
  | 0, _, _, _, _, h => exists_accounts_of_readRow (fun h => absurd h (follow_none_ne_ok _ _)) h
  | depth + 1, _, _, _, _, h => by
    refine exists_accounts_of_readRow (fun h => ?_) h
    obtain ⟨t, d, ht, hd, hv, hevents⟩ := events_follow h
    obtain ⟨below, hbelow, haccounts⟩ := exists_accounts_of_resolve hv
    refine ⟨_, .follow t ht d hd hbelow, ?_⟩
    rw [hevents]
    constructor
    · rw [followings_following, haccounts.followings]
      rfl
    · rw [collisions_following, haccounts.collisions, Nat.zero_add, List.map_cons, List.sum_cons]
      rfl

end Rows

section Sheet

variable {r : Resolver} {sheet : Sheet} {vs : List Value}

theorem events_readRows {rows : List (Row × Nat)} (h : (r.readRows w sheet rows).outcome = .ok vs) :
    (r.readRows w sheet rows).events
      = rows.flatMap fun p => (r.resolveDataRow w sheet p.2 p.1).events := by
  induction rows generalizing vs with
  | nil => rfl
  | cons p rows ih =>
    obtain ⟨row, index⟩ := p
    rw [readRows] at h ⊢
    obtain ⟨v, -, h, hevents⟩ := Traced.of_bind_eq_ok h
    obtain ⟨vs, hvs, -, hrest⟩ := Traced.of_bind_eq_ok h
    rw [hevents, hrest, Traced.events_pure, List.append_nil, ih hvs, List.flatMap_cons]

theorem events_sheet {name : String} (hs : w.sheet? name = some sheet)
    (h : (r.sheet w name).outcome = .ok vs) :
    (r.sheet w name).events = .materializing name sheet.dataRows.length ::
      (sheet.dataRows.zipIdx.flatMap fun p => (r.resolveDataRow w sheet p.2 p.1).events)
        ++ [.materialized name none] := by
  have hrows : (r.readRows w sheet sheet.dataRows.zipIdx).outcome = .ok vs := by
    rw [outcome_readRows, ← outcome_sheet r w hs, h]
  rw [Resolver.sheet, openSheet_of_some hs, Traced.events_bind_of_ok rfl,
    Traced.events_bind_of_ok hrows, events_readRows hrows]
  rfl

theorem RowsResolve.exists_accounts {limit : Nat} {name : String}
    {value : Fin sheet.dataRows.length → Value}
    (h : RowsResolve ⟨.verbatim, limit⟩ w name sheet value) :
    ∃ followed, SheetFollows w sheet followed
      ∧ Accounts (sheet.dataRows.length * repeats sheet.header)
        (Resolver.sheet ⟨.verbatim, limit⟩ w name).events followed := by
  choose below hbelow haccounts using fun i => exists_accounts_of_resolve (h.row i)
  have hall := Accounts.flatten haccounts
  refine ⟨_, ⟨below, hbelow, rfl⟩, ?_⟩
  rw [events_sheet h.sheet_eq h.outcome, zipIdx_eq_ofFn, flatMap_ofFn]
  constructor
  · rw [List.cons_append, followings_cons_of_ne _ (by simp [Event.message]), followings_append,
      followings_cons_of_ne _ (by simp [Event.message]), followings_nil, List.append_nil]
    exact hall.followings
  · rw [List.cons_append, collisions_cons_of_ne _ (by simp [Event.message]), collisions_append,
      collisions_cons_of_ne _ (by simp [Event.message]), collisions_nil, Nat.add_zero]
    exact hall.collisions

/-- The log of a sheet accounts for every reference that was followed and for every column that was
dropped, in the rows of the sheet and in those that the references lead to. If no column was
dropped, the references stand where the objects are, below those of the rows themselves. -/
theorem sheet_accounts {limit : Nat} {name : String} {events : List Event}
    (h : Resolver.sheet ⟨.verbatim, limit⟩ w name = ⟨events, .ok vs⟩) :
    ∃ (sheet : Sheet) (followed : List (Followed w)), w.sheet? name = some sheet
      ∧ SheetFollows w sheet followed
      ∧ (∀ followed', SheetFollows w sheet followed' → followed' = followed)
      ∧ followings events = followed.map (fun f => .following f.field f.target)
      ∧ collisions events = sheet.dataRows.length * repeats sheet.header
        + (followed.map fun f => repeats f.row.sheet.header).sum
      ∧ (collisions events = 0 → (followings events).map (·.fields.lookup "field")
        = (vs.zipIdx.flatMap fun p => (p.1.objectsAt [name, p.2.repr]).tail).map
          fun path => some (.shown (".".intercalate path))) := by
  obtain ⟨sheet, value, hrows, rfl⟩ := outcome_sheet_eq_ok_iff.1 (congrArg Traced.outcome h)
  obtain rfl := name_of_sheet? hrows.sheet_eq
  obtain ⟨followed, hfollowed, hfollowings, hcollisions⟩ := hrows.exists_accounts
  have hvalue : ∀ i, RowValue .verbatim w limit sheet.header (sheet.dataRows.get i) (value i) :=
    fun i => (resolve_eq_ok_iff limit).1 (hrows.row i)
  rw [h] at hfollowings hcollisions
  refine ⟨sheet, followed, hrows.sheet_eq, hfollowed, fun followed' hother => ?_, hfollowings,
    hcollisions, fun hzero => ?_⟩
  · exact hother.unique hfollowed fun i => ⟨_, hvalue i⟩
  · rw [hzero] at hcollisions
    obtain ⟨hown, hbelow⟩ := Nat.add_eq_zero_iff.1 hcollisions.symm
    have hheader : sheet.dataRows ≠ [] → sheet.header.Nodup := by
      intro hne
      have hrepeats := (Nat.mul_eq_zero.1 hown).resolve_left (mt List.length_eq_zero_iff.1 hne)
      exact repeats_eq_zero_iff.1 hrepeats
    have hnone : NoneRepeated followed := by
      intro f hf
      have hdropped := List.sum_eq_zero_iff_forall_eq_nat.1 hbelow _ (List.mem_map_of_mem hf)
      exact repeats_eq_zero_iff.1 hdropped
    rw [← hfollowed.map_field hvalue hheader hnone, hfollowings, List.map_map, List.map_map]
    rfl

/-- The second item of an order is dropped, and the second mark of an item. -/
def markedItems : Workbook where
  sheets := [⟨"item", [["id", "mark", "mark"], ["1", "a", "b"]]⟩,
    ⟨"order", [["item", "item"], ["reference:item@id#1", "reference:item@id#1"]]⟩]
  sorted := by decide

/-- Both items lose a mark, the one that is dropped too. Where nothing is dropped, the references
are those to the owner and to the owner's telephones. -/
theorem sheet_accounts_orders :
    (∃ (sheet : Sheet) (followed : List (Followed markedItems)),
        SheetFollows markedItems sheet followed ∧ sheet.dataRows.length * repeats sheet.header
          + (followed.map fun f => repeats f.row.sheet.header).sum = 3)
      ∧ collisions (Resolver.sheet ⟨.verbatim, 2⟩ accounts "account").events = 0
      ∧ (followings (Resolver.sheet ⟨.verbatim, 2⟩ accounts "account").events).map
          (·.fields.lookup "field")
        = ["account.0.owner", "account.0.owner.phones.0", "account.0.owner.phones.1",
          "account.0.owner.phones.2"].map fun text => some (.shown text) := by
  have hdropped : collisions (Resolver.sheet ⟨.verbatim, 1⟩ markedItems "order").events = 3 := rfl
  have hnone : collisions (Resolver.sheet ⟨.verbatim, 2⟩ accounts "account").events = 0 := rfl
  have horders : Resolver.sheet ⟨.verbatim, 1⟩ markedItems "order" = ⟨_, .ok _⟩ := rfl
  have howner : Resolver.sheet ⟨.verbatim, 2⟩ accounts "account" = ⟨_, .ok [accountValue]⟩ := rfl
  obtain ⟨sheet, followed, -, hfollowed, -, -, hcount, -⟩ := sheet_accounts horders
  obtain ⟨-, -, -, -, -, -, -, hplaces⟩ := sheet_accounts howner
  exact ⟨⟨sheet, followed, hfollowed, hcount.symm.trans hdropped⟩, hnone, hplaces hnone⟩

end Sheet

end Resolver

end LinkedSheets
