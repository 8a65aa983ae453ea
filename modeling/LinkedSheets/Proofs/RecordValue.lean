import LinkedSheets.Proofs.PairedLists
import LinkedSheets.Proofs.Placed
import LinkedSheets.Schema.Decode
import Mathlib.Data.List.Nodup

/-!
# The value of a record

A record goes through the members of an object in their order and then through its own fields. What
comes out of it depends only on which members there are: no field may be there twice, those that are
there have to decode, and those that are not need a fallback (`RecordValue`). The order of the
members decides nothing but which failure is met first, and the order of the members that are left
over (`readMembers_eq_ok_iff`, `readRecord_eq_ok_iff`).
-/

namespace LinkedSheets

namespace Schema

variable {reading : Reading}

section Members

/-- The members that the record has a field for. -/
def ownMembers (fields : List (Field Schema)) (members : List (String × Part)) :
    List (String × Part) :=
  members.filter (·.1 ∈ fieldNames fields)

def otherMembers (fields : List (Field Schema)) (members : List (String × Part)) :
    List (String × Part) :=
  members.filter (·.1 ∉ fieldNames fields)

/-- What the field of a name makes of a part. -/
def FieldDecodes (reading : Reading) (whole : Schema) (fields : List (Field Schema)) (name : String)
    (part : Part) (d : Datum) : Prop :=
  ∃ field, fields.find? (·.name == name) = some field
    ∧ part.decode reading (unfold whole field.content) = .ok d

/-- The member is that field of the record, decoded. -/
def MemberDecodes (reading : Reading) (whole : Schema) (fields : List (Field Schema))
    (m : String × Part) (c : String × Datum) : Prop :=
  m.1 = c.1 ∧ FieldDecodes reading whole fields m.1 m.2 c.2

variable {whole : Schema} {strict : Bool} {fields : List (Field Schema)}

theorem find?_field_eq_none_iff {name : String} :
    fields.find? (·.name == name) = none ↔ name ∉ fieldNames fields := by
  simp [fieldNames]

section Cons

variable {name : String} (part : Part) (members : List (String × Part))

theorem ownMembers_cons_of_mem (h : name ∈ fieldNames fields) :
    ownMembers fields ((name, part) :: members) = (name, part) :: ownMembers fields members :=
  List.filter_cons_of_pos (by simpa using h)

theorem ownMembers_cons_of_not_mem (h : name ∉ fieldNames fields) :
    ownMembers fields ((name, part) :: members) = ownMembers fields members :=
  List.filter_cons_of_neg (by simpa using h)

theorem otherMembers_cons_of_mem (h : name ∈ fieldNames fields) :
    otherMembers fields ((name, part) :: members) = otherMembers fields members :=
  List.filter_cons_of_neg (by simpa using h)

theorem otherMembers_cons_of_not_mem (h : name ∉ fieldNames fields) :
    otherMembers fields ((name, part) :: members)
      = (name, part) :: otherMembers fields members :=
  List.filter_cons_of_pos (by simpa using h)

end Cons

theorem map_fst_ownMembers (members : List (String × Part)) :
    (ownMembers fields members).map (·.1)
      = (members.map (·.1)).filter (· ∈ fieldNames fields) := by
  rw [List.filter_map]
  rfl

theorem map_fst_otherMembers (members : List (String × Part)) :
    (otherMembers fields members).map (·.1)
      = (members.map (·.1)).filter (· ∉ fieldNames fields) := by
  rw [List.filter_map]
  rfl

/-- The members of an object are read when none is repeated or, if the record is strict, unknown,
and each of the record's own decodes; all others are kept as they are. -/
theorem readMembers_eq_ok_iff : ∀ {seen : List String} {members : List (String × Part)}
    {found : Members}, readMembers reading whole strict fields seen members = .ok found ↔
      (strict = true → otherMembers fields members = [])
        ∧ (∀ m ∈ ownMembers fields members, m.1 ∉ seen)
        ∧ ((ownMembers fields members).map (·.1)).Nodup
        ∧ List.Forall₂ (MemberDecodes reading whole fields) (ownMembers fields members) found.own
        ∧ otherMembers fields members = found.other
  | seen, [], ⟨own, other⟩ => by
    simp [readMembers, ownMembers, otherMembers, eq_comm]
  | seen, (name, part) :: members, ⟨own, other⟩ => by
    by_cases hname : name ∈ fieldNames fields
    · obtain ⟨field, hf⟩ :=
        Option.ne_none_iff_exists'.1 (mt find?_field_eq_none_iff.1 (not_not.2 hname))
      rw [readMembers, hf, ownMembers_cons_of_mem _ _ hname, otherMembers_cons_of_mem _ _ hname]
      by_cases hs : name ∈ seen
      · simp [hs]
      have hc : ¬ seen.contains name = true := mt List.contains_iff_mem.1 hs
      simp only [if_neg hc, bind_eq_ok_iff, readMembers_eq_ok_iff, Except.ok.injEq,
        List.forall_mem_cons, List.map_cons, List.nodup_cons]
      constructor
      · rintro ⟨d, hd, ⟨own', other'⟩, ⟨hstrict, hseen, hnodup, hvalues, rfl⟩, heq⟩
        obtain ⟨rfl, rfl⟩ := Members.mk.inj heq
        refine ⟨hstrict, ⟨hs, fun m hm => mt (List.mem_cons_of_mem _) (hseen m hm)⟩, ⟨?_, hnodup⟩,
          .cons ⟨rfl, field, hf, hd⟩ hvalues, rfl⟩
        intro hmem
        obtain ⟨m, hm, rfl⟩ := List.mem_map.1 hmem
        exact hseen m hm List.mem_cons_self
      · rintro ⟨hstrict, ⟨-, hseen⟩, ⟨hnot, hnodup⟩, hvalues, hother⟩
        obtain ⟨⟨key, d⟩, own', ⟨rfl, field', hf', hd⟩, hvalues', rfl⟩ :=
          List.forall₂_cons_left_iff.1 hvalues
        obtain rfl : field = field' := by simpa [hf] using hf'
        refine ⟨d, hd, ⟨own', other⟩, ⟨hstrict, fun m hm hmem => ?_, hnodup, hvalues', hother⟩, rfl⟩
        rcases List.mem_cons.1 hmem with rfl | hmem
        · exact hnot (List.mem_map_of_mem hm)
        · exact hseen m hm hmem
    · rw [readMembers, find?_field_eq_none_iff.2 hname, ownMembers_cons_of_not_mem _ _ hname,
        otherMembers_cons_of_not_mem _ _ hname]
      by_cases hstrict : strict = true
      · simp [hstrict]
      simp only [if_neg hstrict, bind_eq_ok_iff, readMembers_eq_ok_iff, Except.ok.injEq]
      constructor
      · rintro ⟨⟨own', other'⟩, ⟨-, hseen, hnodup, hvalues, rfl⟩, heq⟩
        obtain ⟨rfl, rfl⟩ := Members.mk.inj heq
        exact ⟨fun h => absurd h hstrict, hseen, hnodup, hvalues, rfl⟩
      · rintro ⟨-, hseen, hnodup, hvalues, rfl⟩
        exact ⟨⟨own, _⟩, ⟨fun h => absurd h hstrict, hseen, hnodup, hvalues, rfl⟩, rfl⟩

end Members

section Record

/-- What a field of a record comes to: what the member of its name decodes to, or its fallback where
there is no such member. -/
inductive FieldValue (reading : Reading) (whole : Schema) (fields : List (Field Schema))
    (members : List (String × Part)) (field : Field Schema) (d : Datum) : Prop
  | present {part : Part} (hmem : (field.name, part) ∈ members)
      (hd : FieldDecodes reading whole fields field.name part d)
  | absent (hnot : field.name ∉ members.map (·.1)) (hd : field.fallback? = some d)

/-- The members make up the record with these values: a strict record knows them all, none of its
fields is there twice, those that are there decode, and the values are those of the fields. -/
structure RecordValue (reading : Reading) (whole : Schema) (strict : Bool)
    (fields : List (Field Schema)) (members : List (String × Part)) (ds : List (String × Datum)) :
    Prop where
  known : strict = true → ∀ name ∈ members.map (·.1), name ∈ fieldNames fields
  once : ((members.map (·.1)).filter (· ∈ fieldNames fields)).Nodup
  decodes : ∀ m ∈ members, m.1 ∈ fieldNames fields →
    ∃ d, FieldDecodes reading whole fields m.1 m.2 d
  values : List.Forall₂
    (fun field c => field.name = c.1 ∧ FieldValue reading whole fields members field c.2) fields ds

variable {whole : Schema} {strict : Bool} {fields : List (Field Schema)}
  {members : List (String × Part)}

theorem FieldDecodes.unique {name : String} {part : Part} {d d' : Datum}
    (h : FieldDecodes reading whole fields name part d)
    (h' : FieldDecodes reading whole fields name part d') : d = d' := by
  obtain ⟨field, hf, hd⟩ := h
  obtain ⟨field', hf', hd'⟩ := h'
  obtain rfl : field = field' := by simpa [hf] using hf'
  simpa [hd] using hd'

theorem FieldDecodes.mem_fieldNames {name : String} {part : Part} {d : Datum}
    (h : FieldDecodes reading whole fields name part d) : name ∈ fieldNames fields := by
  obtain ⟨field, hf, -⟩ := h
  by_contra hname
  simp [find?_field_eq_none_iff.2 hname] at hf

theorem completeFields_eq_ok_iff {own : List (String × Datum)} :
    ∀ {fields : List (Field Schema)} {ds : List (String × Datum)},
      completeFields own fields = .ok ds ↔ List.Forall₂ (fun field c => field.name = c.1
        ∧ (own.lookup field.name).or field.fallback? = some c.2) fields ds
  | [], ds => by simp [completeFields, eq_comm]
  | field :: fields, ds => by
    rw [completeFields, List.forall₂_cons_left_iff]
    rcases (own.lookup field.name).or field.fallback? with _ | d
    · simp
    simp only [exceptMap_eq_ok_iff, completeFields_eq_ok_iff, Option.some.injEq]
    constructor
    · rintro ⟨ds, hds, rfl⟩
      exact ⟨_, ds, ⟨rfl, rfl⟩, hds, rfl⟩
    · rintro ⟨⟨name, d⟩, ds, ⟨rfl, rfl⟩, hds, rfl⟩
      exact ⟨ds, hds, rfl⟩

section Own

variable {own : List (String × Datum)}
  (hown : List.Forall₂ (MemberDecodes reading whole fields) (ownMembers fields members) own)
include hown

theorem map_fst_own :
    own.map (·.1) = (members.map (·.1)).filter (· ∈ fieldNames fields) := by
  rw [← map_fst_ownMembers, eq_comm, ← List.forall₂_eq_eq_eq, List.forall₂_map_left_iff,
    List.forall₂_map_right_iff]
  exact hown.imp fun m c hmc => hmc.1

theorem lookup_own_eq_none_iff {name : String} (hname : name ∈ fieldNames fields) :
    own.lookup name = none ↔ name ∉ members.map (·.1) := by
  rw [lookup_eq_none_iff_not_mem, map_fst_own hown, List.mem_filter, and_iff_left (by simpa)]

variable (honce : ((members.map (·.1)).filter (· ∈ fieldNames fields)).Nodup)
include honce

theorem lookup_own_eq_some_iff {name : String} {d : Datum} :
    own.lookup name = some d ↔
      ∃ part, (name, part) ∈ members ∧ FieldDecodes reading whole fields name part d := by
  rw [lookup_eq_some_iff_mem (map_fst_own hown ▸ honce)]
  constructor
  · intro hmem
    obtain ⟨⟨name, part⟩, hm, rfl, hd⟩ := exists_left_of_forall₂ hown hmem
    exact ⟨part, List.mem_of_mem_filter hm, hd⟩
  · rintro ⟨part, hmem, hd⟩
    have hm : (name, part) ∈ ownMembers fields members :=
      List.mem_filter.2 ⟨hmem, decide_eq_true hd.mem_fieldNames⟩
    obtain ⟨⟨name, d'⟩, hc, rfl, hd'⟩ := exists_right_of_forall₂ hown hm
    exact hd.unique hd' ▸ hc

theorem lookup_own_or_eq_some_iff {field : Field Schema} (hfield : field ∈ fields) {d : Datum} :
    (own.lookup field.name).or field.fallback? = some d ↔
      FieldValue reading whole fields members field d := by
  have hname : field.name ∈ fieldNames fields := List.mem_map_of_mem hfield
  rw [Option.or_eq_some_iff, lookup_own_eq_some_iff hown honce, lookup_own_eq_none_iff hown hname]
  constructor
  · rintro (⟨part, hmem, hd⟩ | ⟨hnot, hd⟩)
    · exact .present hmem hd
    · exact .absent hnot hd
  · rintro (⟨hmem, hd⟩ | ⟨hnot, hd⟩)
    · exact .inl ⟨_, hmem, hd⟩
    · exact .inr ⟨hnot, hd⟩

end Own

/-- What a record makes of the members of an object, whatever their order. -/
theorem readRecord_eq_ok_iff {other : List (String × Part)} {ds : List (String × Datum)} :
    (∃ own, readMembers reading whole strict fields [] members = .ok ⟨own, other⟩
        ∧ completeFields own fields = .ok ds) ↔
      RecordValue reading whole strict fields members ds ∧ otherMembers fields members = other := by
  have hknown : otherMembers fields members = [] ↔
      ∀ name ∈ members.map (·.1), name ∈ fieldNames fields := by
    simp [otherMembers, List.filter_eq_nil_iff]
  simp only [readMembers_eq_ok_iff, completeFields_eq_ok_iff, map_fst_ownMembers, hknown,
    List.not_mem_nil, not_false_eq_true, implies_true, true_and]
  constructor
  · rintro ⟨own, ⟨hstrict, honce, hown, rfl⟩, hds⟩
    refine ⟨⟨hstrict, honce, fun m hm hname => ?_, ?_⟩, rfl⟩
    · obtain ⟨c, -, -, hd⟩ :=
        exists_right_of_forall₂ hown (List.mem_filter.2 ⟨hm, decide_eq_true hname⟩)
      exact ⟨c.2, hd⟩
    · refine (forall₂_congr_of_mem fun field hfield c => ?_).1 hds
      rw [lookup_own_or_eq_some_iff hown honce hfield]
  · rintro ⟨⟨hstrict, honce, hdecodes, hvalues⟩, rfl⟩
    obtain ⟨own, hown⟩ : ∃ own, List.Forall₂ (MemberDecodes reading whole fields)
        (ownMembers fields members) own := by
      refine exists_forall₂_of_forall_mem fun m hm => ?_
      obtain ⟨hmem, hname⟩ := List.mem_filter.1 hm
      obtain ⟨d, hd⟩ := hdecodes m hmem (of_decide_eq_true hname)
      exact ⟨(m.1, d), rfl, hd⟩
    refine ⟨own, ⟨hstrict, honce, hown, rfl⟩, ?_⟩
    refine (forall₂_congr_of_mem fun field hfield c => ?_).2 hvalues
    rw [lookup_own_or_eq_some_iff hown honce hfield]

theorem decodeRecord_object_eq_ok_iff {label : String} {d : Datum} :
    decodeRecord reading whole label strict fields (.object members) = .ok d ↔
      ∃ ds, RecordValue reading whole strict fields members ds ∧ d = .table ds := by
  simp only [decodeRecord, bind_eq_ok_iff, exceptMap_eq_ok_iff]
  constructor
  · rintro ⟨⟨own, other⟩, hread, ds, hds, rfl⟩
    exact ⟨ds, (readRecord_eq_ok_iff.1 ⟨own, hread, hds⟩).1, rfl⟩
  · rintro ⟨ds, hvalue, rfl⟩
    obtain ⟨own, hread, hds⟩ := readRecord_eq_ok_iff.2 ⟨hvalue, rfl⟩
    exact ⟨_, hread, ds, hds, rfl⟩

theorem decodeCollecting_eq_ok_iff
    {decodeRest : List (String × Part) → Except DecodeFailure Datum} {d : Datum} :
    decodeCollecting reading whole fields decodeRest members = .ok d ↔
      ∃ ds others, RecordValue reading whole false fields members ds
        ∧ decodeRest (otherMembers fields members) = .ok others
        ∧ d = joinTables (.table ds) others := by
  simp only [decodeCollecting, bind_eq_ok_iff, Except.ok.injEq]
  constructor
  · rintro ⟨⟨own, other⟩, hread, ds, hds, others, hothers, rfl⟩
    obtain ⟨hvalue, rfl⟩ := readRecord_eq_ok_iff.1 ⟨own, hread, hds⟩
    exact ⟨ds, others, hvalue, hothers, rfl⟩
  · rintro ⟨ds, others, hvalue, hothers, rfl⟩
    obtain ⟨own, hread, hds⟩ := readRecord_eq_ok_iff.2 ⟨hvalue, rfl⟩
    exact ⟨_, hread, ds, hds, others, hothers, rfl⟩

end Record

end Schema

end LinkedSheets
