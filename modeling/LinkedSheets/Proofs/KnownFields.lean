import LinkedSheets.Proofs.FieldOrder
import LinkedSheets.Schema.Catalog

/-!
# The fields that a record knows

A record that is not strict looks in an object for the keys of its fields and passes over all other
keys, whatever is under them. It can be read when each of its keys is there once at most, no field
is missing that must be there, and what is under its keys decodes (`Value.FillsRecord`); it then has
for each field what is under its key, or what stands for a field that was left out
(`Value.FieldComesTo`). So two objects are the same to it if they have the same under its keys, in
whatever order and among whatever else (`Schema.recordValue_iff_of_perm_ownMembers`).
-/

namespace LinkedSheets

namespace Schema

variable {reading : Reading} {whole : Schema} {fields : List (Field Schema)}

section Own

variable {members members' : List (String × Part)}

theorem mem_ownMembers_iff {m : String × Part} :
    m ∈ ownMembers fields members ↔ m ∈ members ∧ m.1 ∈ fieldNames fields := by
  simp [ownMembers]

variable (h : (ownMembers fields members).Perm (ownMembers fields members'))
include h

theorem perm_names_of_perm_ownMembers :
    ((members.map (·.1)).filter (· ∈ fieldNames fields)).Perm
      ((members'.map (·.1)).filter (· ∈ fieldNames fields)) := by
  rw [← map_fst_ownMembers, ← map_fst_ownMembers]
  exact h.map _

theorem FieldValue.of_perm_ownMembers {field : Field Schema} (hfield : field ∈ fields) {d : Datum}
    (hv : FieldValue reading whole fields members field d) :
    FieldValue reading whole fields members' field d := by
  have hname : field.name ∈ fieldNames fields := List.mem_map_of_mem hfield
  rcases hv with ⟨hmem, hd⟩ | ⟨hnot, hd⟩
  · have hown := h.mem_iff.1 (mem_ownMembers_iff.2 ⟨hmem, hname⟩)
    exact .present (mem_ownMembers_iff.1 hown).1 hd
  · refine .absent (fun hmem => hnot ?_) hd
    have hown := (perm_names_of_perm_ownMembers h).mem_iff.2
      (List.mem_filter.2 ⟨hmem, decide_eq_true hname⟩)
    exact List.mem_of_mem_filter hown

theorem RecordValue.of_perm_ownMembers {ds : List (String × Datum)}
    (hv : RecordValue reading whole false fields members ds) :
    RecordValue reading whole false fields members' ds where
  known := nofun
  once := (perm_names_of_perm_ownMembers h).nodup_iff.1 hv.once
  decodes m hm hname := by
    have hown := h.mem_iff.2 (mem_ownMembers_iff.2 ⟨hm, hname⟩)
    exact hv.decodes m (mem_ownMembers_iff.1 hown).1 hname
  values := by
    refine (forall₂_congr_of_mem fun field hfield c => and_congr_right fun _ => ?_).1 hv.values
    exact ⟨.of_perm_ownMembers h hfield, .of_perm_ownMembers h.symm hfield⟩

theorem recordValue_iff_of_perm_ownMembers {ds : List (String × Datum)} :
    RecordValue reading whole false fields members ds ↔
      RecordValue reading whole false fields members' ds :=
  ⟨.of_perm_ownMembers h, .of_perm_ownMembers h.symm⟩

end Own

end Schema

namespace Value

open Schema

/-- The value under a key decodes to what the field of that key asks for. -/
def DecodesAs (whole : Schema) (fields : List (Field Schema)) (key : String) (v : Value)
    (d : Datum) : Prop :=
  ∃ field, fields.find? (·.name == key) = some field
    ∧ v.decode (unfold whole field.content) = .ok d

/-- The record can be read from the object: none of its keys is there twice, no field is missing
that has no default and is no option, and what is under its keys decodes. -/
structure FillsRecord (whole : Schema) (fields : List (Field Schema))
    (members : List (String × Value)) : Prop where
  once : ∀ key ∈ fieldNames fields, (members.map (·.1)).count key ≤ 1
  given : ∀ field ∈ fields, field.default? = none → field.content.isOption = false →
    field.name ∈ members.map (·.1)
  decodes : ∀ key v, (key, v) ∈ members → key ∈ fieldNames fields →
    ∃ d, DecodesAs whole fields key v d

/-- What a field of the record comes to: what is under its key, or its default, or nothing. -/
inductive FieldComesTo (whole : Schema) (fields : List (Field Schema))
    (members : List (String × Value)) (field : Field Schema) : Datum → Prop
  | given {v : Value} {d : Datum} (hmem : (field.name, v) ∈ members)
      (hd : DecodesAs whole fields field.name v d) : FieldComesTo whole fields members field d
  | default {d : Datum} (hnot : field.name ∉ members.map (·.1)) (hd : field.default? = some d) :
      FieldComesTo whole fields members field d
  | nothing (hnot : field.name ∉ members.map (·.1)) (hnone : field.default? = none)
      (hoption : field.content.isOption = true) : FieldComesTo whole fields members field .null

/-- The fields of the record, in their order, with what they come to. -/
def FieldsComeTo (whole : Schema) (fields : List (Field Schema)) (members : List (String × Value))
    (ds : List (String × Datum)) : Prop :=
  List.Forall₂ (fun field c => field.name = c.1 ∧ FieldComesTo whole fields members field c.2)
    fields ds

section Record

variable {whole : Schema} {fields : List (Field Schema)} {members : List (String × Value)}

/-- The members of an object as parts. -/
def parts (members : List (String × Value)) : List (String × Part) :=
  members.map fun m => (m.1, m.2.part)

theorem map_fst_parts (members : List (String × Value)) :
    (parts members).map (·.1) = members.map (·.1) := by
  simp [parts, Function.comp_def]

theorem decodesAs_iff {key : String} {v : Value} {d : Datum} :
    DecodesAs whole fields key v d ↔ FieldDecodes .cells whole fields key v.part d := by
  simp only [DecodesAs, FieldDecodes, decode_part]

theorem fallback?_eq_some_iff {field : Field Schema} {d : Datum} :
    field.fallback? = some d ↔ field.default? = some d
      ∨ field.default? = none ∧ field.content.isOption = true ∧ d = .null := by
  unfold Field.fallback?
  rcases field.default? with _ | d'
  · cases field.content.isOption <;> simp [eq_comm]
  · simp

theorem fieldComesTo_iff {field : Field Schema} {d : Datum} :
    FieldComesTo whole fields members field d ↔
      Schema.FieldValue .cells whole fields (parts members) field d := by
  constructor
  · intro h
    rcases h with ⟨hmem, hd⟩ | ⟨hnot, hd⟩ | ⟨hnot, hnone, hoption⟩
    · exact .present (List.mem_map_of_mem hmem) (decodesAs_iff.1 hd)
    · exact .absent (map_fst_parts members ▸ hnot) (fallback?_eq_some_iff.2 (.inl hd))
    · exact .absent (map_fst_parts members ▸ hnot)
        (fallback?_eq_some_iff.2 (.inr ⟨hnone, hoption, rfl⟩))
  · rintro (⟨hmem, hd⟩ | ⟨hnot, hd⟩)
    · obtain ⟨⟨key, v⟩, hm, heq⟩ := List.mem_map.1 hmem
      obtain ⟨rfl, rfl⟩ := Prod.mk.inj heq
      exact .given hm (decodesAs_iff.2 hd)
    · rw [map_fst_parts] at hnot
      rcases fallback?_eq_some_iff.1 hd with hd | ⟨hnone, hoption, rfl⟩
      · exact .default hnot hd
      · exact .nothing hnot hnone hoption

theorem FillsRecord.exists_fieldsComeTo (h : FillsRecord whole fields members) :
    ∃ ds, FieldsComeTo whole fields members ds := by
  refine exists_forall₂_of_forall_mem fun field hfield => ?_
  have hname : field.name ∈ fieldNames fields := List.mem_map_of_mem hfield
  by_cases hmem : field.name ∈ members.map (·.1)
  · obtain ⟨⟨key, v⟩, hm, heq⟩ := List.mem_map.1 hmem
    obtain rfl : key = field.name := heq
    obtain ⟨d, hd⟩ := h.decodes _ v hm hname
    exact ⟨(field.name, d), rfl, .given hm hd⟩
  · rcases hdefault : field.default? with _ | d
    · refine ⟨(field.name, .null), rfl, .nothing hmem hdefault ?_⟩
      by_contra hoption
      exact hmem (h.given field hfield hdefault (Bool.eq_false_iff.2 hoption))
    · exact ⟨(field.name, d), rfl, .default hmem hdefault⟩

theorem nodup_filter_fieldNames_iff (keys : List String) :
    (keys.filter (· ∈ fieldNames fields)).Nodup ↔
      ∀ key ∈ fieldNames fields, keys.count key ≤ 1 := by
  have hcount : ∀ key ∈ fieldNames fields,
      (keys.filter (· ∈ fieldNames fields)).count key = keys.count key :=
    fun key hkey => List.count_filter (by simpa using hkey)
  rw [List.nodup_iff_count_le_one]
  constructor
  · intro h key hkey
    exact hcount key hkey ▸ h key
  · intro h key
    by_cases hkey : key ∈ fieldNames fields
    · exact (hcount key hkey).trans_le (h key hkey)
    · have hnot : key ∉ keys.filter (· ∈ fieldNames fields) := by simp [hkey]
      exact (List.count_eq_zero.2 hnot).trans_le (Nat.zero_le 1)

theorem recordValue_parts_iff {ds : List (String × Datum)} :
    RecordValue .cells whole false fields (parts members) ds ↔
      FillsRecord whole fields members ∧ FieldsComeTo whole fields members ds := by
  simp only [FieldsComeTo, fieldComesTo_iff]
  constructor
  · intro h
    refine ⟨⟨?once, fun field hfield hdefault hoption => ?given, fun key v hmem hname => ?decodes⟩,
      h.values⟩
    case once =>
      rw [← nodup_filter_fieldNames_iff, ← map_fst_parts]
      exact h.once
    case given =>
      obtain ⟨⟨name, d⟩, -, -, hc⟩ := exists_right_of_forall₂ h.values hfield
      rcases fieldComesTo_iff.2 hc with ⟨hmem, -⟩ | ⟨-, hd⟩ | ⟨-, -, hsome⟩
      · exact List.mem_map_of_mem hmem
      · simp [hdefault] at hd
      · simp [hoption] at hsome
    case decodes =>
      obtain ⟨d, hd⟩ := h.decodes (key, v.part) (List.mem_map_of_mem hmem) hname
      exact ⟨d, decodesAs_iff.2 hd⟩
  · rintro ⟨hfills, hvalues⟩
    refine ⟨nofun, ?once, fun m hm hname => ?decodes, hvalues⟩
    case once =>
      rw [map_fst_parts, nodup_filter_fieldNames_iff]
      exact hfills.once
    case decodes =>
      obtain ⟨⟨key, v⟩, hmem, rfl⟩ := List.mem_map.1 hm
      obtain ⟨d, hd⟩ := hfills.decodes key v hmem hname
      exact ⟨d, decodesAs_iff.1 hd⟩

theorem decode_record_eq_ok_iff {label : String} {d : Datum} :
    (object members).decode (.record label false fields) = .ok d ↔
      ∃ ds, RecordValue .cells (.record label false fields) false fields (parts members) ds
        ∧ d = .table ds := by
  rw [← decode_part, decode_part_object, decodeAt, decodeRecord_object_eq_ok_iff]
  rfl

/-- Other keys, put in anywhere, and another order change nothing. -/
theorem decode_record_of_perm_append {label : String} {others members' : List (String × Value)}
    (hothers : ∀ m ∈ others, m.1 ∉ fieldNames fields) (hperm : members'.Perm (members ++ others))
    {d : Datum} : (object members').decode (.record label false fields) = .ok d ↔
      (object members).decode (.record label false fields) = .ok d := by
  have hnone : ownMembers fields (parts others) = [] := by
    refine List.filter_eq_nil_iff.2 fun m hm => ?_
    obtain ⟨c, hc, rfl⟩ := List.mem_map.1 hm
    simpa using hothers c hc
  have hown : (ownMembers fields (parts members')).Perm (ownMembers fields (parts members)) := by
    have hfilter := (hperm.map fun m => (m.1, m.2.part)).filter (·.1 ∈ fieldNames fields)
    rwa [List.map_append, List.filter_append, ← parts, ← parts, ← parts, ← ownMembers,
      ← ownMembers, ← ownMembers, hnone, List.append_nil] at hfilter
  simp only [decode_record_eq_ok_iff, recordValue_iff_of_perm_ownMembers hown]

end Record

/-- A record is read from an object just when none of its keys is repeated there, no field is
missing that has no default and is no option, and what is under its keys decodes. It then has these
values and no others, nothing for an option that is missing and its default for a field that has
one. So it comes out the same when the fields of the object are in another order, and when there are
others among them that the record does not know, whatever their values are. -/
theorem decode_record_known (label : String) (fields : List (Field Schema))
    (members : List (String × Value)) :
    ((∃ d, (object members).decode (.record label false fields) = .ok d) ↔
        FillsRecord (.record label false fields) fields members)
      ∧ (∀ d, (object members).decode (.record label false fields) = .ok d ↔
        FillsRecord (.record label false fields) fields members
          ∧ ∃ ds, d = .table ds ∧ FieldsComeTo (.record label false fields) fields members ds)
      ∧ ∀ others members' : List (String × Value), (∀ m ∈ others, m.1 ∉ fieldNames fields) →
        members'.Perm (members ++ others) → ∀ d,
          (object members').decode (.record label false fields) = .ok d ↔
            (object members).decode (.record label false fields) = .ok d := by
  have hvalues : ∀ d, (object members).decode (.record label false fields) = .ok d ↔
      FillsRecord (.record label false fields) fields members
        ∧ ∃ ds, d = .table ds ∧ FieldsComeTo (.record label false fields) fields members ds := by
    intro d
    simp only [decode_record_eq_ok_iff, recordValue_parts_iff]
    constructor
    · rintro ⟨ds, ⟨hfills, hds⟩, rfl⟩
      exact ⟨hfills, ds, rfl, hds⟩
    · rintro ⟨hfills, ds, rfl, hds⟩
      exact ⟨ds, ⟨hfills, hds⟩, rfl⟩
  refine ⟨⟨?_, fun hfills => ?_⟩, hvalues,
    fun others members' hothers hperm d => decode_record_of_perm_append hothers hperm⟩
  · rintro ⟨d, hd⟩
    exact ((hvalues d).1 hd).1
  · obtain ⟨ds, hds⟩ := hfills.exists_fieldsComeTo
    exact ⟨.table ds, (hvalues _).2 ⟨hfills, ds, rfl, hds⟩⟩

/-- Two fields of a record that may do without any, the other way round and with a field among them
that the record does not know. -/
theorem decode_record_known_lenient :
    (∀ m ∈ [("note", array [object [("a", scalar "x"), ("a", array [])]])],
        m.1 ∉ ["a", "b", "c", "d"])
      ∧ [("a", scalar "7"), ("note", array [object [("a", scalar "x"), ("a", array [])]]),
          ("c", scalar "true")].Perm ([("c", scalar "true"), ("a", scalar "7")]
            ++ [("note", array [object [("a", scalar "x"), ("a", array [])]])])
      ∧ (object [("c", scalar "true"), ("a", scalar "7")]).decode Catalog.lenient
        = .ok (.table [("a", .integer 7), ("b", .list []), ("c", .boolean true), ("d", .null)])
      ∧ (object [("a", scalar "7"), ("note", array [object [("a", scalar "x"), ("a", array [])]]),
          ("c", scalar "true")]).decode Catalog.lenient
        = .ok (.table
          [("a", .integer 7), ("b", .list []), ("c", .boolean true), ("d", .null)]) := by
  have hothers : ∀ m ∈ [("note", array [object [("a", scalar "x"), ("a", array [])]])],
      m.1 ∉ ["a", "b", "c", "d"] := by simp
  have hperm : [("a", scalar "7"), ("note", array [object [("a", scalar "x"), ("a", array [])]]),
      ("c", scalar "true")].Perm ([("c", scalar "true"), ("a", scalar "7")]
        ++ [("note", array [object [("a", scalar "x"), ("a", array [])]])]) :=
    (List.reverse_perm _).symm.trans ((List.Perm.swap _ _ _).cons _)
  have hread : (object [("c", scalar "true"), ("a", scalar "7")]).decode Catalog.lenient
      = .ok (.table [("a", .integer 7), ("b", .list []), ("c", .boolean true), ("d", .null)]) := rfl
  exact ⟨hothers, hperm, hread, ((decode_record_known _ _ _).2.2 _ _ hothers hperm _).2 hread⟩

end Value

end LinkedSheets
