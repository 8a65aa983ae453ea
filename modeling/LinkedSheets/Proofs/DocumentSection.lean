import LinkedSheets.Proofs.Numeral
import LinkedSheets.Proofs.RecordValue
import LinkedSheets.Settings.Section

/-!
# Sections in documents

A section that is in a document is read from its members in order, the last of each name
(`Json.mem_documentParts_iff`), so none is repeated. A record that is read so has all its fields,
each from the last member of its name, or as it is where there is no such member
(`Schema.decodeSection_record_eq_ok_iff`, `Schema.fieldValue_document_iff`). In a document nothing
is read out of a text: a name is a text, and a number is a number.
-/

namespace LinkedSheets

namespace Json

theorem canonicalMembers_eq_map (members : List (String × Json)) :
    canonicalMembers members = members.map fun m => (m.1, m.2.canonical) := by
  induction members with
  | nil => rfl
  | cons m members ih => exact congrArg ((m.1, m.2.canonical) :: ·) ih

/-- A value as a part of another one. -/
def part (j : Json) : Part :=
  ⟨j, fun reading schema => j.decode reading schema⟩

theorem memberParts_eq_map (members : List (String × Json)) :
    memberParts members = members.map fun m => (m.1, m.2.part) := by
  induction members with
  | nil => rfl
  | cons m members ih => exact congrArg ((m.1, m.2.part) :: ·) ih

theorem member?_object (members : List (String × Json)) (name : String) :
    (object members).member? name = members.reverse.lookup name := by
  rw [member?]
  induction members.reverse with
  | nil => rfl
  | cons m members ih =>
    obtain ⟨other, j⟩ := m
    rw [List.find?_cons, Table.lookup_cons_eq_ite]
    by_cases h : name = other
    · simp [h]
    · dsimp only
      rw [beq_eq_false_iff_ne.2 (Ne.symm h), if_neg h]
      exact ih

theorem member?_eq_none_iff {members : List (String × Json)} {name : String} :
    (object members).member? name = none ↔ name ∉ members.map (·.1) := by
  rw [member?_object, lookup_eq_none_iff_not_mem, List.map_reverse, List.mem_reverse]

/-- The members of an object in a document, as parts. -/
def documentParts (members : List (String × Json)) : List (String × Part) :=
  memberParts (Table.ofList (canonicalMembers members))

section Document

variable {members : List (String × Json)} {name : String}

theorem decodeSection_object (schema : Schema) (members : List (String × Json)) :
    (object members).decodeSection schema
      = schema.decodeAt .document (.object (documentParts members)) :=
  rfl

theorem map_fst_documentParts : (documentParts members).map (·.1)
    = (Table.ofList (canonicalMembers members)).map (·.1) := by
  simp [documentParts, memberParts_eq_map, Function.comp_def]

theorem nodup_documentParts : ((documentParts members).map (·.1)).Nodup :=
  map_fst_documentParts ▸ nodup_map_of_sorted (Table.pairwise_ofList _)

/-- Under each name a document has the last member of that name. -/
theorem mem_documentParts_iff {part : Part} : (name, part) ∈ documentParts members ↔
    ∃ j, (object members).member? name = some j ∧ part = j.canonical.part := by
  have hlookup : (Table.ofList (canonicalMembers members)).lookup name
      = ((object members).member? name).map canonical := by
    rw [Table.lookup_ofList, canonicalMembers_eq_map, ← List.map_reverse, member?_object]
    exact Table.lookup_map canonical name members.reverse
  have hmem (j : Json) : (name, j) ∈ Table.ofList (canonicalMembers members) ↔
      ((object members).member? name).map canonical = some j := by
    rw [← hlookup, lookup_eq_some_iff_mem (nodup_map_of_sorted (Table.pairwise_ofList _))]
  simp only [documentParts, memberParts_eq_map, List.mem_map, Prod.exists, Prod.mk.injEq]
  constructor
  · rintro ⟨name, j, hj, rfl, rfl⟩
    obtain ⟨value, hvalue, rfl⟩ := Option.map_eq_some_iff.1 ((hmem j).1 hj)
    exact ⟨value, hvalue, rfl⟩
  · rintro ⟨j, hj, rfl⟩
    exact ⟨name, j.canonical, (hmem _).2 (by rw [hj]; rfl), rfl, rfl⟩

theorem mem_map_fst_documentParts_iff :
    name ∈ (documentParts members).map (·.1) ↔ name ∈ members.map (·.1) := by
  constructor
  · intro h
    obtain ⟨⟨name, part⟩, hmem, rfl⟩ := List.mem_map.1 h
    obtain ⟨j, hj, -⟩ := mem_documentParts_iff.1 hmem
    by_contra hnot
    rw [member?_eq_none_iff.2 hnot] at hj
    cases hj
  · intro h
    rcases hj : (object members).member? name with _ | j
    · exact absurd h (member?_eq_none_iff.1 hj)
    · exact List.mem_map.2 ⟨(name, j.canonical.part), mem_documentParts_iff.2 ⟨j, hj, rfl⟩, rfl⟩

end Document

end Json

section Leaves

variable {j : Json} {d : Datum}

theorem Json.decode_variant_eq_ok_iff {names : List String} :
    j.canonical.decode .document (.leaf (.variant names)) = .ok d ↔
      ∃ s ∈ names, j = .text s ∧ d = .text s := by
  cases j with
  | text s =>
    by_cases hs : s ∈ names
    · simp [canonical, decode, Schema.decodeAt, Leaf.ofScalar, Leaf.ofText, hs, eq_comm]
    · simp [canonical, decode, Schema.decodeAt, Leaf.ofScalar, Leaf.ofText, hs]
  | number n =>
    simp [canonical, decode, Schema.decodeAt, Leaf.ofScalar, Leaf.ofNumber]
  | _ => simp [canonical, decode, Schema.decodeAt, Leaf.ofScalar]

theorem holds_byte_iff {n : Int} :
    Decimal.IntegerRange.holds ⟨false, 8⟩ n ↔ ∃ m : Nat, m < 256 ∧ n = m := by
  rw [holds_iff_has]
  show 0 ≤ n ∧ n < 256 ↔ _
  constructor
  · intro h
    exact ⟨n.toNat, by omega, by omega⟩
  · rintro ⟨m, hm, rfl⟩
    omega

theorem Json.decode_byte_eq_ok_iff :
    j.canonical.decode .document (.leaf (.integer ⟨false, 8⟩)) = .ok d ↔
      ∃ n : Nat, n < 256 ∧ j = .number (.integer n) ∧ d = .integer n := by
  cases j with
  | text s => simp [canonical, decode, Schema.decodeAt, Leaf.ofScalar, Leaf.ofText]
  | number n =>
    rcases n with n | x
    · simp only [canonical, decode, Schema.decodeAt, Leaf.ofScalar, Leaf.ofNumber, holds_byte_iff]
      constructor
      · intro h
        split at h
        · rename_i hn
          obtain ⟨m, hm, rfl⟩ := hn
          exact ⟨m, hm, rfl, (Except.ok.inj h).symm⟩
        · cases h
      · rintro ⟨m, hm, heq, rfl⟩
        obtain rfl := JsonNumber.integer.inj (Json.number.inj heq)
        rw [if_pos ⟨m, hm, rfl⟩]
    · simp [canonical, decode, Schema.decodeAt, Leaf.ofScalar, Leaf.ofNumber]
  | _ => simp [canonical, decode, Schema.decodeAt, Leaf.ofScalar]

end Leaves

namespace Schema

variable {reading : Reading}

/-- A record is made of members of which none is repeated just when its fields are. -/
theorem recordValue_iff_of_nodup {whole : Schema} {strict : Bool} {fields : List (Field Schema)}
    {members : List (String × Part)} (hd : (members.map (·.1)).Nodup) {ds : List (String × Datum)} :
    RecordValue reading whole strict fields members ds ↔
      (strict = true → ∀ name ∈ members.map (·.1), name ∈ fieldNames fields)
        ∧ List.Forall₂ (fun field c => field.name = c.1
          ∧ FieldValue reading whole fields members field c.2) fields ds := by
  refine ⟨fun h => ⟨h.known, h.values⟩, fun ⟨hknown, hvalues⟩ => ⟨hknown, hd.filter _, ?_, hvalues⟩⟩
  intro m hm hname
  obtain ⟨field, hfield, hname⟩ := List.mem_map.1 hname
  obtain ⟨c, -, -, hc⟩ := exists_right_of_forall₂ hvalues hfield
  rcases hc with ⟨hmem, hdecodes⟩ | ⟨hnot, -⟩
  · obtain rfl := List.inj_on_of_nodup_map hd hmem hm hname
    exact ⟨c.2, hdecodes⟩
  · exact absurd (hname ▸ List.mem_map_of_mem hm) hnot

/-- A field in a document is what the last member of its name decodes to. -/
theorem fieldValue_document_iff {whole : Schema} {fields : List (Field Schema)}
    {field : Field Schema} (hfield : fields.find? (·.name == field.name) = some field)
    {members : List (String × Json)} {d : Datum} :
    FieldValue .document whole fields (Json.documentParts members) field d ↔
      (∃ j, (Json.object members).member? field.name = some j
          ∧ j.canonical.decode .document (unfold whole field.content) = .ok d)
        ∨ field.name ∉ members.map (·.1) ∧ field.fallback? = some d := by
  constructor
  · rintro (⟨hmem, field', hfield', hd⟩ | ⟨hnot, hd⟩)
    · obtain ⟨j, hj, rfl⟩ := Json.mem_documentParts_iff.1 hmem
      obtain rfl := Option.some.inj (hfield.symm.trans hfield')
      exact .inl ⟨j, hj, hd⟩
    · exact .inr ⟨mt Json.mem_map_fst_documentParts_iff.2 hnot, hd⟩
  · rintro (⟨j, hj, hd⟩ | ⟨hnot, hd⟩)
    · exact .present (Json.mem_documentParts_iff.2 ⟨j, hj, rfl⟩) ⟨field, hfield, hd⟩
    · exact .absent (mt Json.mem_map_fst_documentParts_iff.1 hnot) hd

theorem decodeSection_record_eq_ok_iff {label : String} {strict : Bool}
    {fields : List (Field Schema)} {members : List (String × Json)} {d : Datum} :
    (Json.object members).decodeSection (.record label strict fields) = .ok d ↔
      (strict = true → ∀ name ∈ members.map (·.1), name ∈ fieldNames fields)
        ∧ ∃ ds, d = .table ds ∧ List.Forall₂ (fun field c => field.name = c.1
          ∧ FieldValue .document (.record label strict fields) fields (Json.documentParts members)
            field c.2) fields ds := by
  simp only [Json.decodeSection_object, decodeAt, decodeRecord_object_eq_ok_iff,
    recordValue_iff_of_nodup Json.nodup_documentParts, Json.mem_map_fst_documentParts_iff]
  constructor
  · rintro ⟨ds, ⟨hknown, hvalues⟩, rfl⟩
    exact ⟨hknown, ds, rfl, hvalues⟩
  · rintro ⟨hknown, ds, rfl, hvalues⟩
    exact ⟨ds, ⟨hknown, hvalues⟩, rfl⟩

end Schema

end LinkedSheets
