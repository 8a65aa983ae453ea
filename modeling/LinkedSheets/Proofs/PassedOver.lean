import LinkedSheets.Proofs.DocumentSection

/-!
# Members that are passed over

A choice by a tag takes the tag out of an object and hands all other members on to the variant, and
a record that is not strict looks for its own fields among them. What is under any other name is not
even looked at. So members of such names can be left out of an object, and it comes to the same, be
that a value or a failure (`takeTag_filter`, `decodeRecord_filter`, `decodeAt_tagged_filter`).

In a document the members of an object are first brought in order, the last of each name. Leaving
out all members of a name goes together with that (`Table.filter_ofList`).
-/

namespace LinkedSheets

namespace Table

variable {α : Type}

theorem lookup_filter (p : String → Bool) (key : String) : ∀ entries : List (String × α),
    (entries.filter (p ·.1)).lookup key = if p key then entries.lookup key else none
  | [] => by simp
  | (name, value) :: entries => by
    rw [List.filter_cons, lookup_cons_eq_ite]
    by_cases hname : p name
    · rw [if_pos hname, lookup_cons_eq_ite, lookup_filter p key entries]
      by_cases h : key = name <;> simp [h, hname]
    · rw [if_neg hname, lookup_filter p key entries]
      by_cases h : key = name <;> simp [h, hname]

/-- Tables with the same under each name are the same. -/
theorem eq_of_lookup {table table' : List (String × α)} (h : table.Pairwise (·.1 < ·.1))
    (h' : table'.Pairwise (·.1 < ·.1)) (hlookup : ∀ key, table.lookup key = table'.lookup key) :
    table = table' := by
  have hmem (entry : String × α) : entry ∈ table ↔ entry ∈ table' := by
    rw [← lookup_eq_some_iff_mem (nodup_map_of_sorted h), hlookup,
      lookup_eq_some_iff_mem (nodup_map_of_sorted h')]
  have hperm : table.Perm table' := (List.perm_ext_iff_of_nodup (nodup_map_of_sorted h).of_map
    (nodup_map_of_sorted h').of_map).2 hmem
  exact eq_of_perm_of_sorted hperm h h'

theorem filter_ofList (p : String → Bool) (entries : List (String × α)) :
    ofList (entries.filter (p ·.1)) = (ofList entries).filter (p ·.1) := by
  refine eq_of_lookup (pairwise_ofList _) ((pairwise_ofList _).filter _) fun key => ?_
  rw [lookup_ofList, lookup_filter, lookup_ofList, ← List.filter_reverse, lookup_filter]

end Table

theorem Json.documentParts_filter (p : String → Bool) (members : List (String × Json)) :
    documentParts (members.filter (p ·.1)) = (documentParts members).filter (p ·.1) := by
  simp only [documentParts, memberParts_eq_map, canonicalMembers_eq_map, List.filter_map,
    Function.comp_def, ← Table.filter_ofList]

namespace Schema

variable {reading : Reading} {p : String → Bool} {members : List (String × Part)}

/-- The variant is what the tag gives. -/
theorem exists_part_of_takeTag {tag : String} {names : List String} {seen : Bool} {variant : String}
    {others : List (String × Part)}
    (h : takeTag reading tag names seen members = .ok (some variant, others)) :
    ∃ part, (tag, part) ∈ members ∧ readTag reading names part = .ok variant := by
  induction members generalizing seen others with
  | nil => cases h
  | cons m members ih =>
    obtain ⟨name, part⟩ := m
    rw [takeTag] at h
    split at h
    · rename_i hname
      subst hname
      split at h
      · cases h
      obtain ⟨variant', htag, h⟩ := bind_eq_ok_iff.1 h
      obtain ⟨rest, -, h⟩ := bind_eq_ok_iff.1 h
      obtain ⟨heq, -⟩ := Prod.mk.inj (Except.ok.inj h)
      exact ⟨part, List.mem_cons_self, Option.some.inj heq ▸ htag⟩
    · obtain ⟨⟨found, rest⟩, hrest, h⟩ := bind_eq_ok_iff.1 h
      obtain ⟨rfl, -⟩ := Prod.mk.inj (Except.ok.inj h)
      obtain ⟨part', hmem, htag⟩ := ih hrest
      exact ⟨part', List.mem_cons_of_mem _ hmem, htag⟩

theorem takeTag_filter {tag : String} {names : List String} (htag : p tag) (seen : Bool) :
    takeTag reading tag names seen (members.filter (p ·.1))
      = (takeTag reading tag names seen members).map
        fun found => (found.1, found.2.filter (p ·.1)) := by
  induction members generalizing seen with
  | nil => rfl
  | cons m members ih =>
    obtain ⟨name, part⟩ := m
    rw [List.filter_cons, takeTag]
    by_cases hname : name = tag
    · subst hname
      rw [if_pos htag, if_pos rfl, takeTag, if_pos rfl]
      rcases seen with _ | _
      · rcases readTag reading names part with e | variant
        · rfl
        · simp only [ih]
          rcases takeTag reading name names true members with e | found <;> rfl
      · rfl
    · rw [if_neg hname]
      by_cases hp : p name
      · rw [if_pos hp, takeTag, if_neg hname, ih]
        rcases takeTag reading tag names seen members with e | found
        · rfl
        · simp [Except.map, hp]
      · rw [if_neg hp, ih]
        rcases takeTag reading tag names seen members with e | found
        · rfl
        · simp [Except.map, hp]

section Record

variable {whole : Schema} {fields : List (Field Schema)}

theorem readMembers_filter (hfields : ∀ name ∈ fieldNames fields, p name) (seen : List String) :
    readMembers reading whole false fields seen (members.filter (p ·.1))
      = (readMembers reading whole false fields seen members).map
        fun found => ⟨found.own, found.other.filter (p ·.1)⟩ := by
  induction members generalizing seen with
  | nil => rfl
  | cons m members ih =>
    obtain ⟨name, part⟩ := m
    rw [List.filter_cons, readMembers]
    rcases hfield : fields.find? (·.name == name) with _ | field
    · by_cases hp : p name
      · rw [if_pos hp, readMembers, hfield]
        simp only [Bool.false_eq_true, if_false, ih]
        rcases readMembers reading whole false fields seen members with e | found
        · rfl
        · simp [Except.map, hp]
      · rw [if_neg hp, ih, hfield]
        simp only [Bool.false_eq_true, if_false]
        rcases readMembers reading whole false fields seen members with e | found
        · rfl
        · simp [Except.map, hp]
    · have hname : name ∈ fieldNames fields := by
        by_contra hnot
        rw [find?_field_eq_none_iff.2 hnot] at hfield
        cases hfield
      rw [if_pos (hfields name hname), readMembers, hfield]
      dsimp only
      split
      · rfl
      rcases part.decode reading (unfold whole field.content) with e | d
      · rfl
      simp only [ok_bind, ih]
      rcases readMembers reading whole false fields (name :: seen) members with e | found <;> rfl

theorem decodeRecord_filter (hfields : ∀ name ∈ fieldNames fields, p name) (label : String) :
    decodeRecord reading whole label false fields (.object (members.filter (p ·.1)))
      = decodeRecord reading whole label false fields (.object members) := by
  simp only [decodeRecord, readMembers_filter hfields]
  rcases readMembers reading whole false fields [] members with e | found <;> rfl

end Record

/-- What is left out must be nothing that the variant looks at. -/
theorem decodeAt_tagged_filter {name tag : String} {variants : List (String × Schema)}
    (htag : p tag) (hvariant : ∀ variant others,
      takeTag reading tag (variants.map (·.1)) false members = .ok (some variant, others) →
        decodeVariant variant variants (.object (others.filter (p ·.1)))
          = decodeVariant variant variants (.object others)) :
    decodeAt reading (.tagged name tag variants) (.object (members.filter (p ·.1)))
      = decodeAt reading (.tagged name tag variants) (.object members) := by
  have hfilter := @takeTag_filter reading p members tag (variants.map (·.1)) htag false
  rcases htake : takeTag reading tag (variants.map (·.1)) false members with
    e | ⟨_ | variant, others⟩ <;> rw [htake] at hfilter
  · simp [decodeAt, decodeTagged, splitTag, hfilter, htake, Except.map]
  · simp [decodeAt, decodeTagged, splitTag, hfilter, htake, Except.map]
  · simp [decodeAt, decodeTagged, splitTag, hfilter, htake, Except.map,
      hvariant variant others htake]

end Schema

end LinkedSheets
