import LinkedSheets.Proofs.RecordValue
import LinkedSheets.Resolution.Typed
import Mathlib.Data.List.OfFn

/-!
# The order of fields

Two values may be the same but for the order of the fields in their objects, at any level
(`Value.Reordered`). A schema that reads objects by the names of their fields does not tell them
apart (`Value.decode_of_reordered`): a record finds the same members in them, whose own decoding
cannot tell either.

Decoding is a fold that hands on every part of a value with its way to decode, so the induction is
twofold. Two nodes whose parts decode alike decode alike by any such schema, by induction on the
schema (`Schema.ByName.isOrderFree`); and then reordered values do, by induction on how they are
reordered. Items and members decode by what their parts say, so the induction on the schema is only
needed where the node itself is handed on: to what is in an option or a newtype, and to what a
record collects.
-/

namespace LinkedSheets

/-- The values are the same but for the order of fields in objects. -/
inductive Value.Reordered : Value → Value → Prop
  | scalar (text : String) : Reordered (.scalar text) (.scalar text)
  | array {n : Nat} (item item' : Fin n → Value) (h : ∀ i, Reordered (item i) (item' i)) :
      Reordered (.array (List.ofFn item)) (.array (List.ofFn item'))
  | object {n : Nat} (key : Fin n → String) (value value' : Fin n → Value)
      {fields : List (String × Value)} (h : ∀ i, Reordered (value i) (value' i))
      (hperm : fields.Perm (List.ofFn fun i => (key i, value' i))) :
      Reordered (.object (List.ofFn fun i => (key i, value i))) (.object fields)

/-- The schemas of what a variant holds. -/
def VariantForm.contents {σ : Type} : VariantForm σ → List σ
  | .unit => []
  | .newtype content => [content]
  | .tuple _ items => items
  | .struct _ _ fields => fields.map (·.content)

namespace Schema

/-- Of the members that a record collects the first one counts that names a variant. -/
def takesFirst : Schema → Bool
  | choice _ _ => true
  | option content | newtype content => takesFirst content
  | _ => false

/-- Schemas that read objects by the names of their fields: leaves and choices among names, with
options, lists, tuples and records of such schemas around them. What a record collects must not be
left to the first member that names a variant. -/
inductive ByName : Schema → Prop
  | leaf (kind : Leaf) : ByName (.leaf kind)
  | choice (name : String) {variants : List (String × VariantForm Schema)}
      (h : ∀ v ∈ variants, ∀ s ∈ v.2.contents, ByName s) : ByName (.choice name variants)
  | option {content : Schema} (h : ByName content) : ByName (.option content)
  | list {item : Schema} (h : ByName item) : ByName (.list item)
  | tuple {label lengthLabel : String} {items : List Schema} (h : ∀ item ∈ items, ByName item) :
      ByName (.tuple label lengthLabel items)
  | newtype {content : Schema} (h : ByName content) : ByName (.newtype content)
  | record {label : String} {strict : Bool} {fields : List (Field Schema)}
      (h : ∀ field ∈ fields, ByName field.content) : ByName (.record label strict fields)
  | collecting {label : String} {fields : List (Field Schema)} {rest : Schema}
      (h : ∀ field ∈ fields, ByName field.content) (hrest : ByName rest)
      (hfirst : rest.takesFirst = false) : ByName (.collecting label fields rest)
  | self : ByName .self

theorem unfoldAll_eq_map (whole : Schema) (items : List Schema) :
    unfoldAll whole items = items.map (unfold whole) := by
  induction items with
  | nil => rfl
  | cons item items ih => exact congrArg (unfold whole item :: ·) ih

theorem ByName.unfold {whole s : Schema} (hwhole : whole.ByName) (hs : s.ByName) :
    (unfold whole s).ByName := by
  induction hs with
  | leaf kind => exact .leaf kind
  | choice name h _ => exact .choice name h
  | option _ ih => exact .option ih
  | list _ ih => exact .list ih
  | tuple _ ih =>
    rw [Schema.unfold, unfoldAll_eq_map]
    exact .tuple (List.forall_mem_map.2 ih)
  | newtype _ ih => exact .newtype ih
  | record h _ => exact .record h
  | collecting h hrest hfirst _ _ => exact .collecting h hrest hfirst
  | self => exact hwhole

end Schema

open Schema

/-- The two parts decode to the same by every schema that reads by name, or both fail. -/
structure Part.Alike (p q : Part) : Prop where
  decode : ∀ reading schema, schema.ByName → ∀ d,
    p.decode reading schema = .ok d ↔ q.decode reading schema = .ok d
  found : Found.ofJson p.value = Found.ofJson q.value

/-- The members have the same names, and those of one name are parts that are alike. -/
structure MembersAlike (members members' : List (String × Part)) : Prop where
  names : (members.map (·.1)).Perm (members'.map (·.1))
  forth : ∀ m ∈ members, ∃ m' ∈ members', m.1 = m'.1 ∧ m.2.Alike m'.2
  back : ∀ m' ∈ members', ∃ m ∈ members, m.1 = m'.1 ∧ m.2.Alike m'.2

inductive Node.Alike : Node → Node → Prop
  | scalar (s : Scalar) : Alike (.scalar s) (.scalar s)
  | array {items items' : List Part} (h : List.Forall₂ Part.Alike items items') :
      Alike (.array items) (.array items')
  | object {members members' : List (String × Part)} (h : MembersAlike members members') :
      Alike (.object members) (.object members')

theorem Part.Alike.symm {p q : Part} (h : p.Alike q) : q.Alike p :=
  ⟨fun reading schema hs d => (h.decode reading schema hs d).symm, h.found.symm⟩

theorem MembersAlike.symm {members members' : List (String × Part)}
    (h : MembersAlike members members') : MembersAlike members' members where
  names := h.names.symm
  forth m' hm' := by
    obtain ⟨m, hm, hname, halike⟩ := h.back m' hm'
    exact ⟨m, hm, hname.symm, halike.symm⟩
  back m hm := by
    obtain ⟨m', hm', hname, halike⟩ := h.forth m hm
    exact ⟨m', hm', hname.symm, halike.symm⟩

namespace Schema

section Arrays

variable {reading : Reading} {items items' : List Part} (h : List.Forall₂ Part.Alike items items')
include h

theorem decodeItems_eq_ok_iff_of_alike {item : Schema} (hitem : item.ByName) {ds : List Datum} :
    decodeItems (Part.decoder reading item) items = .ok ds ↔
      decodeItems (Part.decoder reading item) items' = .ok ds := by
  induction h generalizing ds with
  | nil => rfl
  | cons hp _ ih =>
    simp only [decodeItems, Part.decoder, bind_eq_ok_iff, hp.decode reading item hitem]
    simp only [ih]

theorem decodeTuple_eq_ok_iff_of_alike {label : String} (count : Nat) {schemas : List Schema}
    (hschemas : ∀ schema ∈ schemas, schema.ByName) {ds : List Datum} :
    decodeTuple reading label count (schemas.map (Part.decoder reading)) items = .ok ds ↔
      decodeTuple reading label count (schemas.map (Part.decoder reading)) items' = .ok ds := by
  induction h generalizing count schemas ds with
  | nil => rfl
  | cons hp hrest ih =>
    cases schemas with
    | nil => simp only [List.map_nil, decodeTuple, List.length_cons, hrest.length_eq]
    | cons schema schemas =>
      obtain ⟨hschema, hschemas⟩ := List.forall_mem_cons.1 hschemas
      simp only [List.map_cons, decodeTuple, Part.decoder, bind_eq_ok_iff,
        hp.decode reading _ hschema]
      simp only [ih (count + 1) hschemas]

theorem decodePositions_eq_ok_iff_of_alike {whole : Schema} {label : String} (count : Nat)
    {fields : List (Field Schema)} (hfields : ∀ field ∈ fields, (unfold whole field.content).ByName)
    {ds : List (String × Datum)} :
    decodePositions reading whole label count fields items = .ok ds ↔
      decodePositions reading whole label count fields items' = .ok ds := by
  induction h generalizing count fields ds with
  | nil => rfl
  | cons hp hrest ih =>
    cases fields with
    | nil => simp only [decodePositions, List.length_cons, hrest.length_eq]
    | cons field fields =>
      obtain ⟨hfield, hfields⟩ := List.forall_mem_cons.1 hfields
      simp only [decodePositions, bind_eq_ok_iff, hp.decode reading _ hfield,
        ih (count + 1) hfields]

end Arrays

section Objects

variable {reading : Reading} {members members' : List (String × Part)}
  {fields : List (Field Schema)}

theorem membersAlike_otherMembers (h : MembersAlike members members') :
    MembersAlike (otherMembers fields members) (otherMembers fields members') where
  names := by
    rw [map_fst_otherMembers, map_fst_otherMembers]
    exact h.names.filter _
  forth m hm := by
    obtain ⟨hmem, hname⟩ := List.mem_filter.1 hm
    obtain ⟨m', hm', heq, halike⟩ := h.forth m hmem
    exact ⟨m', List.mem_filter.2 ⟨hm', heq ▸ hname⟩, heq, halike⟩
  back m' hm' := by
    obtain ⟨hmem, hname⟩ := List.mem_filter.1 hm'
    obtain ⟨m, hm, heq, halike⟩ := h.back m' hmem
    exact ⟨m, List.mem_filter.2 ⟨hm, heq ▸ hname⟩, heq, halike⟩

variable {whole : Schema} {strict : Bool}
  (hfields : ∀ field ∈ fields, (unfold whole field.content).ByName)
include hfields

theorem FieldDecodes.of_alike {name : String} {part part' : Part} (h : part.Alike part') {d : Datum}
    (hd : FieldDecodes reading whole fields name part d) :
    FieldDecodes reading whole fields name part' d := by
  obtain ⟨field, hf, hd⟩ := hd
  exact ⟨field, hf, (h.decode _ _ (hfields field (List.mem_of_find?_eq_some hf)) d).1 hd⟩

theorem RecordValue.of_alike (h : MembersAlike members members') {ds : List (String × Datum)}
    (hv : RecordValue reading whole strict fields members ds) :
    RecordValue reading whole strict fields members' ds where
  known hstrict name hname := hv.known hstrict name (h.names.mem_iff.2 hname)
  once := (h.names.filter _).nodup_iff.1 hv.once
  decodes m' hm' hname := by
    obtain ⟨m, hm, heq, halike⟩ := h.back m' hm'
    obtain ⟨d, hd⟩ := hv.decodes m hm (heq ▸ hname)
    exact ⟨d, heq ▸ hd.of_alike hfields halike⟩
  values := hv.values.imp fun field c hc => by
    refine ⟨hc.1, ?_⟩
    rcases hc.2 with ⟨hmem, hd⟩ | ⟨hnot, hd⟩
    · obtain ⟨⟨name, part⟩, hm', rfl, halike⟩ := h.forth _ hmem
      exact .present hm' (hd.of_alike hfields halike)
    · exact .absent (mt h.names.mem_iff.2 hnot) hd

theorem recordValue_iff_of_alike (h : MembersAlike members members') {ds : List (String × Datum)} :
    RecordValue reading whole strict fields members ds ↔
      RecordValue reading whole strict fields members' ds :=
  ⟨.of_alike hfields h, .of_alike hfields h.symm⟩

omit hfields

section Variants

variable {variants : List (String × VariantForm Schema)}

theorem decodeForm_eq_ok_iff_of_alike {form : VariantForm Schema}
    (hform : ∀ s ∈ form.contents, s.ByName) {part part' : Part} (h : part.Alike part')
    (name : String) {d : Datum} :
    decodeForm reading name part form = .ok d ↔ decodeForm reading name part' form = .ok d := by
  cases form with
  | unit => simp only [decodeForm, exceptMap_eq_ok_iff, h.decode reading _ (.leaf .unit)]
  | newtype content =>
    have hcontent : content.ByName := hform content List.mem_cons_self
    simp only [decodeForm, exceptMap_eq_ok_iff, h.decode reading _ hcontent]
  | tuple lengthLabel items =>
    have htuple : (Schema.tuple "tuple variant" lengthLabel items).ByName := .tuple hform
    simp only [decodeForm, exceptMap_eq_ok_iff, h.decode reading _ htuple]
  | struct label strict fields =>
    have hrecord : (record label strict fields).ByName := .record (List.forall_mem_map.1 hform)
    simp only [decodeForm, h.found]
    split
    · simp only [exceptMap_eq_ok_iff, h.decode reading _ hrecord]
    · simp only [exceptMap_eq_ok_iff, h.decode reading _ hrecord]
    · rfl

theorem decodeNamed_eq_ok_iff_of_alike (hvariants : ∀ v ∈ variants, ∀ s ∈ v.2.contents, s.ByName)
    {part part' : Part} (h : part.Alike part') (key : String) {d : Datum} :
    decodeNamed reading variants key part = .ok d ↔
      decodeNamed reading variants key part' = .ok d := by
  unfold decodeNamed
  rcases hform : variants.lookup key with _ | form
  · rfl
  · obtain ⟨before, after, hsplit, -⟩ := List.lookup_eq_some_iff.1 hform
    exact decodeForm_eq_ok_iff_of_alike (hvariants (key, form) (by simp [hsplit])) h key

/-- Only an object of a single member can be a choice. -/
theorem decodeChoice_eq_ok_iff_of_alike (hvariants : ∀ v ∈ variants, ∀ s ∈ v.2.contents, s.ByName)
    (h : MembersAlike members members') (name : String) {d : Datum} :
    decodeChoice reading name variants (.object members) = .ok d ↔
      decodeChoice reading name variants (.object members') = .ok d := by
  have hlength : members.length = members'.length := by simpa using h.names.length_eq
  cases haside : reading.isAside with
  | false => simp [decodeChoice, haside]
  | true =>
    rcases members with _ | ⟨⟨key, part⟩, _ | ⟨m, members⟩⟩ <;>
      rcases members' with _ | ⟨⟨key', part'⟩, _ | ⟨m', members'⟩⟩ <;>
      simp only [List.length_nil, List.length_cons] at hlength
    case nil.nil => rfl
    case cons.nil.cons.nil =>
      obtain ⟨m', hm', rfl, halike⟩ := h.forth (key, part) List.mem_cons_self
      obtain rfl := List.mem_singleton.1 hm'
      simpa only [decodeChoice, haside] using
        decodeNamed_eq_ok_iff_of_alike hvariants halike _
    case cons.cons.cons.cons => simp [decodeChoice, haside]
    all_goals omega

end Variants

end Objects

/-- The schema makes the same of nodes whose parts decode alike, and of such members where they are
collected for it. -/
structure IsOrderFree (schema : Schema) : Prop where
  value : ∀ {reading : Reading} {node node' : Node}, node.Alike node' → ∀ d,
    decodeAt reading schema node = .ok d ↔ decodeAt reading schema node' = .ok d
  collected : schema.takesFirst = false → ∀ {members members' : List (String × Part)},
    MembersAlike members members' → ∀ d,
      decodeCollected schema members = .ok d ↔ decodeCollected schema members' = .ok d

attribute [local simp] decodeAt decodeCollected

theorem isWithout_eq_of_alike {node node' : Node} (h : node.Alike node') (kind : Leaf) :
    isWithout kind node = isWithout kind node' := by
  cases h with
  | scalar s => rfl
  | array h => cases h <;> cases kind <;> rfl
  | @object members members' h =>
    have hlength : members.length = members'.length := by simpa using h.names.length_eq
    rcases members with _ | ⟨m, members⟩ <;> rcases members' with _ | ⟨m', members'⟩
    case nil.nil => rfl
    case cons.cons => cases kind <;> rfl
    all_goals cases hlength

theorem isOrderFree_leaf (kind : Leaf) : (leaf kind).IsOrderFree := by
  refine ⟨fun {reading node node'} h d => ?_, fun _ _ _ _ d => by cases kind <;> rfl⟩
  have hwithout := isWithout_eq_of_alike h kind
  cases h with
  | scalar s => rfl
  | array h | object h => simp only [decodeAt, hwithout, Node.found]

theorem isOrderFree_choice {variants : List (String × VariantForm Schema)}
    (hvariants : ∀ v ∈ variants, ∀ s ∈ v.2.contents, s.ByName) (name : String) :
    (choice name variants).IsOrderFree := by
  refine ⟨fun {reading node node'} h d => ?_, nofun⟩
  simp only [decodeAt]
  cases h with
  | scalar s => rfl
  | array h => cases haside : reading.isAside <;> simp [decodeChoice, haside]
  | object h => exact decodeChoice_eq_ok_iff_of_alike hvariants h name

theorem IsOrderFree.option {content : Schema} (hcontent : content.IsOrderFree) :
    (option content).IsOrderFree := by
  refine ⟨fun {reading node node'} h d => ?_, fun hfirst members members' h d => ?_⟩
  · have hnothing : node.isNothing reading = node'.isNothing reading := by cases h <;> rfl
    simp only [decodeAt, hnothing]
    split
    · rfl
    · exact hcontent.value h d
  · simp only [decodeCollected, toOption_congr (hcontent.collected hfirst h)]

theorem isOrderFree_list {item : Schema} (hitem : item.ByName) : (list item).IsOrderFree := by
  refine ⟨fun h d => ?_, fun _ _ _ _ _ => Iff.rfl⟩
  cases h with
  | scalar s => rfl
  | array h => simp only [decodeAt, exceptMap_eq_ok_iff, decodeItems_eq_ok_iff_of_alike h hitem]
  | object _ => simp

theorem isOrderFree_tuple {items : List Schema} (hitems : ∀ item ∈ items, item.ByName)
    (label lengthLabel : String) : (tuple label lengthLabel items).IsOrderFree := by
  refine ⟨fun h d => ?_, fun _ _ _ _ _ => Iff.rfl⟩
  cases h with
  | scalar s => rfl
  | array h =>
    simp only [decodeAt, exceptMap_eq_ok_iff, decodeTuple_eq_ok_iff_of_alike h 0 hitems]
  | object _ => simp

theorem IsOrderFree.newtype {content : Schema} (hcontent : content.IsOrderFree) :
    (newtype content).IsOrderFree := by
  refine ⟨fun h d => ?_, fun hfirst _ _ h d => ?_⟩
  · simp only [decodeAt]
    exact hcontent.value h d
  · simp only [decodeCollected]
    exact hcontent.collected hfirst h d

section Records

variable {fields : List (Field Schema)} (hcontent : ∀ field ∈ fields, field.content.ByName)
include hcontent

theorem isOrderFree_record (label : String) (strict : Bool) :
    (record label strict fields).IsOrderFree := by
  have hfields : ∀ field ∈ fields, (unfold (record label strict fields) field.content).ByName :=
    fun field hfield => (ByName.record hcontent).unfold (hcontent field hfield)
  refine ⟨fun h d => ?_, fun _ _ _ h d => ?_⟩
  · simp only [decodeAt]
    cases h with
    | scalar s => rfl
    | array h =>
      simp only [decodeRecord, exceptMap_eq_ok_iff, decodePositions_eq_ok_iff_of_alike h 0 hfields]
    | object h =>
      simp only [decodeRecord_object_eq_ok_iff, recordValue_iff_of_alike hfields h]
  · simp only [decodeCollected, decodeRecord_object_eq_ok_iff, recordValue_iff_of_alike hfields h]

theorem isOrderFree_collecting {rest : Schema} (hrest : rest.ByName)
    (hfirst : rest.takesFirst = false) (hfree : rest.IsOrderFree) (label : String) :
    (collecting label fields rest).IsOrderFree := by
  have hfields : ∀ field ∈ fields, (unfold (collecting label fields rest) field.content).ByName :=
    fun field hfield => (ByName.collecting hcontent hrest hfirst).unfold (hcontent field hfield)
  refine ⟨fun h d => ?_, fun _ _ _ h d => ?_⟩
  · cases h with
    | scalar s => rfl
    | array _ => simp
    | object h =>
      simp only [decodeAt, decodeCollecting_eq_ok_iff, recordValue_iff_of_alike hfields h,
        hfree.collected hfirst (membersAlike_otherMembers h)]
  · simp only [decodeCollected, decodeCollecting_eq_ok_iff, recordValue_iff_of_alike hfields h,
      hfree.collected hfirst (membersAlike_otherMembers h)]

end Records

/-- Schemas that read objects by name do not mind the order of fields. -/
theorem ByName.isOrderFree {schema : Schema} (hs : schema.ByName) : schema.IsOrderFree := by
  induction hs with
  | leaf kind => exact isOrderFree_leaf kind
  | choice name hvariants _ => exact isOrderFree_choice hvariants name
  | option _ ih => exact ih.option
  | list hitem _ => exact isOrderFree_list hitem
  | tuple hitems _ => exact isOrderFree_tuple hitems _ _
  | newtype _ ih => exact ih.newtype
  | record hcontent _ => exact isOrderFree_record hcontent _ _
  | collecting hcontent hrest hfirst _ ih => exact isOrderFree_collecting hcontent hrest hfirst ih _
  | self => exact ⟨fun h d => by cases h <;> simp, fun _ _ _ _ _ => Iff.rfl⟩

end Schema

namespace Value

/-- The value as a part of another one. -/
def part (v : Value) : Part :=
  ⟨v.toJson, fun reading schema => v.toJson.decode reading schema⟩

theorem decode_part (schema : Schema) (v : Value) :
    v.part.decode .cells schema = v.decode schema :=
  rfl

theorem itemParts_itemsToJson (items : List Value) :
    Json.itemParts (itemsToJson items) = items.map part := by
  induction items with
  | nil => rfl
  | cons item items ih => exact congrArg (item.part :: ·) ih

theorem memberParts_fieldsToJson (fields : List (String × Value)) :
    Json.memberParts (fieldsToJson fields) = fields.map fun c => (c.1, c.2.part) := by
  induction fields with
  | nil => rfl
  | cons field fields ih => exact congrArg ((field.1, field.2.part) :: ·) ih

theorem decode_part_array (reading : Reading) (schema : Schema) (items : List Value) :
    (array items).part.decode reading schema
      = decodeAt reading schema (.array (items.map part)) := by
  rw [← itemParts_itemsToJson]
  rfl

theorem decode_part_object (reading : Reading) (schema : Schema) (fields : List (String × Value)) :
    (object fields).part.decode reading schema
      = decodeAt reading schema (.object (fields.map fun c => (c.1, c.2.part))) := by
  rw [← memberParts_fieldsToJson]
  rfl

theorem Reordered.part_alike {v v' : Value} (h : v.Reordered v') : v.part.Alike v'.part := by
  induction h with
  | scalar text => exact ⟨fun _ _ _ _ => Iff.rfl, rfl⟩
  | array item item' h ih =>
    refine ⟨fun reading schema hs d => ?_, rfl⟩
    rw [decode_part_array, decode_part_array, List.map_ofFn, List.map_ofFn]
    refine hs.isOrderFree.value (.array ?_) d
    exact List.forall₂_iff_get.2 ⟨by simp, fun i hi _ => by simpa using ih ⟨i, by simpa using hi⟩⟩
  | @object n key value value' fields h hperm ih =>
    refine ⟨fun reading schema hs d => ?_, rfl⟩
    rw [decode_part_object, decode_part_object]
    refine hs.isOrderFree.value (.object ?_) d
    constructor
    case names =>
      have hnames := hperm.symm.map (·.1)
      simpa [List.map_ofFn, Function.comp_def] using hnames
    case forth =>
      intro m hm
      obtain ⟨c, hc, rfl⟩ := List.mem_map.1 hm
      obtain ⟨i, rfl⟩ := List.mem_ofFn.1 hc
      exact ⟨_, List.mem_map_of_mem (hperm.mem_iff.2 (List.mem_ofFn.2 ⟨i, rfl⟩)), rfl, ih i⟩
    case back =>
      intro m' hm'
      obtain ⟨c, hc, rfl⟩ := List.mem_map.1 hm'
      obtain ⟨i, rfl⟩ := List.mem_ofFn.1 (hperm.mem_iff.1 hc)
      exact ⟨_, List.mem_map_of_mem (List.mem_ofFn.2 ⟨i, rfl⟩), rfl, ih i⟩

/-- Reordered values decode to the same by a schema that reads by name, or both fail. -/
theorem Reordered.decode_eq_ok_iff {v v' : Value} (h : v.Reordered v') {schema : Schema}
    (hs : schema.ByName) (d : Datum) : v.decode schema = .ok d ↔ v'.decode schema = .ok d :=
  h.part_alike.decode .cells schema hs d

end Value

end LinkedSheets
