import LinkedSheets.Proofs.FieldOrder
import LinkedSheets.Proofs.ObjectKeys
import LinkedSheets.Proofs.TypedRows
import LinkedSheets.Schema.Catalog

/-!
# Repeated fields

A record refuses an object that has one of its fields twice. It never comes upon one in a typed
sheet: what a row resolves to has no key twice in any of its objects, however often the columns of
its row have it (`RowValue.distinctKeys`), and such a value fails for a repeated field by no schema
(`Value.DistinctKeys.part`).

Decoding hands on every part of a value with its way to decode, so the induction is twofold. If the
parts of a node never fail for a repeated field, and the node has no name twice, the node does not
fail for one either, by induction on the schema (`Schema.notRepeated_decodeAt`); and then no value
without repeated keys does, by induction on the value.
-/

namespace LinkedSheets

/-- If this failed, then not for a repeated field. -/
def NotRepeated {α : Type} (x : Except DecodeFailure α) : Prop :=
  ∀ name, x ≠ .error (.duplicateField name)

namespace NotRepeated

variable {α β : Type} {x : Except DecodeFailure α}

theorem ok (a : α) : NotRepeated (.ok a) :=
  nofun

theorem error {e : DecodeFailure} (h : ∀ name, e ≠ .duplicateField name) :
    NotRepeated (.error e : Except DecodeFailure α) := by
  intro name heq
  exact h name (Except.error.inj heq)

theorem bind (hx : NotRepeated x) {f : α → Except DecodeFailure β}
    (hf : ∀ a, x = .ok a → NotRepeated (f a)) : NotRepeated (x >>= f) := by
  rcases x with e | a
  · exact error fun name he => hx name (congrArg _ he)
  · exact hf a rfl

theorem map (hx : NotRepeated x) (f : α → β) : NotRepeated (x.map f) :=
  bind hx fun a _ => ok (f a)

end NotRepeated

/-- The part never fails for a repeated field, whatever it is asked for. -/
def Part.NotRepeated (p : Part) : Prop :=
  ∀ reading schema, LinkedSheets.NotRepeated (p.decode reading schema)

/-- No part of the node fails for a repeated field, and the node itself has none. -/
inductive Node.DistinctNames : Node → Prop
  | scalar (s : Scalar) : DistinctNames (.scalar s)
  | array {items : List Part} (h : ∀ part ∈ items, part.NotRepeated) : DistinctNames (.array items)
  | object {members : List (String × Part)} (hnames : (members.map (·.1)).Nodup)
      (h : ∀ m ∈ members, m.2.NotRepeated) : DistinctNames (.object members)

/-- No object in the value has a key twice. -/
inductive Value.DistinctKeys : Value → Prop
  | scalar (text : String) : DistinctKeys (.scalar text)
  | array {items : List Value} (h : ∀ item ∈ items, DistinctKeys item) : DistinctKeys (.array items)
  | object {fields : List (String × Value)} (hkeys : (fields.map (·.1)).Nodup)
      (h : ∀ field ∈ fields, DistinctKeys field.2) : DistinctKeys (.object fields)

theorem Node.DistinctNames.of_sublist {members others : List (String × Part)}
    (h : (Node.object members).DistinctNames) (hothers : others.Sublist members) :
    (Node.object others).DistinctNames := by
  obtain _ | _ | ⟨hnames, hparts⟩ := h
  exact .object (hnames.sublist (hothers.map _)) fun m hm => hparts m (hothers.subset hm)

namespace Schema

variable {reading : Reading}

section Scalars

theorem notRepeated_parsed (expected s : String) (d : Option Datum) :
    NotRepeated (Leaf.parsed expected s d) := by
  cases d with
  | none => exact .error nofun
  | some d => exact .ok d

theorem notRepeated_ofText (kind : Leaf) (s : String) :
    NotRepeated (kind.ofText reading s) := by
  unfold Leaf.ofText
  dsimp only
  split
  case h_1 | h_2 | h_3 | h_4 => exact notRepeated_parsed _ _ _
  case h_5 | h_6 => exact .ok _
  case h_10 => exact .error nofun
  all_goals split <;> first | exact .ok _ | exact .error nofun

theorem notRepeated_ofNumber (kind : Leaf) (n : JsonNumber) : NotRepeated (kind.ofNumber n) := by
  unfold Leaf.ofNumber
  split
  case h_1 | h_2 => split <;> first | exact .ok _ | exact .error nofun
  case h_3 | h_4 => exact .ok _
  case h_5 => exact .error nofun

theorem notRepeated_ofScalar (kind : Leaf) (s : Scalar) :
    NotRepeated (kind.ofScalar reading s) := by
  cases s with
  | text s => exact notRepeated_ofText kind s
  | number n => exact notRepeated_ofNumber kind n
  | ordinal n =>
    simp only [Leaf.ofScalar, Leaf.ofOrdinal, Leaf.ofPosition]
    split
    · split
      · exact .ok _
      · exact .error nofun
    · exact notRepeated_ofNumber kind _
  | character c =>
    simp only [Leaf.ofScalar, Leaf.ofCharacter]
    split
    case h_6 => exact .error nofun
    all_goals exact notRepeated_ofText _ _
  | boolean b | null =>
    simp only [Leaf.ofScalar]
    split <;> first | exact .ok _ | exact .error nofun

end Scalars

section Arrays

variable {items : List Part} (h : ∀ part ∈ items, part.NotRepeated)

theorem notRepeated_checkLeftover (wanted total : Nat) :
    NotRepeated (checkLeftover reading wanted total) := by
  cases reading with
  | layers => exact .ok ()
  | cells | document | setAside | lent => exact .error nofun

include h

theorem notRepeated_decodeItems (item : Schema) :
    NotRepeated (decodeItems (Part.decoder reading item) items) := by
  induction items with
  | nil => exact .ok []
  | cons part parts ih =>
    obtain ⟨hpart, hparts⟩ := List.forall_mem_cons.1 h
    exact (hpart reading item).bind fun _ _ => (ih hparts).bind fun _ _ => .ok _

theorem notRepeated_decodeTuple (lengthLabel : String) (count : Nat) (schemas : List Schema) :
    NotRepeated (decodeTuple reading lengthLabel count (schemas.map (Part.decoder reading))
      items) := by
  induction schemas generalizing count items with
  | nil =>
    cases items with
    | nil => exact .ok []
    | cons part parts => exact (notRepeated_checkLeftover _ _).map _
  | cons schema schemas ih =>
    cases items with
    | nil => exact .error nofun
    | cons part parts =>
      obtain ⟨hpart, hparts⟩ := List.forall_mem_cons.1 h
      exact (hpart reading schema).bind fun _ _ => (ih hparts (count + 1)).bind fun _ _ => .ok _

theorem notRepeated_decodePositions (whole : Schema) (lengthLabel : String) (count : Nat)
    (fields : List (Field Schema)) :
    NotRepeated (decodePositions reading whole lengthLabel count fields items) := by
  induction fields generalizing count items with
  | nil =>
    cases items with
    | nil => exact .ok []
    | cons part parts => exact (notRepeated_checkLeftover _ _).map _
  | cons field fields ih =>
    cases items with
    | nil =>
      rw [decodePositions]
      split
      · exact (ih (List.forall_mem_nil _) (count + 1)).map _
      · exact .error (by simp)
    | cons part parts =>
      obtain ⟨hpart, hparts⟩ := List.forall_mem_cons.1 h
      exact (hpart reading _).bind fun _ _ => (ih hparts (count + 1)).bind fun _ _ => .ok _

end Arrays

section Objects

variable {members : List (String × Part)} (h : (Node.object members).DistinctNames)

theorem notRepeated_completeFields (own : List (String × Datum)) (fields : List (Field Schema)) :
    NotRepeated (completeFields own fields) := by
  induction fields with
  | nil => exact .ok []
  | cons field fields ih =>
    rw [completeFields]
    split
    · exact ih.map _
    · exact .error (by simp)

include h

theorem notRepeated_decodeTable (value : Schema) :
    NotRepeated (decodeTable reading value members) := by
  induction members with
  | nil => exact .ok []
  | cons m members ih =>
    have hrest := ih (h.of_sublist (List.sublist_cons_self m members))
    obtain _ | _ | ⟨-, hparts⟩ := h
    exact (hparts m List.mem_cons_self reading value).bind fun _ _ => hrest.bind fun _ _ => .ok _

/-- The names that were there before are not there again. -/
theorem notRepeated_readMembers (whole : Schema) (strict : Bool) (fields : List (Field Schema))
    {seen : List String} (hseen : ∀ m ∈ members, m.1 ∉ seen) :
    NotRepeated (readMembers reading whole strict fields seen members) := by
  induction members generalizing seen with
  | nil => exact .ok _
  | cons m members ih =>
    obtain ⟨name, part⟩ := m
    have hrest := h.of_sublist (List.sublist_cons_self (name, part) members)
    obtain _ | _ | ⟨hnames, hparts⟩ := h
    obtain ⟨hnew, -⟩ := List.nodup_cons.1 hnames
    obtain ⟨hname, hseen⟩ := List.forall_mem_cons.1 hseen
    rw [readMembers]
    split
    · rw [if_neg (by simpa using hname)]
      refine (hparts _ List.mem_cons_self reading _).bind fun d _ => (ih hrest ?_).bind
        fun rest _ => .ok _
      intro m hm hmem
      rcases List.mem_cons.1 hmem with hname' | hmem
      · exact hnew (List.mem_map.2 ⟨m, hm, hname'⟩)
      · exact hseen m hm hmem
    · split
      · exact .error (by simp)
      · exact (ih hrest hseen).bind fun rest _ => .ok _

theorem notRepeated_readTag {name : String} {part : Part} (hm : (name, part) ∈ members)
    (names : List String) : NotRepeated (readTag reading names part) := by
  obtain _ | _ | ⟨-, hparts⟩ := h
  exact (hparts _ hm reading _).map _

theorem notRepeated_takeTag (tag : String) (names : List String) {seen : Bool}
    (hseen : seen = true → ∀ m ∈ members, m.1 ≠ tag) :
    NotRepeated (takeTag reading tag names seen members) := by
  induction members generalizing seen with
  | nil => exact .ok _
  | cons m members ih =>
    obtain ⟨name, part⟩ := m
    have htag : NotRepeated (readTag reading names part) :=
      notRepeated_readTag h List.mem_cons_self names
    have hrest := h.of_sublist (List.sublist_cons_self (name, part) members)
    obtain _ | _ | ⟨hnames, -⟩ := h
    obtain ⟨hnew, -⟩ := List.nodup_cons.1 hnames
    rw [takeTag]
    split
    · rename_i hname
      rw [if_neg fun hs => hseen hs _ List.mem_cons_self hname]
      refine htag.bind fun variant _ => (ih hrest ?_).bind fun p _ => .ok _
      rintro - m hm rfl
      exact hnew (List.mem_map.2 ⟨m, hm, hname.symm⟩)
    · exact (ih hrest fun hs m hm => hseen hs m (List.mem_cons_of_mem _ hm)).bind fun p _ => .ok _

omit h in
theorem sublist_of_takeTag {tag : String} {names : List String} {seen : Bool}
    {found : Option String × List (String × Part)}
    (hfound : takeTag reading tag names seen members = .ok found) : found.2.Sublist members := by
  induction members generalizing seen found with
  | nil =>
    obtain rfl := Except.ok.inj hfound
    exact .slnil
  | cons m members ih =>
    rw [takeTag] at hfound
    split at hfound
    · split at hfound
      · cases hfound
      obtain ⟨variant, -, hfound⟩ := bind_eq_ok_iff.1 hfound
      obtain ⟨rest, hrest, hfound⟩ := bind_eq_ok_iff.1 hfound
      obtain rfl := Except.ok.inj hfound
      exact (ih hrest).cons m
    · obtain ⟨rest, hrest, hfound⟩ := bind_eq_ok_iff.1 hfound
      obtain rfl := Except.ok.inj hfound
      exact (ih hrest).cons_cons m

end Objects

section Nodes

variable {node : Node} (h : node.DistinctNames)

theorem notRepeated_variantName (names : List String) (s : String) :
    NotRepeated (variantName names s) := by
  unfold variantName
  split
  · exact .ok s
  · exact .error nofun

theorem notRepeated_checkForm (name : String) (form : Option (VariantForm Schema)) :
    NotRepeated (checkForm name form) := by
  unfold checkForm
  split
  · exact .ok _
  · exact .ok _
  · exact .error nofun

theorem notRepeated_decodeForm {part : Part} (hpart : part.NotRepeated) (name : String)
    (form : VariantForm Schema) : NotRepeated (decodeForm reading name part form) := by
  cases form with
  | unit | newtype _ | tuple _ _ => exact (hpart reading _).map _
  | struct label strict fields =>
    rw [decodeForm]
    split
    · exact (hpart reading _).map _
    · exact (hpart reading _).map _
    · exact .error (by simp)

theorem notRepeated_decodeNamed {part : Part} (hpart : part.NotRepeated)
    (variants : List (String × VariantForm Schema)) (key : String) :
    NotRepeated (decodeNamed reading variants key part) := by
  unfold decodeNamed
  split
  · exact notRepeated_decodeForm hpart key _
  · exact .error nofun

theorem notRepeated_firstFitting (name : String) (d : Option Datum) :
    NotRepeated (firstFitting name d) := by
  cases d with
  | none => exact .error nofun
  | some d => exact .ok d

theorem notRepeated_checkBytes (bytes : List Datum) : NotRepeated (checkBytes bytes) := by
  unfold checkBytes
  split
  · exact .error nofun
  · exact .ok _

theorem notRepeated_decodeBlank (node : Node) : NotRepeated (decodeBlank reading node) := by
  unfold decodeBlank
  split
  · exact .ok _
  · exact .ok _
  · exact (notRepeated_checkLeftover _ _).map _
  · exact .error nofun

include h

theorem notRepeated_decodeBytes : NotRepeated (decodeBytes reading node) := by
  unfold decodeBytes
  split
  · exact notRepeated_checkBytes _
  · obtain _ | ⟨hitems⟩ := h
    exact (notRepeated_decodeItems hitems _).bind fun _ _ => notRepeated_checkBytes _
  · exact .error nofun

theorem notRepeated_decodeChoice (name : String) (variants : List (String × VariantForm Schema)) :
    NotRepeated (decodeChoice reading name variants node) := by
  unfold decodeChoice
  split
  · exact (notRepeated_variantName _ _).bind fun _ _ => notRepeated_checkForm _ _
  split
  · obtain _ | _ | ⟨-, hparts⟩ := h
    exact notRepeated_decodeNamed (hparts _ List.mem_cons_self) variants _
  all_goals exact .error nofun

theorem notRepeated_decodeRecord (whole : Schema) (label : String) (strict : Bool)
    (fields : List (Field Schema)) :
    NotRepeated (decodeRecord reading whole label strict fields node) := by
  cases h with
  | scalar s => exact .error nofun
  | array hitems => exact (notRepeated_decodePositions hitems _ _ _ _).map _
  | object hnames hparts =>
    exact (notRepeated_readMembers (.object hnames hparts) _ _ _ (by simp)).bind fun _ _ =>
      (notRepeated_completeFields _ _).map _

/-- What a tag leaves over has no repeated names either. -/
theorem notRepeated_splitTag (name tag : String) (names : List String) :
    NotRepeated (splitTag reading name tag names node)
      ∧ ∀ found, splitTag reading name tag names node = .ok found → found.2.DistinctNames := by
  cases h with
  | scalar s => exact ⟨.error nofun, nofun⟩
  | @array items hitems =>
    rcases items with _ | ⟨part, parts⟩
    · exact ⟨.error nofun, nofun⟩
    obtain ⟨hpart, hparts⟩ := List.forall_mem_cons.1 hitems
    refine ⟨((hpart reading _).map _).bind fun _ _ => .ok _, fun found hfound => ?_⟩
    obtain ⟨variant, -, hfound⟩ := bind_eq_ok_iff.1 hfound
    obtain rfl := Except.ok.inj hfound
    exact .array hparts
  | @object members hnames hparts =>
    have hmembers : (Node.object members).DistinctNames := .object hnames hparts
    constructor
    · refine (notRepeated_takeTag hmembers tag names (by simp)).bind fun found _ => ?_
      obtain ⟨_ | variant, others⟩ := found
      · exact .error nofun
      · exact .ok _
    · intro found hfound
      obtain ⟨⟨variant?, others⟩, htag, hfound⟩ := bind_eq_ok_iff.1 hfound
      have hothers := hmembers.of_sublist (sublist_of_takeTag htag)
      rcases variant? with _ | variant
      · cases hfound
      · obtain rfl := Except.ok.inj hfound
        exact hothers

theorem notRepeated_decodeTagged (name tag : String) (names : List String)
    {decodeContent : String → Node → Except DecodeFailure Datum}
    (hcontent : ∀ variant {content : Node}, content.DistinctNames →
      NotRepeated (decodeContent variant content)) :
    NotRepeated (decodeTagged reading name tag names decodeContent node) := by
  obtain ⟨hsplit, hothers⟩ := notRepeated_splitTag h name tag names
  exact hsplit.bind fun found hfound =>
    (hcontent found.1 (hothers found hfound)).bind fun _ _ => .ok _

end Nodes

section Collected

variable {members : List (String × Part)} (h : (Node.object members).DistinctNames)
include h

theorem notRepeated_decodeFirstVariant (name : String)
    (variants : List (String × VariantForm Schema)) :
    NotRepeated (decodeFirstVariant name variants members) := by
  obtain _ | _ | ⟨-, hparts⟩ := h
  unfold decodeFirstVariant
  split
  · rename_i hfind
    exact notRepeated_decodeNamed (hparts _ (List.mem_of_find?_eq_some hfind)) variants _
  · exact .error nofun

/-- What a record leaves over are other members of the same object. -/
theorem notRepeated_decodeCollecting (whole : Schema) (fields : List (Field Schema))
    {decodeRest : List (String × Part) → Except DecodeFailure Datum}
    (hrest : ∀ {others : List (String × Part)}, (Node.object others).DistinctNames →
      NotRepeated (decodeRest others)) :
    NotRepeated (decodeCollecting reading whole fields decodeRest members) := by
  refine (notRepeated_readMembers h _ _ _ (by simp)).bind fun found hfound => ?_
  refine (notRepeated_completeFields _ _).bind fun own _ => ?_
  obtain ⟨-, -, -, -, hother⟩ := readMembers_eq_ok_iff.1 hfound
  refine (hrest ?_).bind fun others _ => .ok _
  rw [← hother]
  exact h.of_sublist List.filter_sublist

end Collected

mutual

/-- By no schema a node without repeated names fails for a repeated field. -/
theorem notRepeated_decodeAt : ∀ (schema : Schema) {reading : Reading} {node : Node},
    node.DistinctNames → NotRepeated (decodeAt reading schema node)
  | leaf kind, _, _, h => by
    cases h with
    | scalar s => exact notRepeated_ofScalar kind s
    | array _ | object _ _ =>
      rw [decodeAt]
      · split
        · exact .ok _
        · exact .error nofun
      · exact nofun
  | bytes, _, _, h => notRepeated_decodeBytes h
  | any, _, _, _ => .ok _
  | ignored, _, _, _ => .ok _
  | blank, _, node, _ => notRepeated_decodeBlank node
  | option content, reading, node, h => by
    rw [decodeAt]
    split
    · exact .ok _
    · exact notRepeated_decodeAt content h
  | list item, _, _, h => by
    cases h with
    | array hitems => exact (notRepeated_decodeItems hitems item).map _
    | scalar _ | object _ _ => exact .error nofun
  | mapping value, _, _, h => by
    cases h with
    | object hnames hparts => exact (notRepeated_decodeTable (.object hnames hparts) value).map _
    | scalar _ | array _ => exact .error nofun
  | tuple _ lengthLabel items, _, _, h => by
    cases h with
    | array hparts => exact (notRepeated_decodeTuple hparts lengthLabel 0 items).map _
    | scalar _ | object _ _ => exact .error nofun
  | newtype content, _, _, h => by
    rw [decodeAt]
    exact notRepeated_decodeAt content h
  | record label strict fields, _, _, h => notRepeated_decodeRecord h _ label strict fields
  | collecting label fields rest, _, _, h => by
    cases h with
    | object hnames hparts =>
      exact notRepeated_decodeCollecting (.object hnames hparts) _ fields
        (notRepeated_decodeCollected rest)
    | scalar _ | array _ => exact .error nofun
  | choice name variants, _, _, h => notRepeated_decodeChoice h name variants
  | tagged name tag variants, _, _, h => by
    rw [decodeAt]
    exact notRepeated_decodeTagged h name tag _ fun variant =>
      notRepeated_decodeVariant variant variants
  | alternatives name variants, _, _, _ => notRepeated_firstFitting name _
  | self, _, _, _ => .error nofun

theorem notRepeated_decodeCollected : ∀ (schema : Schema) {members : List (String × Part)},
    (Node.object members).DistinctNames → NotRepeated (decodeCollected schema members)
  | leaf kind, _, _ => by
    cases kind with
    | unit | unitStruct _ => exact .ok _
    | _ => exact .error nofun
  | any, _, _ => .ok _
  | ignored, _, _ => .ok _
  | blank, _, _ => notRepeated_decodeBlank _
  | option _, _, _ => .ok _
  | mapping value, _, h => (notRepeated_decodeTable h value).map _
  | newtype content, _, h => by
    rw [decodeCollected]
    exact notRepeated_decodeCollected content h
  | record label _ fields, _, h => notRepeated_decodeRecord h _ label false fields
  | collecting _ fields rest, _, h => by
    rw [decodeCollected]
    exact notRepeated_decodeCollecting h _ fields (notRepeated_decodeCollected rest)
  | choice name variants, _, h => notRepeated_decodeFirstVariant h name variants
  | tagged name tag variants, _, h => by
    rw [decodeCollected]
    exact notRepeated_decodeTagged h name tag _ fun variant =>
      notRepeated_decodeVariant variant variants
  | alternatives name _, _, _ => notRepeated_firstFitting name _
  | bytes, _, _ | list _, _, _ | tuple _ _ _, _, _ | self, _, _ => .error nofun

theorem notRepeated_decodeVariant (variant : String) : ∀ (variants : List (String × Schema))
    {node : Node}, node.DistinctNames → NotRepeated (decodeVariant variant variants node)
  | [], _, _ => .error nofun
  | (name, content) :: variants, node, h => by
    rw [decodeVariant]
    split
    · exact notRepeated_decodeAt content h
    · exact notRepeated_decodeVariant variant variants h

end

end Schema

theorem Value.DistinctKeys.part {v : Value} (h : v.DistinctKeys) : v.part.NotRepeated := by
  induction h with
  | scalar text => exact fun reading schema => Schema.notRepeated_decodeAt schema (.scalar _)
  | array _ ih =>
    intro reading schema
    rw [decode_part_array]
    exact Schema.notRepeated_decodeAt schema (.array (List.forall_mem_map.2 ih))
  | object hkeys _ ih =>
    intro reading schema
    rw [decode_part_object]
    refine Schema.notRepeated_decodeAt schema (.object ?_ (List.forall_mem_map.2 ih))
    rwa [List.map_map]

section Rows

variable {keys : KeyNaming} {w : Workbook} {height : Nat}

theorem CellValue.distinctKeys {cell : Cell} {v : Value} (h : CellValue keys w height cell v)
    (hspec : ∀ spec u, SpecValue keys w height spec u → u.DistinctKeys) : v.DistinctKeys := by
  cases h with
  | scalar text => exact .scalar text
  | reference hv => exact hspec _ _ hv
  | references value hv =>
    refine .array fun item hitem => ?_
    obtain ⟨i, rfl⟩ := List.mem_ofFn.1 hitem
    exact hspec _ _ (hv i)

/-- However often the columns of a row have a key, the object has it once, and so have all objects
in it. -/
theorem RowValue.distinctKeys : ∀ {height : Nat} {header : List String} {row : Row} {v : Value},
    RowValue keys w height header row v → v.DistinctKeys
  | height, header, row, v, h => by
    obtain ⟨key, value, -, hvalue, rfl⟩ := rowValue_iff.1 h
    rw [← Resolver.untaken_nil]
    refine .object (Resolver.nodup_untaken _ _) fun (_, _) hfield => ?_
    obtain ⟨-, hlookup⟩ := Resolver.mem_untaken_iff.1 hfield
    obtain ⟨i, -, -, rfl⟩ := Resolver.lookup_ofFn_eq_some_iff.1 hlookup
    refine (hvalue i).distinctKeys fun spec u hu => ?_
    cases height with
    | zero => exact absurd hu not_specValue_zero
    | succ height =>
      obtain ⟨d, -, hd⟩ := specValue_succ_iff.1 hu
      exact hd.distinctKeys

end Rows

namespace Resolver

variable {r : Resolver} {w : Workbook} {name : String}

theorem notRepeated_of_sheet {values : List Value} (h : (r.sheet w name).outcome = .ok values)
    {v : Value} (hv : v ∈ values) (schema : Schema) : NotRepeated (v.decode schema) := by
  obtain ⟨d, -, hd⟩ := exists_dataRow_of_sheet h hv
  have hvalue : RowValue r.keys w r.maxDepth d.sheet.header d.row v :=
    (resolve_eq_ok_iff r.maxDepth).1 hd
  exact hvalue.distinctKeys.part .cells schema

/-- Whatever it is that decodes a row, a sheet is decoded row by row, and whatever the schema is, no
row fails for a repeated field. -/
theorem parse_rows (r : Resolver) (w : Workbook) (name : String) :
    (∀ {α : Type} (decode : Value → Except DecodeFailure α),
        r.ParsesRows w name decode (r.parseBy w decode name).outcome)
      ∧ (∀ schema, r.ParsesRows w name (Value.decode schema) (r.parse w schema name).outcome)
      ∧ ∀ schema index field,
        (r.parse w schema name).outcome ≠ .error (.undecodable index (.duplicateField field)) := by
  refine ⟨fun decode => parsesRows_parseBy decode, fun schema => parsesRows_parseBy _,
    fun schema index field h => ?never⟩
  case never =>
    obtain ⟨values, hvalues, hfailure⟩ := parseBy_eq_undecodable_iff.1 h
    rw [← List.ofFn_get values] at hfailure
    obtain ⟨i, -, hi, -⟩ := decodeRows_ofFn_eq_undecodable_iff.1 hfailure
    exact notRepeated_of_sheet hvalues (List.get_mem values i) schema field hi

/-- Two columns of one name, the first of which counts. -/
def doubled : Workbook where
  sheets := [⟨"item", [["a", "a"], ["1", "x"], ["y", "2"]]⟩]
  sorted := by decide

example : (parse ⟨.verbatim, 0⟩ doubled Catalog.strict "item").outcome
    = .error (.undecodable 1 (.invalidValue (.text "y") "u8")) := rfl

/-- An object that does not come from a row may well have a field twice. -/
example : Json.decode .cells Catalog.strict (.object [("a", .text "1"), ("a", .text "2")])
    = .error (.duplicateField "a") := rfl

end Resolver

end LinkedSheets
