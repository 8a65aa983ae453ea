import LinkedSheets.Proofs.Layout
import LinkedSheets.Proofs.ReadBack
import LinkedSheets.Resolution.Typed
import Mathlib.Data.List.Forall2

/-!
# Writing loses nothing

A value is written as its tokens, either one behind the other or in lines, and it is the only value
that is read from them: `Value.toJson` keeps order and repeated keys, and no two values have the
same JSON (`Value.readFrom_written`).

Where objects are tables there are no repeated names, and the last of them counts. The document that
a value decodes to by a schema for anything is the same as the one that its texts are read as,
unless it has more brackets inside each other than a document may have. Then it decodes all the
same, but its texts are refused (`Value.read_nest`).
-/

namespace LinkedSheets

namespace Json

theorem map_value_itemParts (items : List Json) : (itemParts items).map (·.value) = items := by
  induction items with
  | nil => rfl
  | cons item items ih => exact congrArg (item :: ·) ih

theorem map_value_memberParts (members : List (String × Json)) :
    (memberParts members).map (fun c => (c.1, c.2.value)) = members := by
  induction members with
  | nil => rfl
  | cons c members ih => exact congrArg (c :: ·) ih

/-- Any value is kept as it is, but for repeated names. -/
theorem decode_any (reading : Reading) (j : Json) :
    j.decode reading .any = .ok (.json j.canonical) := by
  cases j with
  | array items => simp [decode, Schema.decodeAt, Node.toJson, map_value_itemParts]
  | object members => simp [decode, Schema.decodeAt, Node.toJson, map_value_memberParts]
  | _ => rfl

end Json

namespace Value

section Equal

mutual

theorem same_iff_eq : ∀ u v : Value, u.same v ↔ u = v
  | scalar s, scalar t => by simp [same]
  | array us, array vs => by simp [same, sameItems_iff_eq us vs]
  | object us, object vs => by simp [same, sameFields_iff_eq us vs]
  | scalar _, array _ | scalar _, object _ | array _, scalar _ | array _, object _
  | object _, scalar _ | object _, array _ => by simp [same]

theorem sameItems_iff_eq : ∀ us vs : List Value, sameItems us vs ↔ us = vs
  | [], [] => by simp [sameItems]
  | [], _ :: _ | _ :: _, [] => by simp [sameItems]
  | u :: us, v :: vs => by simp [sameItems, same_iff_eq u v, sameItems_iff_eq us vs]

theorem sameFields_iff_eq : ∀ us vs : List (String × Value), sameFields us vs ↔ us = vs
  | [], [] => by simp [sameFields]
  | [], _ :: _ | _ :: _, [] => by simp [sameFields]
  | (k, u) :: us, (l, v) :: vs => by
    simp [sameFields, same_iff_eq u v, sameFields_iff_eq us vs]

end

mutual

theorem eq_of_toJson_eq : ∀ {u v : Value}, u.toJson = v.toJson → u = v
  | scalar s, scalar t, h => by simpa [toJson] using h
  | array us, array vs, h => by
    have h : itemsToJson us = itemsToJson vs := by simpa [toJson] using h
    rw [eq_of_itemsToJson_eq h]
  | object us, object vs, h => by
    have h : fieldsToJson us = fieldsToJson vs := by simpa [toJson] using h
    rw [eq_of_fieldsToJson_eq h]
  | scalar _, array _, h | scalar _, object _, h | array _, scalar _, h | array _, object _, h
  | object _, scalar _, h | object _, array _, h => by simp [toJson] at h

theorem eq_of_itemsToJson_eq : ∀ {us vs : List Value}, itemsToJson us = itemsToJson vs → us = vs
  | [], [], _ => rfl
  | [], _ :: _, h | _ :: _, [], h => by simp [itemsToJson] at h
  | u :: us, v :: vs, h => by
    obtain ⟨hu, hus⟩ := List.cons.inj h
    rw [eq_of_toJson_eq hu, eq_of_itemsToJson_eq hus]

theorem eq_of_fieldsToJson_eq : ∀ {us vs : List (String × Value)},
    fieldsToJson us = fieldsToJson vs → us = vs
  | [], [], _ => rfl
  | [], _ :: _, h | _ :: _, [], h => by simp [fieldsToJson] at h
  | (k, u) :: us, (l, v) :: vs, h => by
    obtain ⟨hu, hus⟩ := List.cons.inj h
    obtain ⟨hk, hu⟩ := Prod.mk.inj hu
    rw [hk, eq_of_toJson_eq hu, eq_of_fieldsToJson_eq hus]

end

end Equal

section Document

/-- The document that a value is where objects are tables: a table has its names in order, each
there once, and the last of repeated keys counts. -/
inductive Document : Value → Json → Prop
  | scalar (text : String) : Document (scalar text) (.text text)
  | array {items : List Value} {documents : List Json} (h : List.Forall₂ Document items documents) :
      Document (array items) (.array documents)
  | object {fields : List (String × Value)} {members : List (String × Json)}
      (hsorted : members.Pairwise (·.1 < ·.1))
      (hnames : ∀ key, (members.lookup key).isSome = (fields.reverse.lookup key).isSome)
      (h : ∀ key value document, fields.reverse.lookup key = some value →
        members.lookup key = some document → Document value document) :
      Document (object fields) (.object members)

theorem canonicalMembers_fieldsToJson (fields : List (String × Value)) :
    Json.canonicalMembers (fieldsToJson fields)
      = fields.map fun field => (field.1, field.2.toJson.canonical) := by
  induction fields with
  | nil => rfl
  | cons field fields ih => exact congrArg ((field.1, field.2.toJson.canonical) :: ·) ih

theorem lookup_canonical (fields : List (String × Value)) (key : String) :
    (Table.ofList (Json.canonicalMembers (fieldsToJson fields))).lookup key
      = (fields.reverse.lookup key).map fun value => value.toJson.canonical := by
  rw [Table.lookup_ofList, canonicalMembers_fieldsToJson, ← List.map_reverse]
  exact Table.lookup_map (fun value : Value => value.toJson.canonical) key fields.reverse

mutual

theorem document_canonical : ∀ v : Value, v.Document v.toJson.canonical
  | scalar text => .scalar text
  | array items => .array (forall₂_document_canonical items)
  | object fields => by
    refine .object (Table.pairwise_ofList _) (fun key => ?_) fun key value document hv hd => ?_
    · rw [lookup_canonical, Option.isSome_map]
    · rw [lookup_canonical, hv, Option.map_some] at hd
      obtain rfl := Option.some.inj hd
      obtain ⟨before, after, hsplit, -⟩ := List.lookup_eq_some_iff.1 hv
      have hfield : (key, value) ∈ fields := List.mem_reverse.1 (by simp [hsplit])
      exact field_document_canonical fields (key, value) hfield

theorem forall₂_document_canonical : ∀ items : List Value,
    List.Forall₂ Document items (Json.canonicalItems (itemsToJson items))
  | [] => .nil
  | item :: items => .cons (document_canonical item) (forall₂_document_canonical items)

theorem field_document_canonical : ∀ fields : List (String × Value), ∀ field ∈ fields,
    field.2.Document field.2.toJson.canonical
  | [], item, h => (List.not_mem_nil h).elim
  | (key, value) :: fields, field, h => by
    rcases List.mem_cons.1 h with rfl | h
    · exact document_canonical value
    · exact field_document_canonical fields field h

end

end Document

theorem readFrom_iff_eq {u v : Value} {text : String} (h : v.ReadFrom text) :
    u.ReadFrom text ↔ u = v := by
  constructor
  · exact fun hu => eq_of_toJson_eq (Except.ok.inj (hu.read.symm.trans h.read))
  · rintro rfl
    exact h

theorem map_canonical_read {v : Value} {text : String}
    (h : JsonToken.tokens (text.toList.map some) = v.toJson.tokens) :
    (Json.read text).map Json.canonical
      = if v.toJson.levels ≤ 127 then .ok v.toJson.canonical else .error .malformed := by
  rw [read_of_tokens h]
  split <;> rfl

theorem eq_of_compact_eq {u v : Value} (h : u.toJson.compact = v.toJson.compact) : u = v :=
  (readFrom_iff_eq (readFrom_compact v)).1 (h ▸ readFrom_compact u)

/-- Writing loses nothing. Both texts of a value are its tokens, one behind the other or in lines,
and each is read as that value and no other, so values with one compact text are the same. The
document that the value decodes to is the one that either text is read as, unless it is too deep to
be read. -/
theorem readFrom_written (v : Value) :
    (v.toJson.compact = String.ofList (v.toJson.tokens.flatMap JsonToken.spelling)
        ∧ v.toJson.pretty = String.ofList (JsonToken.inLines 0 v.toJson.tokens))
      ∧ (∀ u : Value, u.ReadFrom v.toJson.compact ↔ u = v)
      ∧ (∀ u : Value, u.ReadFrom v.toJson.pretty ↔ u = v)
      ∧ (∀ u : Value, (u.toJson.compact = v.toJson.compact ↔ u = v) ∧ (u.same v ↔ u = v))
      ∧ ∃ document, v.Document document ∧ v.decode .any = .ok (.json document)
        ∧ (Json.read v.toJson.compact).map Json.canonical
          = (if v.toJson.levels ≤ 127 then .ok document else .error .malformed)
        ∧ (Json.read v.toJson.pretty).map Json.canonical
          = (if v.toJson.levels ≤ 127 then .ok document else .error .malformed) := by
  refine ⟨⟨?compact, ?pretty⟩, fun u => readFrom_iff_eq (readFrom_compact v),
    fun u => readFrom_iff_eq (readFrom_pretty v),
    fun u => ⟨⟨eq_of_compact_eq, ?_⟩, same_iff_eq u v⟩,
    v.toJson.canonical, document_canonical v, Json.decode_any _ _,
    map_canonical_read (tokens_compact v), map_canonical_read (tokens_pretty v)⟩
  case compact => rw [Json.compact, Json.compactChars_eq_flatMap_spelling]
  case pretty => rw [Json.pretty, Json.prettyChars_eq_inLines]
  · rintro rfl
    rfl

/-- Arrays inside of each other. -/
def nest : Nat → Value
  | 0 => array []
  | depth + 1 => array [nest depth]

theorem levels_nest (depth : Nat) : (nest depth).toJson.levels = depth + 1 := by
  induction depth with
  | zero => rfl
  | succ depth ih => simp [nest, toJson, itemsToJson, Json.levels, Json.itemLevels, ih]

/-- With one bracket more than a document may have, a value decodes to a document, but neither of
its texts is read as one. -/
theorem read_nest : ∃ document,
    (object [("s", nest 126)]).decode .any = .ok (.json document)
      ∧ Json.read (object [("s", nest 126)]).toJson.compact = .error .malformed
      ∧ Json.read (object [("s", nest 126)]).toJson.pretty = .error .malformed := by
  have hlevels : (object [("s", nest 126)]).toJson.levels = 128 := by
    simp [toJson, fieldsToJson, Json.levels, Json.memberLevels, levels_nest]
  refine ⟨_, Json.decode_any _ _, ?_, ?_⟩
  · rw [read_of_tokens (tokens_compact _), hlevels]
    rfl
  · rw [read_of_tokens (tokens_pretty _), hlevels]
    rfl

example : (object [("k", scalar "\t"), ("k", array [])]).toJson.pretty
    = "\x7b\n  \"k\": \"\\t\",\n  \"k\": []\n\x7d" := by
  decide

end Value

end LinkedSheets
