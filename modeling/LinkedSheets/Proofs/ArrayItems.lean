import LinkedSheets.Proofs.FieldOrder
import LinkedSheets.Schema.Catalog

/-!
# The items of an array

An array is decoded item by item, and stops at the first one that does not decode. Nothing of this
depends on what decodes an item. As a list all items go by one decoder, and the list is there just
when all of them are (`ReadsEach`, `Schema.decodeItems_eq_mapM`). Where they are wanted by position
each goes by a decoder of its own, as far as there are both, and then their number has to be right
(`ReadsByPosition`, `Schema.decodeTuple_eq_mapM`).

A record that is read by position is such a tuple, with names put to the items, as long as no field
has a default; an option has to be there like any other field
(`Schema.decodePositions_eq_decodeTuple`).
-/

namespace LinkedSheets

section Decoders

variable {α β δ : Type}

/-- All items go by one decoder. What they come to together is there just when each of them decodes,
in their order, and otherwise it fails as the first item does that fails. -/
structure ReadsEach (decode : α → Except DecodeFailure β) (items : List α) (make : List β → δ)
    (result : Except DecodeFailure δ) : Prop where
  ok : ∀ d, result = .ok d ↔
    ∃ ds, List.Forall₂ (fun item d => decode item = .ok d) items ds ∧ d = make ds
  error : ∀ e, result = .error e ↔ ∃ before item after, items = before ++ item :: after
    ∧ (∀ u ∈ before, ∃ d, decode u = .ok d) ∧ decode item = .error e

/-- An item goes by the decoder that its position has. -/
def decodePair (p : α × (α → Except DecodeFailure β)) : Except DecodeFailure β :=
  p.2 p.1

/-- Each item goes by the decoder at its position, and there have to be as many items as decoders.
The first item that fails is what the whole fails for. When those that were read decode, items that
are missing and items that are left over are told by how many there are. -/
structure ReadsByPosition (decoders : List (α → Except DecodeFailure β)) (items : List α)
    (lengthLabel : String) (make : List β → δ) (result : Except DecodeFailure δ) : Prop where
  ok : ∀ d, result = .ok d ↔ items.length = decoders.length ∧ ∃ ds,
    List.Forall₂ (fun p d => decodePair p = .ok d) (items.zip decoders) ds ∧ d = make ds
  error : ∀ before p after e, items.zip decoders = before ++ p :: after →
    (∀ b ∈ before, ∃ d, decodePair b = .ok d) → decodePair p = .error e → result = .error e
  short : (∀ p ∈ items.zip decoders, ∃ d, decodePair p = .ok d) → items.length < decoders.length →
    result = .error (.invalidLength items.length lengthLabel)
  long : (∀ p ∈ items.zip decoders, ∃ d, decodePair p = .ok d) → decoders.length < items.length →
    result = .error (.invalidLength items.length
      (Schema.lengthNoun decoders.length " element in sequence" " elements in sequence"))

namespace Schema

/-- Items are wanted by position, and so many of them: there may be too few or too many. -/
def checkCount (reading : Reading) (lengthLabel : String) (wanted total : Nat) :
    Except DecodeFailure Unit :=
  if total < wanted then .error (.invalidLength total lengthLabel)
  else if total = wanted then .ok ()
  else checkLeftover reading wanted total

theorem decodeItems_eq_mapM (decode : α → Except DecodeFailure β) (items : List α) :
    decodeItems decode items = items.mapM decode := by
  induction items with
  | nil => rfl
  | cons item items ih =>
    rw [decodeItems, List.mapM_cons, ih]
    rfl

/-- The items are decoded in turn before it matters how many there are. -/
theorem decodeTuple_eq_mapM {reading : Reading} (lengthLabel : String) (count : Nat)
    (decoders : List (α → Except DecodeFailure β)) (items : List α) :
    decodeTuple reading lengthLabel count decoders items
      = (items.zip decoders).mapM decodePair >>= fun ds =>
        (checkCount reading lengthLabel (count + decoders.length) (count + items.length)).map
          fun () => ds := by
  induction decoders generalizing count items with
  | nil =>
    cases items with
    | nil => simp [decodeTuple, checkCount, Except.map]
    | cons item items =>
      have hless : ¬ count + (items.length + 1) < count := by omega
      simp [decodeTuple, checkCount, hless]
  | cons decode decoders ih =>
    cases items with
    | nil => simp [decodeTuple, checkCount, Except.map]
    | cons item items =>
      have hcount : ∀ n, count + 1 + n = count + (n + 1) := by omega
      have hitem : decodePair (item, decode) = decode item := rfl
      rw [decodeTuple, ih, List.zip_cons_cons, List.mapM_cons, List.length_cons, List.length_cons,
        hcount, hcount, hitem]
      rcases decode item with e | d
      · rfl
      rcases (items.zip decoders).mapM decodePair with e | ds
      · rfl
      simp only [ok_bind, pure_eq_ok]
      cases checkCount reading lengthLabel _ _ <;> rfl

theorem readsEach_decodeItems (decode : α → Except DecodeFailure β) (items : List α)
    (make : List β → δ) : ReadsEach decode items make ((decodeItems decode items).map make) where
  ok d := by
    rw [decodeItems_eq_mapM, exceptMap_eq_ok_iff]
    simp only [mapM_eq_ok_iff_forall₂]
  error e := by
    rw [decodeItems_eq_mapM, ← mapM_eq_error_iff]
    exact map_eq_error_iff

theorem readsByPosition_decodeTuple (decoders : List (α → Except DecodeFailure β)) (items : List α)
    (lengthLabel : String) (make : List β → δ) : ReadsByPosition decoders items lengthLabel make
      ((decodeTuple .cells lengthLabel 0 decoders items).map make) := by
  have heq : decodeTuple .cells lengthLabel 0 decoders items
      = (items.zip decoders).mapM decodePair >>= fun ds =>
        (checkCount .cells lengthLabel decoders.length items.length).map fun () => ds := by
    rw [decodeTuple_eq_mapM, Nat.zero_add, Nat.zero_add]
  constructor
  case ok =>
    intro d
    simp only [heq, exceptMap_eq_ok_iff, bind_eq_ok_iff, mapM_eq_ok_iff_forall₂]
    constructor
    · rintro ⟨ds, ⟨_, hds, _, hcount, rfl⟩, rfl⟩
      refine ⟨?_, ds, hds, rfl⟩
      unfold checkCount at hcount
      split at hcount
      · cases hcount
      split at hcount
      · assumption
      · cases hcount
    · rintro ⟨hlength, ds, hds, rfl⟩
      exact ⟨ds, ⟨ds, hds, (), by simp [checkCount, hlength], rfl⟩, rfl⟩
  case error =>
    intro before p after e hsplit hbefore hp
    rw [heq, mapM_eq_error_iff.2 ⟨before, p, after, hsplit, hbefore, hp⟩]
    rfl
  case short =>
    intro hitems hlt
    obtain ⟨ds, hds⟩ := (exists_mapM_eq_ok_iff _).2 hitems
    rw [heq, hds, ok_bind, checkCount, if_pos hlt]
    rfl
  case long =>
    intro hitems hgt
    obtain ⟨ds, hds⟩ := (exists_mapM_eq_ok_iff _).2 hitems
    rw [heq, hds, ok_bind, checkCount, if_neg (Nat.not_lt.2 hgt.le), if_neg hgt.ne']
    rfl

end Schema

end Decoders

namespace Schema

/-- Without defaults the fields of a record are a tuple. -/
theorem decodePositions_eq_decodeTuple {reading : Reading} {whole : Schema} (lengthLabel : String)
    (count : Nat) {fields : List (Field Schema)} (h : ∀ field ∈ fields, field.default? = none)
    (parts : List Part) : decodePositions reading whole lengthLabel count fields parts
      = (decodeTuple reading lengthLabel count
          ((fields.map fun field => unfold whole field.content).map (Part.decoder reading))
          parts).map ((fieldNames fields).zip ·) := by
  induction fields generalizing count parts with
  | nil =>
    cases parts with
    | nil => rfl
    | cons part parts =>
      simp only [decodePositions, decodeTuple, List.map_nil]
      cases checkLeftover reading count (count + (part :: parts).length) <;> rfl
  | cons field fields ih =>
    obtain ⟨hfield, hfields⟩ := List.forall_mem_cons.1 h
    cases parts with
    | nil => simp [decodePositions, decodeTuple, hfield, Except.map]
    | cons part parts =>
      rw [decodePositions, List.map_cons, List.map_cons, decodeTuple, ih (count + 1) hfields,
        Part.decoder]
      rcases part.decode reading (unfold whole field.content) with e | d
      · rfl
      simp only [ok_bind]
      cases decodeTuple reading lengthLabel (count + 1) _ parts <;> rfl

/-- Schemas that want items by position, none of which has a default: with the schemas of the items,
the label for another number of them, and what the items make up. -/
inductive ByPosition : Schema → List Schema → String → (List Datum → Datum) → Prop
  | tuple (label lengthLabel : String) (items : List Schema) :
      ByPosition (.tuple label lengthLabel items) items lengthLabel .list
  | record (label : String) (strict : Bool) {fields : List (Field Schema)}
      (h : ∀ field ∈ fields, field.default? = none) :
      ByPosition (.record label strict fields)
        (fields.map fun field => unfold (.record label strict fields) field.content)
        (recordLengthLabel label fields) fun ds => .table ((fieldNames fields).zip ds)

end Schema

namespace Value

open Schema (ByPosition decodeItems decodeTuple)

theorem decodeItems_parts (item : Schema) (values : List Value) :
    decodeItems (Part.decoder .cells item) (values.map part)
      = decodeItems (decode item) values := by
  induction values with
  | nil => rfl
  | cons v values ih => rw [List.map_cons, decodeItems, decodeItems, ih, Part.decoder, decode_part]

theorem decodeTuple_parts (lengthLabel : String) (count : Nat) (items : List Schema)
    (values : List Value) :
    decodeTuple .cells lengthLabel count (items.map (Part.decoder .cells)) (values.map part)
      = decodeTuple .cells lengthLabel count (items.map decode) values := by
  induction items generalizing count values with
  | nil => cases values <;> simp [decodeTuple]
  | cons item items ih =>
    cases values with
    | nil => rfl
    | cons v values =>
      simp only [List.map_cons, decodeTuple, ih, Part.decoder, decode_part]

theorem decode_list (item : Schema) (values : List Value) :
    (array values).decode (.list item) = (decodeItems (decode item) values).map .list := by
  rw [← decode_part, decode_part_array, Schema.decodeAt, decodeItems_parts]

theorem decode_byPosition {schema : Schema} {items : List Schema} {lengthLabel : String}
    {make : List Datum → Datum} (h : ByPosition schema items lengthLabel make)
    (values : List Value) : (array values).decode schema
      = (decodeTuple .cells lengthLabel 0 (items.map decode) values).map make := by
  rw [← decode_part, decode_part_array]
  cases h with
  | tuple label lengthLabel items => rw [Schema.decodeAt, decodeTuple_parts]
  | record label strict hfields =>
    rw [Schema.decodeAt, Schema.decodeRecord, Schema.decodePositions_eq_decodeTuple _ _ hfields,
      decodeTuple_parts]
    generalize decodeTuple .cells _ _ _ values = x
    rcases x with e | ds <;> rfl

/-- Whatever it is that decodes an item, an array decodes as a list just when each of its items
does, and otherwise fails as the first item that fails. Where items are wanted by position there
have to be as many as are wanted, each decoding by what its position has, options among them. So it
is with lists, tuples and records of any schemas. -/
theorem decode_array_exact (values : List Value) :
    (∀ {β δ : Type} (decode : Value → Except DecodeFailure β) (make : List β → δ),
        ReadsEach decode values make ((decodeItems decode values).map make))
      ∧ (∀ item, ReadsEach (decode item) values Datum.list ((array values).decode (.list item)))
      ∧ (∀ {β δ : Type} (decoders : List (Value → Except DecodeFailure β)) (lengthLabel : String)
          (make : List β → δ), ReadsByPosition decoders values lengthLabel make
            ((decodeTuple .cells lengthLabel 0 decoders values).map make))
      ∧ ∀ schema items lengthLabel make, ByPosition schema items lengthLabel make →
        ReadsByPosition (items.map decode) values lengthLabel make
          ((array values).decode schema) := by
  refine ⟨fun decode make => Schema.readsEach_decodeItems decode values make, fun item => ?list,
    fun decoders lengthLabel make =>
      Schema.readsByPosition_decodeTuple decoders values lengthLabel make,
    fun schema items lengthLabel make h => ?position⟩
  case list =>
    rw [decode_list]
    exact Schema.readsEach_decodeItems (decode item) values Datum.list
  case position =>
    rw [decode_byPosition h]
    exact Schema.readsByPosition_decodeTuple (items.map decode) values lengthLabel make

/-- One item for a record of two fields, the second of which is an option, and three for a pair. -/
theorem decode_array_exact_node :
    ByPosition Catalog.node [Catalog.text, .option Catalog.node] "struct Node with 2 elements"
        (fun ds => .table (["id", "next"].zip ds))
      ∧ ByPosition Catalog.tupleStruct [Catalog.u8, Catalog.text]
        "tuple struct TupleStruct with 2 elements" .list
      ∧ (array [scalar "a"]).decode Catalog.node
        = .error (.invalidLength 1 "struct Node with 2 elements")
      ∧ (array [scalar "7", scalar "b", scalar "c"]).decode Catalog.tupleStruct
        = .error (.invalidLength 3 "2 elements in sequence") := by
  have hnode : ByPosition Catalog.node [Catalog.text, .option Catalog.node]
      "struct Node with 2 elements" (fun ds => .table (["id", "next"].zip ds)) :=
    .record "struct Node" false (by simp [Catalog.field])
  have htuple : ByPosition Catalog.tupleStruct [Catalog.u8, Catalog.text]
      "tuple struct TupleStruct with 2 elements" .list := .tuple _ _ _
  have hone : ∀ p ∈ [scalar "a"].zip ([Catalog.text, .option Catalog.node].map decode),
      ∃ d, decodePair p = .ok d := by
    simp only [List.map_cons, List.zip_cons_cons, List.zip_nil_left, List.mem_singleton, forall_eq]
    exact ⟨.text "a", rfl⟩
  have htwo : ∀ p ∈ [scalar "7", scalar "b", scalar "c"].zip
      ([Catalog.u8, Catalog.text].map decode), ∃ d, decodePair p = .ok d := by
    simp only [List.map_cons, List.map_nil, List.zip_cons_cons, List.zip_nil_right, List.mem_cons,
      List.not_mem_nil, or_false, forall_eq_or_imp, forall_eq]
    exact ⟨⟨.integer 7, rfl⟩, .text "b", rfl⟩
  exact ⟨hnode, htuple,
    ((decode_array_exact _).2.2.2 _ _ _ _ hnode).short hone (by decide),
    ((decode_array_exact _).2.2.2 _ _ _ _ htuple).long htwo (by decide)⟩

end Value

end LinkedSheets
