import LinkedSheets.Proofs.FieldOrder
import LinkedSheets.Proofs.Numeral

/-!
# Numbers in texts

A cell is a text, and a number is read out of it where one is asked of the cell itself: the decimal
text of every number that the type has is read back (`Value.decode_decimalText`).

Anywhere else a text stays the text that it was, whatever is asked of it
(`Schema.keepsText_of_decodeAt`), and what was set aside before its type was known is no cell any
more. So no number is read out of a text for the part of a record that collects other fields
(`Value.decode_collecting_ne_ok`), nor for one of several alternatives; and for numbers of 128 bits
nowhere at all.
-/

namespace LinkedSheets

open Decimal (IntegerRange)

/-- A number in decimal digits, with a minus in front of a negative one. -/
def decimalText (n : Int) : String :=
  String.ofList (Json.numberText (.integer n))

theorem decimalText_eq (n : Int) : decimalText n = String.ofList ([] ++ paddedText 0 n ++ []) := by
  rw [List.nil_append, List.append_nil]
  rfl

/-- The ways to take a text without reading anything out of it. -/
inductive Datum.KeepsText (text : String) : Datum → Prop
  | text : KeepsText text (.text text)
  | json : KeepsText text (.json (.text text))
  | bytes : KeepsText text (.list (text.toUTF8.toList.map fun b => .integer b.toNat))
  | ignored : KeepsText text .ignored

namespace Schema

theorem keepsText_of_ofText {reading : Reading} (hreading : reading ≠ .cells) {kind : Leaf}
    {text : String} {d : Datum} (h : kind.ofText reading text = .ok d) : d.KeepsText text := by
  cases kind with
  | character =>
    simp only [Leaf.ofText, Leaf.readCharacter?] at h
    split at h
    · exact Except.ok.inj h ▸ .text
    · cases h
  | text | path => exact Except.ok.inj h ▸ .text
  | textSuch | variant =>
    simp only [Leaf.ofText] at h
    split at h
    · exact Except.ok.inj h ▸ .text
    · cases h
  | boolean | integer | wideInteger | real | unit | unitStruct =>
    cases reading <;> first | exact absurd rfl hreading | cases h

theorem keepsText_of_decodeBytes {reading : Reading} {text : String} {d : Datum}
    (h : decodeBytes reading (.scalar (.text text)) = .ok d) : d.KeepsText text := by
  simp only [decodeBytes, checkBytes] at h
  split at h
  · cases h
  · exact Except.ok.inj h ▸ .bytes

theorem checkForm_eq_ok {name : String} {form? : Option (VariantForm Schema)} {d : Datum}
    (h : checkForm name form? = .ok d) : d = .text name := by
  rcases form? with _ | _ | _ | _ | _ <;> first | exact (Except.ok.inj h).symm | cases h

theorem variantName_eq_ok {names : List String} {s variant : String}
    (h : variantName names s = .ok variant) : variant = s := by
  unfold variantName at h
  split at h
  · exact (Except.ok.inj h).symm
  · cases h

theorem keepsText_of_decodeChoice {reading : Reading} {name : String}
    {variants : List (String × VariantForm Schema)} {text : String} {d : Datum}
    (h : decodeChoice reading name variants (.scalar (.text text)) = .ok d) : d.KeepsText text := by
  obtain ⟨variant, hvariant, hform⟩ := bind_eq_ok_iff.1 h
  obtain rfl := variantName_eq_ok hvariant
  exact checkForm_eq_ok hform ▸ .text

theorem eq_some_of_firstFitting {name : String} {d? : Option Datum} {d : Datum}
    (h : firstFitting name d? = .ok d) : d? = some d := by
  cases d? with
  | none => cases h
  | some d' => rw [Except.ok.inj h]

mutual

/-- A text that is no cell stays as it is under every schema that accepts it. -/
theorem keepsText_of_decodeAt {reading : Reading} (hreading : reading ≠ .cells) {text : String}
    {d : Datum} : ∀ schema : Schema,
      decodeAt reading schema (.scalar (.text text)) = .ok d → d.KeepsText text
  | leaf _, h => keepsText_of_ofText hreading h
  | bytes, h => keepsText_of_decodeBytes h
  | any, h => Except.ok.inj h ▸ .json
  | ignored, h => Except.ok.inj h ▸ .ignored
  | option content, h => by
    rw [decodeAt, if_neg (by simp [Node.isNothing, hreading])] at h
    exact keepsText_of_decodeAt hreading content h
  | newtype content, h => keepsText_of_decodeAt hreading content h
  | choice _ _, h => keepsText_of_decodeChoice h
  | alternatives _ variants, h => keepsText_of_decodeFirst variants (eq_some_of_firstFitting h)
  | blank, h | list _, h | mapping _, h | tuple _ _ _, h | record _ _ _, h | collecting _ _ _, h
  | tagged _ _ _, h | self, h => by cases h

theorem keepsText_of_decodeFirst {text : String} {d : Datum} :
    ∀ variants : List Schema,
      decodeFirst variants (.scalar (.text text)) = some d → d.KeepsText text
  | [], h => by cases h
  | schema :: rest, h => by
    rw [decodeFirst] at h
    split at h
    · obtain rfl := Option.some.inj h
      rename_i hd
      exact keepsText_of_decodeAt (by decide) schema hd
    · exact keepsText_of_decodeFirst rest h

end

end Schema

section Typed

open Schema (FieldDecodes decodeCollecting_eq_ok_iff decodeRecord_object_eq_ok_iff
  find?_field_eq_none_iff)

variable {r : IntegerRange} {n : Int}

namespace Catalog

def residentFields (r : IntegerRange) : List (Field Schema) :=
  [field "name" text, field "zip" (.leaf (.integer r))]

/-- A name and a number that are both fields of the record itself, where `flatTyped` collects the
number. -/
def residentTyped (r : IntegerRange) : Schema :=
  record "Resident" (residentFields r)

end Catalog

namespace Value

open Catalog (field residentFields residentTyped)

def resident (name zip : String) : Value :=
  .object [("name", .scalar name), ("zip", .scalar zip)]

/-- A number is read out of the cell that it is asked of. -/
theorem decode_decimalText (h : r.holds n) :
    (scalar (decimalText n)).decode (.leaf (.integer r)) = .ok (.integer n) := by
  rw [decimalText_eq]
  exact decode_padded_of_has (by simp) 0 (holds_iff_has.1 h)

theorem decode_residentTyped (name : String) (h : r.holds n) :
    (resident name (decimalText n)).decode (residentTyped r)
      = .ok (.table [("name", .text name), ("zip", .integer n)]) := by
  have hname : FieldDecodes .cells (residentTyped r) (residentFields r) "name"
      (scalar name).part (.text name) :=
    ⟨field "name" Catalog.text, by simp [residentFields, field], rfl⟩
  have hzip : FieldDecodes .cells (residentTyped r) (residentFields r) "zip"
      (scalar (decimalText n)).part (.integer n) := by
    refine ⟨field "zip" (.leaf (.integer r)), by simp [residentFields, field], ?_⟩
    rw [decode_part]
    exact decode_decimalText h
  have hobject : (resident name (decimalText n)).decode (residentTyped r)
      = Schema.decodeRecord .cells (residentTyped r) "struct Resident" false (residentFields r)
        (.object [("name", (scalar name).part), ("zip", (scalar (decimalText n)).part)]) :=
    (decode_part _ _).symm.trans (decode_part_object ..)
  rw [hobject, decodeRecord_object_eq_ok_iff]
  refine ⟨_, ⟨nofun, ?once, ?decodes, ?values⟩, rfl⟩
  case once => simp [residentFields, field, Schema.fieldNames]
  case decodes =>
    rintro m hm -
    rcases List.mem_pair.1 hm with rfl | rfl
    · exact ⟨_, hname⟩
    · exact ⟨_, hzip⟩
  case values =>
    refine .cons ⟨rfl, .present ?_ hname⟩ (.cons ⟨rfl, .present ?_ hzip⟩ .nil)
    · exact List.mem_cons_self
    · exact List.mem_cons_of_mem _ List.mem_cons_self

/-- A field that is collected for another record is not read as a number out of a text. -/
theorem decode_collecting_ne_ok {members : List (String × Value)} {label label' : String}
    {strict : Bool} {own fields : List (Field Schema)} {key text : String} {f : Field Schema}
    (hown : key ∉ Schema.fieldNames own) (hfield : fields.find? (·.name == key) = some f)
    (hcontent : f.content = .leaf (.integer r)) (hmem : (key, scalar text) ∈ members) (d : Datum) :
    (object members).decode (.collecting label own (.record label' strict fields)) ≠ .ok d := by
  intro h
  rw [← decode_part, decode_part_object, Schema.decodeAt, decodeCollecting_eq_ok_iff] at h
  obtain ⟨_, others, -, hothers, -⟩ := h
  obtain ⟨_, hvalue, -⟩ := decodeRecord_object_eq_ok_iff.1 hothers
  have hother : (key, (scalar text).part) ∈
      Schema.otherMembers own (members.map fun c => (c.1, c.2.part)) :=
    List.mem_filter.2 ⟨List.mem_map.2 ⟨_, hmem, rfl⟩, by simpa using hown⟩
  have hname : key ∈ Schema.fieldNames fields := by
    by_contra hnot
    simp [find?_field_eq_none_iff.2 hnot] at hfield
  obtain ⟨c, f', hf', hc⟩ := hvalue.decodes _ hother hname
  obtain rfl : f = f' := by simpa [hfield] using hf'
  rw [hcontent] at hc
  cases hc

theorem decode_flatTyped (name zip : String) :
    (resident name zip).decode Catalog.flatTyped = .error (.invalidType (.text zip) "u32") :=
  rfl

theorem decode_untagged (text : String) :
    (scalar text).decode Catalog.untagged = .ok (.text text) :=
  rfl

theorem decode_wideInteger (signed : Bool) (text : String) :
    (scalar text).decode (Catalog.wideInteger signed)
      = .error (.invalidType (.text text) (if signed then "i128" else "u128")) := by
  cases signed <;> rfl

/-- A number is read out of its text by an integer type and by a record with a field of one. Where
the text is set aside first it is no cell any more and stays a text, so the same number is refused
by a record that collects the field, and is a text to alternatives that try an integer type first.
Numbers of 128 bits are read out of no text. -/
theorem decode_number_where_asked (name : String) (n : Int) :
    (∀ r : IntegerRange, r.holds n →
        (scalar (decimalText n)).decode (.leaf (.integer r)) = .ok (.integer n)
          ∧ (resident name (decimalText n)).decode (residentTyped r)
            = .ok (.table [("name", .text name), ("zip", .integer n)]))
      ∧ (∀ reading, reading ≠ .cells → ∀ schema d,
        Schema.decodeAt reading schema (.scalar (.text (decimalText n))) = .ok d →
          d.KeepsText (decimalText n))
      ∧ (resident name (decimalText n)).decode Catalog.flatTyped
        = .error (.invalidType (.text (decimalText n)) "u32")
      ∧ (scalar (decimalText n)).decode Catalog.untagged = .ok (.text (decimalText n))
      ∧ ∀ signed, (scalar (decimalText n)).decode (Catalog.wideInteger signed)
        = .error (.invalidType (.text (decimalText n)) (if signed then "i128" else "u128")) :=
  ⟨fun _ h => ⟨decode_decimalText h, decode_residentTyped name h⟩,
    fun _ hreading schema _ => Schema.keepsText_of_decodeAt hreading schema,
    decode_flatTyped name _, decode_untagged _, fun signed => decode_wideInteger signed _⟩

/-- A five is not read where it would have to be collected or tried, nor as a wide number. -/
theorem decode_five_not_read :
    (resident "Ann" (decimalText 5)).decode Catalog.flatTyped
        ≠ .ok (.table [("name", .text "Ann"), ("zip", .integer 5)])
      ∧ (scalar (decimalText 5)).decode Catalog.untagged ≠ .ok (.integer 5)
      ∧ ∀ signed, (scalar (decimalText 5)).decode (Catalog.wideInteger signed)
        ≠ .ok (.integer 5) := by
  refine ⟨?_, ?_, fun signed => ?_⟩
  · rw [decode_flatTyped]
    nofun
  · rw [decode_untagged]
    nofun
  · rw [decode_wideInteger]
    nofun

end Value

end Typed

end LinkedSheets
