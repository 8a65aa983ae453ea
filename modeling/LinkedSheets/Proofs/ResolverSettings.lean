import LinkedSheets.Proofs.PassedOver
import LinkedSheets.Settings.Resolution

/-!
# Keys in the settings of the resolver

The section of the resolver refuses keys that it does not have: what it says is under two keys, and
with any other it is an error (`Resolver.ofJson_object_eq_ok_iff`). The table of the keys that is in
it is a choice by the policy, and a policy does not look at keys that it does not define. There a
key that is misspelt changes nothing, and the table comes to what it comes to without it
(`KeyNaming.ofJson_filter`).
-/

namespace LinkedSheets

namespace KeyNaming

/-- The keys that a policy defines, its own among them. -/
def definedKeys (policy : String) : List String :=
  if policy = "renamed" then ["policy", "mapping", "scope"] else ["policy"]

/-- What a table of names looks at. -/
def tableFields : List (Field Schema) :=
  [⟨"mapping", .mapping (.leaf .text), none⟩, ⟨"scope", scopeSchema, some (.text "all")⟩]

theorem schema_eq : schema = .tagged "KeyNaming" "policy" [("verbatim", .blank),
    ("renamed", .record "struct variant KeyNaming::Renamed" false tableFields)] :=
  rfl

variable {members : List (String × Json)}

/-- The variant is that of the text under the tag, and there has to be one. -/
theorem policy_of_takeTag {variant : String} {others : List (String × Part)}
    (h : Schema.takeTag .document "policy" ["verbatim", "renamed"] false
      (Json.documentParts members) = .ok (some variant, others)) :
    variant ∈ ["verbatim", "renamed"] ∧
      (Json.object members).member? "policy" = some (.text variant) := by
  obtain ⟨part, hmem, htag⟩ := Schema.exists_part_of_takeTag h
  obtain ⟨j, hj, rfl⟩ := Json.mem_documentParts_iff.1 hmem
  obtain ⟨d, hd, hvariant⟩ := exceptMap_eq_ok_iff.1 htag
  obtain ⟨s, hs, rfl, rfl⟩ := Json.decode_variant_eq_ok_iff.1 hd
  obtain rfl : variant = s := hvariant
  exact ⟨hs, hj⟩

theorem exists_policy_of_ofJson {naming : KeyNaming}
    (h : ofJson (.object members) = .ok naming) :
    ∃ policy ∈ ["verbatim", "renamed"],
      (Json.object members).member? "policy" = some (.text policy) := by
  obtain ⟨d, hd, -⟩ := exceptMap_eq_ok_iff.1 h
  rw [Json.decodeSection_object, schema_eq, Schema.decodeAt] at hd
  obtain ⟨⟨variant, content⟩, hsplit, -⟩ := bind_eq_ok_iff.1 hd
  obtain ⟨⟨_ | variant, others⟩, htake, hvariant⟩ := bind_eq_ok_iff.1 hsplit
  · cases hvariant
  · obtain ⟨hvariant, hpolicy⟩ := policy_of_takeTag htake
    exact ⟨_, hvariant, hpolicy⟩

/-- Keys that the policy does not define can be left out. -/
theorem ofJson_filter {policy : String}
    (hpolicy : (Json.object members).member? "policy" = some (.text policy)) (p : String → Bool)
    (hp : ∀ key ∈ definedKeys policy, p key) :
    ofJson (.object (members.filter (p ·.1))) = ofJson (.object members) := by
  have htag : p "policy" := hp "policy" (by unfold definedKeys; split <;> simp)
  rw [ofJson, ofJson, Json.decodeSection_object, Json.decodeSection_object,
    Json.documentParts_filter, schema_eq, Schema.decodeAt_tagged_filter htag]
  intro variant others htake
  obtain ⟨hvariant, hpolicy'⟩ := policy_of_takeTag htake
  obtain rfl : policy = variant := Json.text.inj (Option.some.inj (hpolicy.symm.trans hpolicy'))
  rcases List.mem_cons.1 hvariant with rfl | hvariant
  · rfl
  · obtain rfl := List.mem_singleton.1 hvariant
    have hfields : ∀ name ∈ Schema.fieldNames tableFields, p name :=
      fun name hname => hp name (List.mem_cons_of_mem _ hname)
    exact Schema.decodeRecord_filter hfields "struct variant KeyNaming::Renamed"

end KeyNaming

namespace Resolver

variable {members : List (String × Json)}

/-- The section says how many references may be followed, or it says nothing about that. -/
def SaysDepth (members : List (String × Json)) (depth : Nat) : Prop :=
  depth < 256 ∧ (Json.object members).member? "max_depth" = some (.number (.integer depth))
    ∨ "max_depth" ∉ members.map (·.1) ∧ depth = 64

/-- The section says how keys are named, or it says nothing about that. -/
def SaysKeys (members : List (String × Json)) (naming : KeyNaming) : Prop :=
  (∃ j, (Json.object members).member? "keys" = some j ∧ KeyNaming.ofJson j = .ok naming)
    ∨ "keys" ∉ members.map (·.1) ∧ naming = .verbatim

def depthField : Field Schema :=
  ⟨"max_depth", .leaf (.integer ⟨false, 8⟩), some (.integer 64)⟩

def keysField : Field Schema :=
  ⟨"keys", KeyNaming.schema, some verbatimDatum⟩

theorem schema_eq : schema = .record "struct Config" true [depthField, keysField] :=
  rfl

theorem saysDepth_iff {depth : Nat} : SaysDepth members depth ↔ ∃ d,
    Schema.FieldValue .document schema [depthField, keysField] (Json.documentParts members)
      depthField d ∧ depth = d.asNatural := by
  have hfield : [depthField, keysField].find? (·.name == depthField.name) = some depthField := rfl
  have hcontent : Schema.unfold schema depthField.content = .leaf (.integer ⟨false, 8⟩) := rfl
  have hfallback : depthField.fallback? = some (.integer 64) := rfl
  simp only [Schema.fieldValue_document_iff hfield, hcontent, hfallback,
    Json.decode_byte_eq_ok_iff]
  constructor
  · rintro (⟨hlt, hmember⟩ | ⟨hnot, rfl⟩)
    · exact ⟨.integer depth, .inl ⟨_, hmember, depth, hlt, rfl, rfl⟩, rfl⟩
    · exact ⟨.integer 64, .inr ⟨hnot, rfl⟩, rfl⟩
  · rintro ⟨d, ⟨j, hmember, n, hlt, rfl, rfl⟩ | ⟨hnot, hd⟩, rfl⟩
    · exact .inl ⟨hlt, hmember⟩
    · obtain rfl := Option.some.inj hd
      exact .inr ⟨hnot, rfl⟩

theorem saysKeys_iff {naming : KeyNaming} : SaysKeys members naming ↔ ∃ d,
    Schema.FieldValue .document schema [depthField, keysField] (Json.documentParts members)
      keysField d ∧ naming = .ofDatum d := by
  have hfield : [depthField, keysField].find? (·.name == keysField.name) = some keysField := rfl
  have hcontent : Schema.unfold schema keysField.content = KeyNaming.schema := rfl
  have hfallback : keysField.fallback? = some verbatimDatum := rfl
  simp only [Schema.fieldValue_document_iff hfield, hcontent, hfallback]
  constructor
  · rintro (⟨j, hmember, hj⟩ | ⟨hnot, rfl⟩)
    · obtain ⟨d, hd, rfl⟩ := exceptMap_eq_ok_iff.1 hj
      exact ⟨d, .inl ⟨j, hmember, hd⟩, rfl⟩
    · exact ⟨verbatimDatum, .inr ⟨hnot, rfl⟩, rfl⟩
  · rintro ⟨d, ⟨j, hmember, hd⟩ | ⟨hnot, hd⟩, rfl⟩
    · exact .inl ⟨j, hmember, exceptMap_eq_ok_iff.2 ⟨d, hd, rfl⟩⟩
    · obtain rfl := Option.some.inj hd
      exact .inr ⟨hnot, rfl⟩

theorem ofJson_object_eq_ok_iff {r : Resolver} : ofJson (.object members) = .ok r ↔
    (∀ name ∈ members.map (·.1), name = "max_depth" ∨ name = "keys")
      ∧ SaysDepth members r.maxDepth ∧ SaysKeys members r.keys := by
  have hnames (name : String) : name ∈ Schema.fieldNames [depthField, keysField] ↔
      name = "max_depth" ∨ name = "keys" := by
    simp [Schema.fieldNames, depthField, keysField]
  rw [ofJson, exceptMap_eq_ok_iff, schema_eq]
  simp only [Schema.decodeSection_record_eq_ok_iff, hnames, saysDepth_iff, saysKeys_iff]
  constructor
  · rintro ⟨d, ⟨hknown, ds, rfl, hvalues⟩, rfl⟩
    obtain ⟨⟨_, depth⟩, rest, ⟨rfl, hdepth⟩, hrest, rfl⟩ := List.forall₂_cons_left_iff.1 hvalues
    obtain ⟨⟨_, keys⟩, none, ⟨rfl, hkeys⟩, hnone, rfl⟩ := List.forall₂_cons_left_iff.1 hrest
    obtain rfl := List.forall₂_nil_left_iff.1 hnone
    exact ⟨hknown trivial, ⟨depth, hdepth, rfl⟩, keys, hkeys, rfl⟩
  · rintro ⟨hknown, ⟨depth, hdepth, hr⟩, keys, hkeys, hr'⟩
    refine ⟨.table [("max_depth", depth), ("keys", keys)], ⟨fun _ => hknown, _, rfl,
      .cons ⟨rfl, hdepth⟩ (.cons ⟨rfl, hkeys⟩ .nil)⟩, ?_⟩
    obtain ⟨naming, maxDepth⟩ := r
    obtain rfl : maxDepth = depth.asNatural := hr
    obtain rfl : naming = .ofDatum keys := hr'
    rfl

/-- The section of the resolver can be read just when it has no keys but its own two and what is
under them can be read: a number below 256, and a table that names a policy; what is not there is as
it is where nothing is said. In the table a key that its policy does not define is no error. It is
not looked at, and the table comes to what it comes to without it, a failure included. -/
theorem ofJson_object (members : List (String × Json)) :
    (∀ r, ofJson (.object members) = .ok r ↔
        (∀ name ∈ members.map (·.1), name = "max_depth" ∨ name = "keys")
          ∧ SaysDepth members r.maxDepth ∧ SaysKeys members r.keys)
      ∧ ∀ table : List (String × Json),
        (∀ naming, KeyNaming.ofJson (.object table) = .ok naming →
          ∃ policy ∈ ["verbatim", "renamed"],
            (Json.object table).member? "policy" = some (.text policy))
          ∧ ∀ policy, (Json.object table).member? "policy" = some (.text policy) →
            KeyNaming.ofJson (.object table)
              = KeyNaming.ofJson (.object (table.filter (·.1 ∈ KeyNaming.definedKeys policy))) := by
  refine ⟨fun r => ofJson_object_eq_ok_iff, fun table => ⟨?policy, ?keys⟩⟩
  case policy => exact fun naming h => KeyNaming.exists_policy_of_ofJson h
  case keys =>
    intro policy hpolicy
    exact (KeyNaming.ofJson_filter hpolicy (· ∈ KeyNaming.definedKeys policy)
      fun key hkey => decide_eq_true hkey).symm

section Misspelt

/-- Names for references only, as far as one can see. -/
def misspeltTable : List (String × Json) :=
  [("policy", .text "renamed"), ("mapping", .object [("address", .text "home")]),
    ("scpoe", .text "references")]

theorem ofJson_object_misspelt :
    (Json.object misspeltTable).member? "policy" = some (.text "renamed")
      ∧ KeyNaming.ofJson (.object misspeltTable)
        = KeyNaming.ofJson (.object [("policy", .text "renamed"),
          ("mapping", .object [("address", .text "home")])]) := by
  have hpolicy : (Json.object misspeltTable).member? "policy" = some (.text "renamed") := rfl
  exact ⟨hpolicy, ((ofJson_object []).2 misspeltTable).2 "renamed" hpolicy⟩

/-- A key that is misspelt is not refused, and all columns are renamed. -/
theorem ofJson_misspelt :
    "scpoe" ∉ KeyNaming.definedKeys "renamed"
      ∧ ofJson (.object [("keys", .object misspeltTable)])
        = .ok ⟨.renamed [("address", "home")] .all, 64⟩ :=
  ⟨by decide, rfl⟩

end Misspelt

end Resolver

end LinkedSheets
