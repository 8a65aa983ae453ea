import LinkedSheets.Resolution.Resolver
import LinkedSheets.Settings.Section

/-!
# Settings of the resolver

How many references may be followed, sixty-four unless it is said, and how keys are named. Keys are
verbatim unless there is a table of names, which is for all columns unless it is limited to those
with references. The section itself has no other keys; the one for keys may have any.
-/

namespace LinkedSheets

namespace KeyNaming

def scopeSchema : Schema :=
  .choice "RenameScope" [("all", .unit), ("references", .unit)]

def schema : Schema :=
  .tagged "KeyNaming" "policy"
    [("verbatim", .blank),
     ("renamed", .record "struct variant KeyNaming::Renamed" false
       [⟨"mapping", .mapping (.leaf .text), none⟩, ⟨"scope", scopeSchema, some (.text "all")⟩])]

def scopeOfDatum (d : Datum) : RenameScope :=
  if d.asText = "references" then .references else .all

def ofDatum (d : Datum) : KeyNaming :=
  if (d.field "policy").asText = "renamed" then
    .renamed (d.field "mapping").asTexts (scopeOfDatum (d.field "scope"))
  else .verbatim

def ofJson (j : Json) : Except DecodeFailure KeyNaming :=
  (j.decodeSection schema).map ofDatum

end KeyNaming

namespace Resolver

def standard : Resolver := ⟨.verbatim, 64⟩

def verbatimDatum : Datum :=
  .table [("policy", .text "verbatim")]

/-- The settings where nothing is said. -/
def standardDatum : Datum :=
  .table [("max_depth", .integer 64), ("keys", verbatimDatum)]

def schema : Schema :=
  .record "struct Config" true
    [⟨"max_depth", .leaf (.integer ⟨false, 8⟩), some (.integer 64)⟩,
     ⟨"keys", KeyNaming.schema, some verbatimDatum⟩]

def ofDatum (d : Datum) : Resolver :=
  ⟨.ofDatum (d.field "keys"), (d.field "max_depth").asNatural⟩

def ofJson (j : Json) : Except DecodeFailure Resolver :=
  (j.decodeSection schema).map ofDatum

end Resolver

end LinkedSheets
