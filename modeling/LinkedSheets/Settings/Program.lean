import LinkedSheets.Settings.Resolution
import LinkedSheets.Settings.Source

/-!
# Settings of the program

What the program reads, how it resolves it, and which sheet it writes: indented unless it is said
otherwise, and with no row left out unless failing rows may be skipped.
-/

namespace LinkedSheets

structure OutputSettings where
  sheet : String
  pretty : Bool
  /-- Whether rows that do not resolve are left out. -/
  lenient : Bool
  deriving DecidableEq, Repr

structure ProgramSettings where
  source : SourceSettings
  resolver : Resolver
  output : OutputSettings
  deriving DecidableEq, Repr

namespace OutputSettings

def schema : Schema :=
  .record "struct OutputConfig" true
    [⟨"sheet", .leaf .text, none⟩, ⟨"pretty", .leaf .boolean, some (.boolean true)⟩,
     ⟨"errors", .choice "ErrorPolicy" [("abort", .unit), ("collect", .unit)],
      some (.text "abort")⟩]

def ofDatum (d : Datum) : OutputSettings :=
  ⟨(d.field "sheet").asText, (d.field "pretty").asBoolean,
   (d.field "errors").asText = "collect"⟩

end OutputSettings

namespace ProgramSettings

def schema : Schema :=
  .record "struct Config" false
    [⟨"source", SourceSettings.schema, none⟩,
     ⟨"read", Resolver.schema, some Resolver.standardDatum⟩,
     ⟨"output", OutputSettings.schema, none⟩]

def ofDatum (d : Datum) : ProgramSettings :=
  ⟨.ofDatum (d.field "source"), .ofDatum (d.field "read"), .ofDatum (d.field "output")⟩

def ofSetting (s : Setting) : Except DecodeFailure ProgramSettings :=
  (s.decodeSection schema).map ofDatum

end ProgramSettings

end LinkedSheets
