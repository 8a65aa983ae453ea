import LinkedSheets.Settings.Section

/-!
# Settings of the source

Where the workbook comes from: separate files, each of which is a sheet, one JSON document, or one
spreadsheet.
-/

namespace LinkedSheets

inductive SourceSettings where
  | csv (paths : List String) (delimiter : Char)
  | json (path : String)
  | spreadsheet (path : String)
  deriving DecidableEq, Repr

namespace SourceSettings

/-- The files that are read. -/
def paths : SourceSettings → List String
  | csv paths _ => paths
  | json path | spreadsheet path => [path]

def schema : Schema :=
  .tagged "Config" "kind"
    [("csv", .record "struct variant Config::Csv" false
       [⟨"paths", .list (.leaf .path), none⟩, ⟨"delimiter", .leaf .character, some (.text ",")⟩]),
     ("json", .record "struct variant Config::Json" false [⟨"path", .leaf .path, none⟩]),
     ("xlsx", .record "struct variant Config::Xlsx" false [⟨"path", .leaf .path, none⟩])]

def ofDatum (d : Datum) : SourceSettings :=
  let path := (d.field "path").asText
  match (d.field "kind").asText with
  | "csv" =>
    .csv ((d.field "paths").asItems.map Datum.asText)
      ((d.field "delimiter").asText.toList.headD ',')
  | "json" => .json path
  | _ => .spreadsheet path

def ofJson (j : Json) : Except DecodeFailure SourceSettings :=
  (j.decodeSection schema).map ofDatum

end SourceSettings

end LinkedSheets
