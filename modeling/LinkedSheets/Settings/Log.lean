import LinkedSheets.Log.Limit
import LinkedSheets.Settings.Section
import LinkedSheets.Text.Quoted

/-!
# Settings of the log

Whether there is a log, whether its lines are JSON, and which events it shows: a limit for parts of
the program by the beginning of their name, and one for all the others.
-/

namespace LinkedSheets

structure LogSettings where
  enabled : Bool
  json : Bool
  standard : SeverityLimit
  limits : List (String × SeverityLimit)
  deriving DecidableEq, Repr

namespace LogSettings

def limitSchema : Schema :=
  .leaf (.textSuch (fun s => (SeverityLimit.read? s).isSome) SeverityLimit.refusal)

def schema : Schema :=
  .record "struct Config" false
    [⟨"stderr", .record "struct StderrConfig" false
      [⟨"enabled", .leaf .boolean, none⟩, ⟨"json", .leaf .boolean, some (.boolean false)⟩,
       ⟨"filters", .collecting "struct TracingFilters" [⟨"default", limitSchema, none⟩]
        (.mapping limitSchema), none⟩], none⟩]

def limitOfDatum (d : Datum) : SeverityLimit :=
  (SeverityLimit.read? d.asText).getD .error

def ofDatum (d : Datum) : LogSettings :=
  let stderr := d.field "stderr"
  let filters := stderr.field "filters"
  { enabled := (stderr.field "enabled").asBoolean
    json := (stderr.field "json").asBoolean
    standard := limitOfDatum (filters.field "default")
    limits := filters.asFields.tail.map fun (name, limit) => (name, limitOfDatum limit) }

def ofJson (j : Json) : Except DecodeFailure LogSettings :=
  (j.decodeSection schema).map ofDatum

def ofSetting (s : Setting) : Except DecodeFailure LogSettings :=
  (s.decodeSection schema).map ofDatum

def booleanText (b : Bool) : String :=
  if b then "true" else "false"

def limitText (limit : SeverityLimit) : String :=
  "LevelFilter::" ++ limit.name

/-- All the settings in one line. -/
def describe (s : LogSettings) : String :=
  let limits := s.limits.map fun (name, limit) => Text.quoted name ++ ": " ++ limitText limit
  let targets := "\x7b" ++ ", ".intercalate limits ++ "\x7d"
  "Config \x7b stderr: StderrConfig \x7b enabled: " ++ booleanText s.enabled ++ ", json: " ++
    booleanText s.json ++ ", filters: TracingFilters \x7b default: " ++ limitText s.standard ++
    ", targets: " ++ targets ++ " \x7d \x7d \x7d"

end LogSettings

end LinkedSheets
