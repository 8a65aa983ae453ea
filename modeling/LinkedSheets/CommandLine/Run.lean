import LinkedSheets.Environment.Overlay
import LinkedSheets.Log.Line
import LinkedSheets.Resolution.Materialize
import LinkedSheets.Settings.Program
import LinkedSheets.Source.Load

/-!
# A run of the program

The program loads a workbook, resolves one sheet of it and writes the rows as one JSON object under
the name of the sheet. Either all of that succeeds, or nothing is written at all.

A run without valid settings stops before it has a log, and one that breaks down loses it.
-/

namespace LinkedSheets

inductive RunFailure where
  | source (failure : LoadFailure)
  | sheet (name : String) (failure : ResolutionFailure)
  deriving Repr

namespace RunFailure

/-- The whole story in one line. -/
def message : RunFailure → String
  | source failure => failure.chain
  | sheet name failure =>
    "failed to materialize sheet \"" ++ name ++ "\": " ++ failure.message

end RunFailure

/-- Whether a failure is one that the program does not recover from. -/
def RunFailure.isFatal : RunFailure → Bool
  | source failure => failure.isFatal
  | sheet .. => false

/-- How a run ends. -/
structure RunReport where
  exitCode : Nat
  stdout : String
  log : Option (List LogLine)

/-- A run that did not get anywhere. -/
def RunReport.breakdown : RunReport :=
  ⟨101, "", none⟩

namespace CommandLine

/-- The rows that do resolve, with a warning if there are others. -/
def lenientRows (r : Resolver) (w : Workbook) (name : String) :
    Traced ResolutionFailure (List Value) := do
  let result ← r.sheetLeniently w name
  if result.skipped.isEmpty then pure result.values
  else do
    .emit (.rowsUnresolved name result.skipped.length)
    pure result.values

def rows (r : Resolver) (w : Workbook) (output : OutputSettings) :
    Traced ResolutionFailure (List Value) :=
  if output.lenient then lenientRows r w output.sheet else r.sheet w output.sheet

/-- Everything but writing. -/
def produce (settings : ProgramSettings) (files : Files) : Traced RunFailure (List Value) := do
  let workbook ← (loadWorkbook files settings.source).mapError .source
  (rows settings.resolver workbook settings.output).mapError (.sheet settings.output.sheet)

/-- The rows under the name of their sheet, and a line end. -/
def render (output : OutputSettings) (values : List Value) : String :=
  let document := Json.object [(output.sheet, .array (values.map Value.toJson))]
  (if output.pretty then document.pretty else document.compact) ++ "\n"

def run (log : LogSettings) (settings : ProgramSettings) (files : Files) : RunReport :=
  let t := produce settings files
  match t.outcome with
  | .ok values => ⟨0, render settings.output values, some (log.lines t.events)⟩
  | .error failure =>
    if failure.isFatal then .breakdown
    else ⟨1, "", some (log.lines (t.events ++ [.stopped failure.message]))⟩

/-- Why there are no settings. -/
inductive SettingsFailure where
  | environment
  | invalid (failure : DecodeFailure)
  deriving DecidableEq, Repr

def SettingsFailure.message : SettingsFailure → String
  | environment => "a variable of the environment cannot be read"
  | invalid failure => failure.message

/-- The layers of settings: a configuration, if there is one, and the variables of the environment
above it. -/
def layers (config : Option Json) (environment : List (String × String)) : Option Setting :=
  (Environment.layer? environment).map (Setting.ofJson (config.getD (.object []))).overlay

def decode (s : Setting) : Except DecodeFailure (LogSettings × ProgramSettings) := do
  let log ← match s.entry? "tracing" with
    | some tracing => LogSettings.ofSetting tracing
    | none => .error (.missingField "tracing")
  let program ← ProgramSettings.ofSetting s
  .ok (log, program)

/-- The settings of the log and those of the program. -/
def settings (config : Option Json) (environment : List (String × String)) :
    Except SettingsFailure (LogSettings × ProgramSettings) :=
  match layers config environment with
  | some s => (decode s).mapError .invalid
  | none => .error .environment

/-- A run from the very start. -/
def start (config : Option Json) (environment : List (String × String)) (files : Files) :
    RunReport :=
  match settings config environment with
  | .ok (log, program) => run log program files
  | .error _ => .breakdown

end CommandLine

end LinkedSheets
