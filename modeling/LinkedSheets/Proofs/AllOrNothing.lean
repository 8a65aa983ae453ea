import LinkedSheets.CommandLine.Run
import LinkedSheets.Proofs.Lenient
import LinkedSheets.Proofs.ReadBack

/-!
# A run writes everything or nothing

A run has one thing to write, the document with the values of its sheet, and writes it when nothing
can fail any more. So the exit code tells whether it was written (`CommandLine.start_writes`). What
can fail is the source, the sheet that is asked for and, unless rows may be left out, any of its
rows; that they may makes no difference where all of them resolve.
-/

namespace LinkedSheets

/-- The values are those that the rows of the sheet are written as: of all rows, or where rows may
be left out, of those that resolve. -/
def OutputSettings.Takes (output : OutputSettings) (r : Resolver) (w : Workbook)
    (values : List Value) : Prop :=
  if output.lenient then
    ∃ m, (r.sheetLeniently w output.sheet).outcome = .ok m ∧ values = m.values
  else (r.sheet w output.sheet).outcome = .ok values

/-- The values under the name of their sheet, and nothing else. -/
def OutputSettings.document (output : OutputSettings) (values : List Value) : Value :=
  .object [(output.sheet, .array values)]

/-- The text of a document, in lines or not. -/
def OutputSettings.text (output : OutputSettings) (document : Value) : String :=
  if output.pretty then document.toJson.pretty else document.toJson.compact

/-- One document and a line end are written, and the run is a success. -/
structure RunReport.Writes (report : RunReport) (output : OutputSettings) (document : Value) :
    Prop where
  exitCode : report.exitCode = 0
  stdout : report.stdout = output.text document ++ "\n"
  readFrom : document.ReadFrom (output.text document)

/-- Nothing is written, and the run is a failure. -/
structure RunReport.WritesNothing (report : RunReport) : Prop where
  exitCode : report.exitCode ≠ 0
  stdout : report.stdout = ""

section Rows

variable {r : Resolver} {w : Workbook} {output : OutputSettings} {values : List Value}

theorem OutputSettings.takes_strict {name : String} {pretty : Bool} :
    OutputSettings.Takes ⟨name, pretty, false⟩ r w values
      ↔ (r.sheet w name).outcome = .ok values :=
  Iff.rfl

theorem OutputSettings.takes_lenient {name : String} {pretty : Bool} :
    OutputSettings.Takes ⟨name, pretty, true⟩ r w values
      ↔ ∃ m, (r.sheetLeniently w name).outcome = .ok m ∧ values = m.values :=
  Iff.rfl

theorem outcome_lenientRows (r : Resolver) (w : Workbook) (name : String) :
    (CommandLine.lenientRows r w name).outcome
      = (fun m => m.values) <$> (r.sheetLeniently w name).outcome := by
  rw [CommandLine.lenientRows, Traced.outcome_bind]
  rcases (r.sheetLeniently w name).outcome with e | m
  · rfl
  · rw [ok_bind, map_ok]
    split <;> rfl

theorem outcome_rows_eq_ok_iff :
    (CommandLine.rows r w output).outcome = .ok values ↔ output.Takes r w values := by
  obtain ⟨name, pretty, lenient⟩ := output
  cases lenient with
  | false => rfl
  | true => exact outcome_lenientRows r w name ▸ map_eq_ok_iff

/-- A sheet resolves if each of its data rows does. -/
theorem Resolver.exists_outcome_sheet_iff {name : String} {sheet : Sheet}
    (h : w.sheet? name = some sheet) : (∃ values, (r.sheet w name).outcome = .ok values) ↔
      ∀ row ∈ sheet.dataRows, ∃ v, (r.resolveRow w sheet.header row).outcome = .ok v := by
  have hrows : ∀ p : Row × Nat, (∃ v, (r.resolveDataRow w sheet p.2 p.1).outcome = .ok v)
      ↔ ∃ v, (r.resolveRow w sheet.header p.1).outcome = .ok v :=
    fun p => exists_congr fun v => Resolver.resolveDataRow_eq_ok_iff
  rw [Resolver.outcome_sheet r w h, exists_mapM_eq_ok_iff, forall₂_congr fun p _ => hrows p]
  conv_rhs => rw [← List.zipIdx_map_fst 0 sheet.dataRows]
  rw [List.forall_mem_map]

/-- Rows are written unless there is no sheet, or a row fails where none may be left out. -/
theorem OutputSettings.exists_takes_iff : (∃ values, output.Takes r w values) ↔
    ∃ sheet, w.sheet? output.sheet = some sheet ∧ (output.lenient = false →
      ∀ row ∈ sheet.dataRows, ∃ v, (r.resolveRow w sheet.header row).outcome = .ok v) := by
  obtain ⟨name, pretty, lenient⟩ := output
  rcases hs : w.sheet? name with _ | sheet
  · cases lenient with
    | false => simp [OutputSettings.takes_strict, Resolver.outcome_sheet_of_none r w hs]
    | true => simp [OutputSettings.takes_lenient, Resolver.outcome_sheetLeniently_of_none r w hs]
  · cases lenient with
    | false => simp [OutputSettings.takes_strict, Resolver.exists_outcome_sheet_iff hs]
    | true => simp [OutputSettings.takes_lenient, Resolver.outcome_sheetLeniently r w sheet hs]

/-- Where no row fails, none is left out. -/
theorem OutputSettings.takes_lenient_of_strict {name : String} {pretty : Bool}
    (h : OutputSettings.Takes ⟨name, pretty, false⟩ r w values) :
    OutputSettings.Takes ⟨name, pretty, true⟩ r w values := by
  rw [OutputSettings.takes_strict] at h
  rw [OutputSettings.takes_lenient]
  rcases hs : w.sheet? name with _ | sheet
  · rw [Resolver.outcome_sheet_of_none r w hs] at h
    cases h
  refine ⟨_, Resolver.outcome_sheetLeniently r w sheet hs, ?_⟩
  rw [Resolver.outcome_sheet_eq hs] at h
  split at h
  · exact (Except.ok.inj h).symm
  · cases h

end Rows

theorem Value.itemsToJson_eq_map (values : List Value) :
    itemsToJson values = values.map toJson := by
  induction values with
  | nil => rfl
  | cons v values ih => exact congrArg (v.toJson :: ·) ih

namespace CommandLine

section Run

variable {log : LogSettings} {program : ProgramSettings} {files : Files} {values : List Value}

theorem outcome_produce_eq_ok_iff : (produce program files).outcome = .ok values ↔
    ∃ w, (loadWorkbook files program.source).outcome = .ok w
      ∧ program.output.Takes program.resolver w values := by
  rw [produce, Traced.outcome_bind, bind_eq_ok_iff]
  exact exists_congr fun w =>
    and_congr mapError_eq_ok_iff (mapError_eq_ok_iff.trans outcome_rows_eq_ok_iff)

theorem render_eq (output : OutputSettings) (values : List Value) :
    render output values = output.text (output.document values) ++ "\n" := by
  simp [render, OutputSettings.text, OutputSettings.document, Value.toJson, Value.fieldsToJson,
    Value.itemsToJson_eq_map]

theorem readFrom_text (output : OutputSettings) (document : Value) :
    document.ReadFrom (output.text document) := by
  unfold OutputSettings.text
  split
  · exact document.readFrom_pretty
  · exact document.readFrom_compact

theorem writes_run (log : LogSettings) (h : (produce program files).outcome = .ok values) :
    (run log program files).Writes program.output (program.output.document values) where
  exitCode := by simp only [run, h]
  stdout := by simp only [run, h, render_eq]
  readFrom := readFrom_text _ _

theorem writesNothing_run (log : LogSettings) {e : RunFailure}
    (h : (produce program files).outcome = .error e) :
    (run log program files).WritesNothing := by
  rw [run, h]
  dsimp only
  split
  · exact ⟨by decide, rfl⟩
  · exact ⟨Nat.one_ne_zero, rfl⟩

theorem exitCode_run_eq_zero_iff : (run log program files).exitCode = 0 ↔
    ∃ values, (produce program files).outcome = .ok values := by
  rcases h : (produce program files).outcome with e | values
  · simp [(writesNothing_run log h).exitCode]
  · simp [(writes_run log h).exitCode]

/-- A run that succeeds with all rows writes the same where rows may be left out. -/
theorem writes_run_lenient (log : LogSettings) (hstrict : program.output.lenient = false)
    (h : (produce program files).outcome = .ok values) :
    (run log { program with output := { program.output with lenient := true } } files).Writes
      program.output (program.output.document values) := by
  obtain ⟨source, resolver, name, pretty, lenient⟩ := program
  subst hstrict
  obtain ⟨w, hw, hvalues⟩ := outcome_produce_eq_ok_iff.1 h
  have hlenient : (produce ⟨source, resolver, name, pretty, true⟩ files).outcome = .ok values :=
    outcome_produce_eq_ok_iff.2 ⟨w, hw, OutputSettings.takes_lenient_of_strict hvalues⟩
  obtain ⟨exitCode, stdout, readFrom⟩ := writes_run log hlenient
  exact ⟨exitCode, stdout, readFrom⟩

end Run

/-- A run that has settings writes either one document, with all rows or with those that resolve, or
nothing at all, which its exit code tells. It writes a document if the source loads, the sheet is
there and no row fails that must not be left out. Leaving rows out makes no difference to a run that
succeeds without. -/
theorem start_writes {config : Option Json} {environment : List (String × String)}
    {log : LogSettings} {program : ProgramSettings}
    (h : settings config environment = .ok (log, program)) (files : Files) :
    ((start config environment files).WritesNothing
        ∨ ∃ w values, (loadWorkbook files program.source).outcome = .ok w
          ∧ program.output.Takes program.resolver w values
          ∧ (start config environment files).Writes program.output
            (program.output.document values))
      ∧ ((start config environment files).exitCode = 0 ↔
        ∃ w, (loadWorkbook files program.source).outcome = .ok w
          ∧ ∃ sheet, w.sheet? program.output.sheet = some sheet
            ∧ (program.output.lenient = false → ∀ row ∈ sheet.dataRows,
              ∃ v, (program.resolver.resolveRow w sheet.header row).outcome = .ok v))
      ∧ ∀ config' environment' log', program.output.lenient = false →
        settings config' environment' = .ok (log',
            { program with output := { program.output with lenient := true } }) →
          (start config environment files).exitCode = 0 →
            (start config' environment' files).exitCode = 0
              ∧ (start config' environment' files).stdout
                = (start config environment files).stdout := by
  have hstart : start config environment files = run log program files := by rw [start, h]
  rw [hstart]
  refine ⟨?_, ?_, fun config' environment' log' hstrict h' hzero => ?_⟩
  · rcases hp : (produce program files).outcome with e | values
    · exact .inl (writesNothing_run log hp)
    · obtain ⟨w, hw, hvalues⟩ := outcome_produce_eq_ok_iff.1 hp
      exact .inr ⟨w, values, hw, hvalues, writes_run log hp⟩
  · simp only [exitCode_run_eq_zero_iff, outcome_produce_eq_ok_iff,
      ← OutputSettings.exists_takes_iff]
    rw [exists_comm]
    simp only [exists_and_left]
  · obtain ⟨values, hp⟩ := exitCode_run_eq_zero_iff.1 hzero
    have hwrites := writes_run_lenient log' hstrict hp
    rw [start, h']
    exact ⟨hwrites.exitCode, hwrites.stdout.trans (writes_run log hp).stdout.symm⟩

/-- A configuration that writes the sheet of one file. -/
def crewConfiguration (errors : String) : Json :=
  .object [("tracing", .object [("stderr", .object [("enabled", .boolean false),
      ("filters", .object [("default", .text "info")])])]),
    ("source", .object [("kind", .text "csv"), ("paths", .array [.text "crew.csv"])]),
    ("output", .object [("sheet", .text "crew"), ("pretty", .boolean false),
      ("errors", .text errors)])]

def crewProgram (lenient : Bool) : ProgramSettings :=
  ⟨.csv ["crew.csv"] ',', .standard, ⟨"crew", false, lenient⟩⟩

/-- A file whose last row refers to the row of that number. -/
def crewFiles (boss : String) : Files := fun path =>
  if path = "crew.csv" then
    .ok (.bytes ("id,boss\n1,\n2,reference:crew@id#" ++ boss ++ "\n").toUTF8.toList)
  else .error .notFound

theorem start_writes_crew :
    settings (some (crewConfiguration "abort")) []
        = .ok (⟨false, false, .info, []⟩, crewProgram false)
      ∧ settings (some (crewConfiguration "collect")) []
        = .ok (⟨false, false, .info, []⟩, crewProgram true)
      ∧ (start (some (crewConfiguration "abort")) [] (crewFiles "1")).stdout
        = "\x7b\"crew\":[\x7b\"id\":\"1\",\"boss\":\"\"\x7d," ++
          "\x7b\"id\":\"2\",\"boss\":\x7b\"id\":\"1\",\"boss\":\"\"\x7d\x7d]\x7d\n"
      ∧ (start (some (crewConfiguration "collect")) [] (crewFiles "1")).stdout
        = (start (some (crewConfiguration "abort")) [] (crewFiles "1")).stdout
      ∧ (start (some (crewConfiguration "abort")) [] (crewFiles "3")).WritesNothing
      ∧ (start (some (crewConfiguration "collect")) [] (crewFiles "3")).stdout
        = "\x7b\"crew\":[\x7b\"id\":\"1\",\"boss\":\"\"\x7d]\x7d\n" := by
  have hstrict : settings (some (crewConfiguration "abort")) []
      = .ok (⟨false, false, .info, []⟩, crewProgram false) := rfl
  have hlenient : settings (some (crewConfiguration "collect")) []
      = .ok (⟨false, false, .info, []⟩, crewProgram true) := rfl
  have hzero : (start (some (crewConfiguration "abort")) [] (crewFiles "1")).exitCode = 0 := by
    decide +kernel
  exact ⟨hstrict, hlenient, by decide +kernel,
    ((start_writes hstrict (crewFiles "1")).2.2 _ _ _ rfl hlenient hzero).2,
    ⟨by decide +kernel, by decide +kernel⟩, by decide +kernel⟩

end CommandLine

end LinkedSheets
