import LinkedSheets.CommandLine.Run

/-!
# The command line

The program takes no arguments. Its configuration is the JSON file `sheetgraph.json` in the working
directory, if there is one, with the variables of the environment laid over it. The rows go to the
standard output and the log to the standard error. This module only reads and writes; what a run
does is in `CommandLine.run`.
-/

open LinkedSheets

/-- What stands behind the equals sign of an entry of the environment, and what before it. -/
def splitVariable (entry : List UInt8) : Option (String × String) := do
  let name ← Text.ofUtf8? (entry.takeWhile (· ≠ 0x3D))
  let value ← Text.ofUtf8? ((entry.dropWhile (· ≠ 0x3D)).drop 1)
  some (name, value)

/-- Entries that each end with a zero byte. -/
def splitEntries (bytes : List UInt8) : List (List UInt8) :=
  let (last, entries) := bytes.foldr
    (fun b (entry, entries) => if b = 0 then ([], entry :: entries) else (b :: entry, entries))
    ([], [])
  (last :: entries).filter (!·.isEmpty)

def readEnvironment : IO (List (String × String)) := do
  let bytes ← IO.FS.readBinFile "/proc/self/environ"
  return (splitEntries bytes.toList).filterMap splitVariable

def readConfig : IO (Option Json) := do
  try
    let text ← IO.FS.readFile "sheetgraph.json"
    match Json.read text with
    | .ok config => return some config
    | .error _ => throw (IO.userError "the configuration is not JSON")
  catch
    | .noFileOrDirectory .. => return none
    | e => throw e

/-- What a path leads to. -/
def look (path : String) : IO (Except FileFault FileEntry) := do
  try
    let bytes ← IO.FS.readBinFile path
    return .ok (.bytes bytes.toList)
  catch
    | .inappropriateType _ 21 _ => return .ok .directory
    | .inappropriateType .. => return .error .notDirectory
    | _ => return .error .notFound

def lookAll (paths : List String) : IO Files := do
  let entries ← paths.mapM fun path => do return (path, ← look path)
  return fun path => (entries.lookup path).getD (.error .notFound)

def LinkedSheets.LogLine.print : LogLine → IO Unit
  | .text s => IO.eprintln s
  | .json j => IO.eprintln j.compact

def main : IO UInt32 := do
  let config ← readConfig
  let environment ← readEnvironment
  match CommandLine.settings config environment with
  | .error failure =>
    IO.eprintln failure.message
    return RunReport.breakdown.exitCode.toUInt32
  | .ok (log, settings) =>
    let files ← lookAll settings.source.paths
    let report := CommandLine.run log settings files
    for line in report.log.getD [] do
      line.print
    IO.print report.stdout
    return report.exitCode.toUInt32
