import LinkedSheets.Json.Fault
import LinkedSheets.Json.Writer
import LinkedSheets.Source.Files
import LinkedSheets.Text.Quoted

/-!
# Why a source does not load

A failure keeps what it was about and, where something else was the reason, that reason. `context`
tells it from the outside in, and `chain` puts the whole story into one line.
-/

namespace LinkedSheets

inductive LoadFailure where
  /-- The delimiter is no single byte. -/
  | badDelimiter (delimiter : Char)
  /-- The path gives no name for a sheet. -/
  | noSheetName (path : String)
  | cannotOpen (path : String) (fault : FileFault)
  | cannotRead (path : String) (fault : FileFault)
  /-- A field of a file of separated values is no text. -/
  | badText (path : String)
  | badJson (path : String) (fault : JsonFault)
  /-- A cell is an array or an object. -/
  | nestedCell (path sheet : String) (cell : Json)
  /-- The file is no spreadsheet. -/
  | noSpreadsheet (path : String)
  | badSpreadsheetSheet (path sheet : String) (fault : BookFault)
  deriving Repr

namespace LoadFailure

def openContext (path : String) : String :=
  "failed to open " ++ Text.quoted path

def readContext (path : String) : String :=
  "failed to read " ++ Text.quoted path

def context : LoadFailure → List String
  | badDelimiter delimiter =>
    ["csv delimiter " ++ Text.quotedChar delimiter ++ " is not a single ascii byte"]
  | noSheetName path => ["cannot derive a sheet name from " ++ Text.quoted path]
  | cannotOpen path _ | noSpreadsheet path => [openContext path]
  | cannotRead path _ | badText path | badJson path _ => [readContext path]
  | nestedCell path sheet cell =>
    [readContext path, "invalid sheet \"" ++ sheet ++ "\"",
     "cells must be scalars, got " ++ cell.canonical.compact]
  | badSpreadsheetSheet path sheet _ =>
    ["failed to read sheet \"" ++ sheet ++ "\" of " ++ Text.quoted path]

def jsonReason : JsonFault → String
  | .malformed => "the text is not JSON"
  | .unfinished => "the text ends too early"
  | .misshapen => "the document is not a table of sheets"
  | .unreadable => FileFault.isDirectory.message

/-- What came from outside, if anything did. -/
def reason? : LoadFailure → Option String
  | badDelimiter _ | noSheetName _ | nestedCell .. => none
  | cannotOpen _ fault | cannotRead _ fault => some fault.message
  | badText _ => some "a field is not UTF-8"
  | badJson _ fault => some (jsonReason fault)
  | noSpreadsheet _ => some "the file is not a spreadsheet"
  | badSpreadsheetSheet _ _ .badCell => some "a cell does not fit its type"
  | badSpreadsheetSheet _ _ .tooFar => some "a number is too far below zero"

/-- Whether a failure is one that the program does not recover from. -/
def isFatal : LoadFailure → Bool
  | badSpreadsheetSheet _ _ .tooFar => true
  | _ => false

def chain (failure : LoadFailure) : String :=
  ": ".intercalate (failure.context ++ failure.reason?.toList)

end LoadFailure

end LinkedSheets
