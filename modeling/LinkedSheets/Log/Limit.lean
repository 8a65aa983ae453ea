import LinkedSheets.Decimal.Reader
import LinkedSheets.Event

/-!
# Limits for severities

A limit says which events are severe enough to be logged. It is written as a word in any case, or
as a number from nothing at all to everything; the empty text is a limit too.
-/

namespace LinkedSheets

inductive SeverityLimit where
  | off
  | error
  | warn
  | info
  | debug
  | trace
  deriving DecidableEq, Repr

namespace SeverityLimit

/-- How many of the five severities a limit admits. -/
def reach : SeverityLimit → Nat
  | off => 0
  | error => 1
  | warn => 2
  | info => 3
  | debug => 4
  | trace => 5

def all : List SeverityLimit :=
  [off, error, warn, info, debug, trace]

def name : SeverityLimit → String
  | off => "OFF"
  | error => "ERROR"
  | warn => "WARN"
  | info => "INFO"
  | debug => "DEBUG"
  | trace => "TRACE"

def admits (limit : SeverityLimit) : Severity → Bool
  | .error => 1 ≤ limit.reach
  | .warn => 2 ≤ limit.reach
  | .info => 3 ≤ limit.reach
  | .debug => 4 ≤ limit.reach

def read? (s : String) : Option SeverityLimit :=
  match Decimal.readInteger? ⟨false, 64⟩ s.toList with
  | some n => all.find? fun limit => limit.reach = n
  | none =>
    if s = "" then some error
    else
      let word := String.ofList (s.toList.map Char.toUpper)
      all.find? fun limit => limit.name = word

def refusal : String :=
  "error parsing level filter: expected one of \"off\", \"error\", \"warn\", \"info\", " ++
    "\"debug\", \"trace\", or a number 0-5"

end SeverityLimit

end LinkedSheets
