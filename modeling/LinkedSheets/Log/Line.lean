import LinkedSheets.Json.Writer
import LinkedSheets.Settings.Log
import LinkedSheets.Text.Terminal

/-!
# Lines of the log

Which events the settings admit, and the lines they make. Of the limits whose name begins the origin
of an event the longest one decides. A line is text, with quoted texts among its fields and a
message that is harmless to a terminal, or a JSON object. Neither tells the time.
-/

namespace LinkedSheets

inductive LogLine where
  | text (s : String)
  | json (j : Json)
  deriving Repr

namespace LogSettings

/-- The longer of two limits for an origin. -/
def longer (a b : String × SeverityLimit) : String × SeverityLimit :=
  if a.1.length < b.1.length then b else a

def limitFor (s : LogSettings) (origin : String) : SeverityLimit :=
  match s.limits.filter fun (name, _) => name.toList.isPrefixOf origin.toList with
  | [] => s.standard
  | first :: rest => (rest.foldl longer first).2

def admits (s : LogSettings) (event : Event) : Bool :=
  s.enabled && (s.limitFor event.origin).admits event.severity

end LogSettings

namespace Event

def fieldText : String × FieldValue → String
  | (name, .text s) => name ++ "=" ++ Text.quoted s
  | (name, value) => name ++ "=" ++ value.plain

def textLine (e : Event) : String :=
  " ".intercalate ((e.severity.name ++ " " ++ e.origin ++ ": " ++ Text.harmless e.message) ::
    e.fields.map fieldText)

def fieldJson : FieldValue → Json
  | .count n => .number (.integer n)
  | value => .text value.plain

def jsonLine (e : Event) : Json :=
  .object
    [("level", .text e.severity.name),
     ("fields", .object (("message", .text e.message) ::
       e.fields.map fun (name, value) => (name, fieldJson value))),
     ("target", .text e.origin)]

end Event

namespace LogSettings

def line (s : LogSettings) (event : Event) : LogLine :=
  if s.json then .json event.jsonLine else .text event.textLine

/-- The lines for some events. -/
def lines (s : LogSettings) (events : List Event) : List LogLine :=
  (events.filter s.admits).map s.line

end LogSettings

end LinkedSheets
