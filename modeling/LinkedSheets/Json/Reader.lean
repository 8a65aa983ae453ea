import LinkedSheets.Json.Token

/-!
# Reading JSON

The reader goes through the tokens once and keeps the brackets that are open. At every moment it
knows what may come next, so the first token that may not come is where reading fails. An `Outline`
tells the shape that a value has to have at each nesting level, and how many levels there may be; a
value of another shape is noticed as soon as it begins, or, if it is a scalar, after it was read.

`Json.readOutlined` reads a value with an outline, and `Json.read` any value that does not have more
brackets inside each other than a document may have.
-/

namespace LinkedSheets

open JsonNumber (Rest)

/-- The shapes that may be asked for. -/
inductive JsonShape where
  | any
  | array
  | object
  deriving DecidableEq

def JsonShape.admits (shape other : JsonShape) : Bool :=
  shape == .any || shape == other

/-- The shape of the values at each nesting level, the document itself being at level zero, and how
many brackets may be open at once where that is limited. -/
structure Outline where
  shape : Nat → JsonShape
  nesting : Option Nat

namespace Outline

/-- Any value, however deep. -/
def any : Outline := ⟨fun _ => .any, none⟩

/-- A document may have up to 127 brackets inside each other. -/
def untyped : Outline := ⟨fun _ => .any, some 127⟩

/-- Whether one more bracket may be opened inside of `level` others. -/
def isRoom (outline : Outline) (level : Nat) : Bool :=
  match outline.nesting with
  | some limit => level < limit
  | none => true

end Outline

/-- An open bracket with what was read inside it, newest first. An object also has the name whose
value is being read. -/
inductive OpenBracket where
  | array (items : List Json)
  | object (members : List (String × Json)) (name : String)

/-- What may come next. -/
inductive Expecting where
  /-- A value; behind an opening bracket also the closing one. -/
  | value (closable : Bool)
  /-- The name of a member, or the closing bracket where that is allowed. -/
  | name (members : List (String × Json)) (closable : Bool)
  | colon (members : List (String × Json)) (name : String)
  /-- A value is complete: a comma, the closing bracket around it, or the end. -/
  | more (value : Json)

namespace Json

/-- A value begins with an opening bracket: the shape has to be right and the bracket one too many
must not be reached. -/
def checkOpen (outline : Outline) (shape : JsonShape) (level : Nat) : Except JsonFault Unit :=
  if !(outline.shape level).admits shape then .error .misshapen
  else if outline.isRoom level then .ok ()
  else .error .malformed

/-- A scalar where a value may stand. -/
def scalar (outline : Outline) (level : Nat) (value : Json) : Except JsonFault Expecting :=
  if outline.shape level = .any then .ok (.more value) else .error .misshapen

/-- What the reader knows between two tokens: what may come next, and the open brackets, innermost
first. -/
abbrev ReaderState := Expecting × List OpenBracket

def stepValue (outline : Outline) (closable : Bool) (brackets : List OpenBracket) :
    JsonToken → Except JsonFault ReaderState
  | .text s => (scalar outline brackets.length (.text s)).map (·, brackets)
  | .literal value => (scalar outline brackets.length value).map (·, brackets)
  | .openArray => do
    checkOpen outline .array brackets.length
    .ok (.value true, .array [] :: brackets)
  | .openObject => do
    checkOpen outline .object brackets.length
    .ok (.name [] true, brackets)
  | .closeArray =>
    match closable, brackets with
    | true, .array items :: brackets => .ok (.more (.array items.reverse), brackets)
    | _, _ => .error .malformed
  | .broken _ fault => .error fault
  | _ => .error .malformed

def stepName (members : List (String × Json)) (closable : Bool) (brackets : List OpenBracket) :
    JsonToken → Except JsonFault ReaderState
  | .text name => .ok (.colon members name, brackets)
  | .closeObject => if closable then .ok (.more (.object []), brackets) else .error .malformed
  | .broken true fault => .error fault
  | _ => .error .malformed

def stepMore (value : Json) : List OpenBracket → JsonToken → Except JsonFault ReaderState
  | .array items :: brackets, .comma => .ok (.value false, .array (value :: items) :: brackets)
  | .array items :: brackets, .closeArray =>
    .ok (.more (.array (value :: items).reverse), brackets)
  | .object members name :: brackets, .comma =>
    .ok (.name ((name, value) :: members) false, brackets)
  | .object members name :: brackets, .closeObject =>
    .ok (.more (.object ((name, value) :: members).reverse), brackets)
  | _, _ => .error .malformed

def step (outline : Outline) : ReaderState → JsonToken → Except JsonFault ReaderState
  | (.value closable, brackets), token => stepValue outline closable brackets token
  | (.name members closable, brackets), token => stepName members closable brackets token
  | (.colon members name, brackets), .colon => .ok (.value false, .object members name :: brackets)
  | (.colon _ _, _), _ => .error .malformed
  | (.more value, brackets), token => stepMore value brackets token

/-- The state behind all the tokens. -/
def run (outline : Outline) (state : ReaderState) (tokens : List JsonToken) :
    Except JsonFault ReaderState :=
  tokens.foldlM (step outline) state

/-- A document is one value and nothing else. -/
def ofTokens (outline : Outline) (tokens : List JsonToken) : Except JsonFault Json := do
  match ← run outline (.value false, []) tokens with
  | (.more value, []) => .ok value
  | _ => .error .unfinished

def readOutlined (outline : Outline) (s : Rest) : Except JsonFault Json :=
  ofTokens outline (JsonToken.tokens s)

/-- A JSON text that is not too deep for a document. -/
def read (text : String) : Except JsonFault Json :=
  readOutlined .untyped (text.toList.map some)

end Json

end LinkedSheets
