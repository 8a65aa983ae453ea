import LinkedSheets.Json.Writer
import LinkedSheets.Schema.Scalar
import LinkedSheets.Text.Quoted

/-!
# Why a value does not fit a schema

A failure says what was found and what was expected instead, or what is missing, repeated or
unknown. What was found is kept as it is; what was expected is a noun.
-/

namespace LinkedSheets

/-- What a schema came upon. Of arrays and objects only the kind is told. -/
inductive Found where
  | null
  | boolean (b : Bool)
  | number (n : JsonNumber)
  | text (s : String)
  | character (c : Char)
  | sequence
  | map
  /-- The bare name of a variant that holds something. -/
  | unitVariant
  deriving DecidableEq, Repr

namespace Found

def ofJson : Json → Found
  | .null => null
  | .boolean b => boolean b
  | .number n => number n
  | .text s => text s
  | .array _ => sequence
  | .object _ => map

def ofScalar : Scalar → Found
  | .null => null
  | .boolean b => boolean b
  | .number n => number n
  | .ordinal n => number (.integer n)
  | .text s => text s
  | .character c => character c

def describe : Found → String
  | null => "null"
  | boolean b => "boolean `" ++ (if b then "true" else "false") ++ "`"
  | number (.integer n) => "integer `" ++ String.ofList (Json.numberText (.integer n)) ++ "`"
  | number (.real x) => "floating point `" ++ String.ofList (Json.numberText (.real x)) ++ "`"
  | text s => "string " ++ Text.quoted s
  | character c => "character `" ++ String.singleton c ++ "`"
  | sequence => "sequence"
  | map => "map"
  | unitVariant => "unit variant"

end Found

inductive DecodeFailure where
  /-- Another kind of value. -/
  | invalidType (found : Found) (expected : String)
  /-- The right kind, but no such value. -/
  | invalidValue (found : Found) (expected : String)
  /-- Too few or too many items. -/
  | invalidLength (length : Nat) (expected : String)
  | missingField (name : String)
  | duplicateField (name : String)
  | unknownField (name : String) (known : List String)
  | unknownVariant (name : String) (known : List String)
  /-- No alternative of the named type fits. -/
  | noAlternative (type : String)
  /-- A zero among bytes that must not have one. -/
  | zeroByte (position : Nat)
  /-- A text that is refused with words of its own. -/
  | refused (reason : String)
  deriving DecidableEq, Repr

namespace DecodeFailure

def codeQuoted (name : String) : String :=
  "`" ++ name ++ "`"

/-- The names that would have been right. -/
def choices : List String → String
  | [a] => codeQuoted a
  | [a, b] => codeQuoted a ++ " or " ++ codeQuoted b
  | names => "one of " ++ ", ".intercalate (names.map codeQuoted)

def message : DecodeFailure → String
  | invalidType found expected => "invalid type: " ++ found.describe ++ ", expected " ++ expected
  | invalidValue found expected => "invalid value: " ++ found.describe ++ ", expected " ++ expected
  | invalidLength length expected =>
    "invalid length " ++ length.repr ++ ", expected " ++ expected
  | missingField name => "missing field " ++ codeQuoted name
  | duplicateField name => "duplicate field " ++ codeQuoted name
  | unknownField name known =>
    "unknown field " ++ codeQuoted name ++ ", expected " ++ choices known
  | unknownVariant name known =>
    "unknown variant " ++ codeQuoted name ++ ", expected " ++ choices known
  | noAlternative type => "data did not match any variant of untagged enum " ++ type
  | zeroByte position => "nul byte found in provided data at position: " ++ position.repr
  | refused reason => reason

end DecodeFailure

end LinkedSheets
