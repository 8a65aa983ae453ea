import LinkedSheets.Json.Basic

/-!
# Scalars

A scalar is a value that holds no others. Documents have those of JSON. Settings have two more: a
number that was written without a sign can be a position in a list, and a single character between
single quotes is not quite a text.
-/

namespace LinkedSheets

inductive Scalar where
  | null
  | boolean (b : Bool)
  | number (n : JsonNumber)
  | ordinal (n : Nat)
  | text (s : String)
  | character (c : Char)
  deriving DecidableEq, Repr, Inhabited

namespace Scalar

def toJson : Scalar → Json
  | null => .null
  | boolean b => .boolean b
  | number n => .number n
  | ordinal n => .number (.integer n)
  | text s => .text s
  | character c => .text (String.singleton c)

end Scalar

end LinkedSheets
