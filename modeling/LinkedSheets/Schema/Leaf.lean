import LinkedSheets.Schema.Basic
import LinkedSheets.Schema.Failure
import LinkedSheets.Text.Blank

/-!
# Reading leaves

What a scalar means depends on where it stands. A cell is a text whatever it holds, so a number or
a truth value is read out of the text when it is asked for, and the empty cell stands for nothing.
In a document a number is a number. So it is in layers of settings, where a character is also a text
and a position also names a variant. What was set aside before its type was known is read like a
document wherever it came from: then no text is a number any more, and no character a text. It is
either handed over or, where it may have to be read once more, only lent.
-/

namespace LinkedSheets

open Decimal (readInteger? readBinary? binary32)

inductive Reading where
  | cells
  | document
  | layers
  | setAside
  | lent
  deriving DecidableEq, Repr

/-- Whether something was set aside before its type was known. -/
def Reading.isAside : Reading → Bool
  | setAside | lent => true
  | cells | document | layers => false

namespace Leaf

def integerName (r : Decimal.IntegerRange) : String :=
  (if r.signed then "i" else "u") ++ r.bits.repr

/-- The noun for what a leaf expects. -/
def expected : Leaf → String
  | boolean => "a boolean"
  | integer r | wideInteger r => integerName r
  | real f => if f = binary32 then "f32" else "f64"
  | character => "a character"
  | text | textSuch _ _ => "a string"
  | path => "path string"
  | unit => "unit"
  | unitStruct name => "unit struct " ++ name
  | variant _ => "variant identifier"

/-- A value that was read out of a text, or else the whole text is to blame. -/
def parsed (expected s : String) : Option Datum → Except DecodeFailure Datum
  | some d => .ok d
  | none => .error (.invalidValue (.text s) expected)

def readBoolean? (s : String) : Option Bool :=
  if s = "true" then some true else if s = "false" then some false else none

def readCharacter? (s : String) : Option Datum :=
  match s.toList with
  | [_] => some (.text s)
  | _ => none

def ofText (reading : Reading) (leaf : Leaf) (s : String) : Except DecodeFailure Datum :=
  let trimmed := Text.trim s
  match leaf, reading with
  | boolean, .cells => parsed leaf.expected s ((readBoolean? trimmed).map .boolean)
  | integer r, .cells => parsed leaf.expected s ((readInteger? r trimmed.toList).map .integer)
  | real f, .cells => parsed leaf.expected s ((readBinary? f trimmed.toList).map (.real f))
  | character, _ => parsed leaf.expected s (readCharacter? s)
  | text, _ | path, _ => .ok (.text s)
  | textSuch valid refusal, _ => if valid s then .ok (.text s) else .error (.refused refusal)
  | variant names, _ => if names.contains s then .ok (.text s) else .error (.unknownVariant s names)
  | unit, .cells =>
    if s = "" then .ok .null else .error (.invalidType (.text s) leaf.expected)
  | _, _ => .error (.invalidType (.text s) leaf.expected)

def ofNumber (leaf : Leaf) (n : JsonNumber) : Except DecodeFailure Datum :=
  match leaf, n with
  | integer r, .integer i | wideInteger r, .integer i =>
    if r.holds i then .ok (.integer i) else .error (.invalidValue (.number n) leaf.expected)
  | real f, .integer i => .ok (.real f (f.round i))
  | real f, .real x =>
    .ok (.real f (match x.toRat? with
      | some q => f.round q
      | none => x))
  | _, _ => .error (.invalidType (.number n) leaf.expected)

/-- The variant at a position. -/
def ofPosition (names : List String) (n : Nat) : Except DecodeFailure Datum :=
  match names[n]? with
  | some name => .ok (.text name)
  | none =>
    .error (.invalidValue (.number (.integer n)) ("variant index 0 <= i < " ++ names.length.repr))

def ofOrdinal (reading : Reading) (leaf : Leaf) (n : Nat) : Except DecodeFailure Datum :=
  match reading, leaf with
  | .layers, variant names => ofPosition names n
  | _, _ => ofNumber leaf (.integer n)

def ofCharacter (reading : Reading) (leaf : Leaf) (c : Char) : Except DecodeFailure Datum :=
  match reading, leaf with
  | _, character | .layers, text | .layers, path | .layers, textSuch .. | .layers, variant _ =>
    ofText reading leaf (String.singleton c)
  | _, _ => .error (.invalidType (.character c) leaf.expected)

def ofScalar (reading : Reading) (leaf : Leaf) : Scalar → Except DecodeFailure Datum
  | .text s => ofText reading leaf s
  | .number n => ofNumber leaf n
  | .ordinal n => ofOrdinal reading leaf n
  | .character c => ofCharacter reading leaf c
  | .boolean b =>
    match leaf with
    | boolean => .ok (.boolean b)
    | _ => .error (.invalidType (.boolean b) leaf.expected)
  | .null =>
    match leaf with
    | unit | unitStruct _ => .ok .null
    | _ => .error (.invalidType .null leaf.expected)

end Leaf

end LinkedSheets
