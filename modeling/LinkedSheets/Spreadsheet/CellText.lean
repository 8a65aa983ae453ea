import LinkedSheets.Json.Token

/-!
# Texts in a spreadsheet file

All line ends in a file are read as single newlines (`lineEnds`). A text that was typed in may also
hold any of the first 256 characters by its number, between `_x00` and an underscore (`unescape`).
-/

namespace LinkedSheets.CellText

/-- Carriage returns are newlines, with a newline behind them or not. -/
def lineEnds : List Char → List Char
  | [] => []
  | '\r' :: '\n' :: cs => '\n' :: lineEnds cs
  | '\r' :: cs => '\n' :: lineEnds cs
  | c :: cs => c :: lineEnds cs

/-- The number of two hexadecimal digits, or of a plus sign and one digit. -/
def byte? (a b : Char) : Option Nat := do
  let high ← if a = '+' then some 0 else JsonToken.hexValue? a
  let low ← JsonToken.hexValue? b
  some (high * 16 + low)

/-- The character of an escape at the front. -/
def escape? : List Char → Option Char
  | '_' :: 'x' :: '0' :: '0' :: a :: b :: '_' :: _ => (byte? a b).map Char.ofNat
  | _ => none

/-- Replaces the escapes, behind `skipped` characters that are left out. -/
def unescapeFrom : (skipped : Nat) → List Char → List Char
  | _, [] => []
  | skipped + 1, _ :: cs => unescapeFrom skipped cs
  | 0, c :: cs =>
    match escape? (c :: cs) with
    | some d => d :: unescapeFrom 6 cs
    | none => c :: unescapeFrom 0 cs

def unescape (cs : List Char) : List Char :=
  unescapeFrom 0 cs

/-- A text as it stands in the file. -/
def stored (s : String) : String :=
  String.ofList (lineEnds s.toList)

/-- A text as it was typed in. -/
def typed (s : String) : String :=
  String.ofList (unescape (lineEnds s.toList))

end LinkedSheets.CellText
