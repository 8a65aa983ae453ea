import LinkedSheets.Json.Basic
import LinkedSheets.Decimal.Shortest

/-!
# Writing JSON

`compact` writes no blanks at all. `pretty` puts every item and every member on a line of its own,
two spaces deeper than the brackets around it, with a space behind the colon; empty brackets stay
together. Both write the members of an object in the order they have.
-/

namespace LinkedSheets.Json

open Decimal

/-- Real numbers keep a point, and an exponent where the leading digit is far from it. -/
def numberLayout : DecimalLayout := ⟨some (-5, 15), true, true⟩

def numberText : JsonNumber → List Char
  | .integer n => (if n < 0 then ['-'] else []) ++ Nat.toDigits 10 n.natAbs
  | .real x => numberLayout.text binary64 x

def hexDigit (n : Nat) : Char :=
  Nat.digitChar n

/-- One character of a text: quote, backslash and controls are escaped, all else stands for
itself. -/
def escapeChar (c : Char) : List Char :=
  if c = '"' then ['\\', '"']
  else if c = '\\' then ['\\', '\\']
  else if c = '\x08' then ['\\', 'b']
  else if c = '\x0c' then ['\\', 'f']
  else if c = '\n' then ['\\', 'n']
  else if c = '\r' then ['\\', 'r']
  else if c = '\t' then ['\\', 't']
  else if c.toNat < 0x20 then
    ['\\', 'u', '0', '0', hexDigit (c.toNat / 16), hexDigit (c.toNat % 16)]
  else [c]

def textChars (s : String) : List Char :=
  '"' :: s.toList.flatMap escapeChar ++ ['"']

def scalarChars : Json → List Char
  | boolean true => ['t', 'r', 'u', 'e']
  | boolean false => ['f', 'a', 'l', 's', 'e']
  | number n => numberText n
  | text s => textChars s
  | _ => ['n', 'u', 'l', 'l']

mutual

def compactChars : Json → List Char
  | array [] => ['[', ']']
  | array (item :: items) => '[' :: compactChars item ++ compactItems items
  | object [] => ['\x7b', '\x7d']
  | object ((name, value) :: members) =>
    '\x7b' :: textChars name ++ ':' :: compactChars value ++ compactMembers members
  | scalar => scalarChars scalar

/-- The items behind the first one, and the closing bracket. -/
def compactItems : List Json → List Char
  | [] => [']']
  | item :: items => ',' :: compactChars item ++ compactItems items

/-- The members behind the first one, and the closing bracket. -/
def compactMembers : List (String × Json) → List Char
  | [] => ['\x7d']
  | (name, value) :: members =>
    ',' :: textChars name ++ ':' :: compactChars value ++ compactMembers members

end

/-- A new line, `depth` levels deep. -/
def lineBreak (depth : Nat) : List Char :=
  '\n' :: List.replicate (2 * depth) ' '

mutual

/-- The text of a value whose first character stands `depth` levels deep. -/
def prettyChars (depth : Nat) : Json → List Char
  | array [] => ['[', ']']
  | array (item :: items) =>
    '[' :: lineBreak (depth + 1) ++ prettyChars (depth + 1) item ++ prettyItems depth items
  | object [] => ['\x7b', '\x7d']
  | object ((name, value) :: members) =>
    '\x7b' :: lineBreak (depth + 1) ++ textChars name ++ ':' :: ' ' ::
      prettyChars (depth + 1) value ++ prettyMembers depth members
  | scalar => scalarChars scalar

def prettyItems (depth : Nat) : List Json → List Char
  | [] => lineBreak depth ++ [']']
  | item :: items =>
    ',' :: lineBreak (depth + 1) ++ prettyChars (depth + 1) item ++ prettyItems depth items

def prettyMembers (depth : Nat) : List (String × Json) → List Char
  | [] => lineBreak depth ++ ['\x7d']
  | (name, value) :: members =>
    ',' :: lineBreak (depth + 1) ++ textChars name ++ ':' :: ' ' ::
      prettyChars (depth + 1) value ++ prettyMembers depth members

end

def compact (j : Json) : String :=
  String.ofList (compactChars j)

def pretty (j : Json) : String :=
  String.ofList (prettyChars 0 j)

end LinkedSheets.Json
