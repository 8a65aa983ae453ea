import LinkedSheets.Decimal.Reader
import LinkedSheets.Json.Token
import LinkedSheets.Settings.Layer
import LinkedSheets.Text.Blank

/-!
# Values in the environment

The value of an environment variable is a truth value, a number, a text in double quotes, a
character in single ones, an array in brackets or a table in braces. Any other text stands for
itself without the blanks at its ends, up to the next separator. If the whole of a text cannot be
read like that, all of it is the value.

Of a text in quotes that has escapes, the part before the first one is cut: as many bytes of it are
kept as it has characters, so a letter of several bytes pushes others out. Where that would divide a
letter there is no value at all (`ValueFault.torn`).
-/

namespace LinkedSheets.Environment

/-- Why a text is not read as a value. -/
inductive ValueFault where
  /-- It does not have the form of one. -/
  | malformed
  /-- The part before the first escape of a text in quotes would end inside a character. -/
  | torn
  deriving DecidableEq, Repr

def isSpace (c : Char) : Bool :=
  c == ' ' || c == '\t' || c == '\n' || c == '\x0c' || c == '\r'

def isSeparator (c : Char) : Bool :=
  c == ',' || c == '\x7b' || c == '\x7d' || c == '[' || c == ']'

def isKeyChar (c : Char) : Bool :=
  c.isAlphanum || c == '_' || c == '-'

def skipSpace (cs : List Char) : List Char :=
  cs.dropWhile isSpace

/-- The character of hexadecimal digits. -/
def hexChar? (digits : List Char) : Option Char := do
  let values ← digits.mapM JsonToken.hexValue?
  let n := values.foldl (fun n d => n * 16 + d) 0
  if h : n.isValidChar then some (Char.ofNatAux n h) else none

def letterEscape? : Char → Option Char
  | '"' => some '"'
  | '\\' => some '\\'
  | 'b' => some '\x08'
  | 'f' => some '\x0c'
  | 'n' => some '\n'
  | 'r' => some '\r'
  | 't' => some '\t'
  | _ => none

/-- Characters that stand for themselves: no backslash, and of the controls only the tab. -/
def isPlain (c : Char) : Bool :=
  c == '\t' || (0x20 ≤ c.toNat && c.toNat != 0x7F && c != '\\')

/-- What is between the quotes, from behind the opening one, and what is behind the closing one. A
backslash takes the character behind it along. -/
def splitQuoted : List Char → Option (List Char × List Char)
  | [] => none
  | '"' :: rest => some ([], rest)
  | '\\' :: c :: rest => (splitQuoted rest).map fun (inside, rest) => ('\\' :: c :: inside, rest)
  | c :: rest => (splitQuoted rest).map fun (inside, rest) => (c :: inside, rest)

/-- The characters that a text with escapes stands for. -/
def unescape? : List Char → Option (List Char)
  | [] => some []
  | '\\' :: 'u' :: a :: b :: c :: d :: rest => do
    let char ← hexChar? [a, b, c, d]
    (unescape? rest).map (char :: ·)
  | '\\' :: 'U' :: a :: b :: c :: d :: e :: f :: g :: h :: rest => do
    let char ← hexChar? [a, b, c, d, e, f, g, h]
    (unescape? rest).map (char :: ·)
  | '\\' :: letter :: rest => do
    let char ← letterEscape? letter
    (unescape? rest).map (char :: ·)
  | c :: rest => if isPlain c then (unescape? rest).map (c :: ·) else none

/-- The characters in the first `n` bytes, if those are whole characters. -/
def takeBytes? : (n : Nat) → List Char → Option (List Char)
  | 0, _ => some []
  | _ + 1, [] => none
  | n + 1, c :: cs =>
    if c.utf8Size ≤ n + 1 then (takeBytes? (n + 1 - c.utf8Size) cs).map (c :: ·) else none

/-- The text that the characters between two quotes stand for. -/
def quotedText (inside : List Char) : Except ValueFault (List Char) :=
  let (before, escaped) := inside.span (· ≠ '\\')
  if !before.all isPlain then .error .malformed
  else if escaped.isEmpty then .ok inside
  else match takeBytes? before.length before, unescape? escaped with
    | none, _ => .error .torn
    | some kept, some rest => .ok (kept ++ rest)
    | some _, none => .error .malformed

/-- A text from behind its opening quote. -/
def readQuoted (cs : List Char) : Except ValueFault (String × List Char) :=
  match splitQuoted cs with
  | none => .error .malformed
  | some (inside, rest) => (quotedText inside).map fun text => (String.ofList text, rest)

/-- A text without quotes: a number if it is one. Only with a point is it a real number. -/
def bareValue (cs : List Char) : Scalar :=
  let cs := Text.trimChars cs
  let real := if cs.contains '.' then Decimal.readBinary? Decimal.binary64 cs else none
  match real, Decimal.readInteger? ⟨false, 64⟩ cs, Decimal.readInteger? ⟨true, 64⟩ cs with
  | some x, _, _ => .number (.real x)
  | none, some n, _ => .ordinal n.toNat
  | none, none, some n => .number (.integer n)
  | none, none, none => .text (String.ofList cs)

/-- Items up to a closing bracket, divided by commas; there may be a comma behind the last one. Each
item takes at least one character, so `fuel` need not be more than there are. -/
def readItems {α : Type} (readItem : List Char → Except ValueFault (α × List Char))
    (close : Char) : (fuel : Nat) → List Char → Except ValueFault (List α × List Char)
  | 0, _ => .error .malformed
  | fuel + 1, cs =>
    if cs.head? = some close then .ok ([], cs.tail)
    else do
      let (item, rest) ← readItem cs
      match rest with
      | [] => .error .malformed
      | c :: rest =>
        if c = ',' then (readItems readItem close fuel rest).map fun (items, rest) =>
          (item :: items, rest)
        else if c = close then .ok ([item], rest)
        else .error .malformed

def readKey (cs : List Char) : Except ValueFault (String × List Char) :=
  match cs with
  | '"' :: rest => readQuoted rest
  | cs =>
    match cs.takeWhile isKeyChar with
    | [] => .error .malformed
    | name => .ok (String.ofList name, cs.dropWhile isKeyChar)

/-- A key, a sign of equality and a value, with blanks around them. -/
def readEntry (readValue : List Char → Except ValueFault (Setting × List Char))
    (cs : List Char) : Except ValueFault ((String × Setting) × List Char) := do
  let (key, rest) ← readKey (skipSpace cs)
  match skipSpace rest with
  | '=' :: rest =>
    let (value, rest) ← readValue rest
    .ok ((key, value), skipSpace rest)
  | _ => .error .malformed

/-- A value and what is behind it, with at most `depth` brackets inside each other. -/
def readValue : (depth : Nat) → List Char → Except ValueFault (Setting × List Char)
  | 0, _ => .error .malformed
  | depth + 1, cs =>
    let cs := skipSpace cs
    let done (value : Setting) (rest : List Char) : Except ValueFault (Setting × List Char) :=
      .ok (value, skipSpace rest)
    match cs with
    | 't' :: 'r' :: 'u' :: 'e' :: rest => done (.scalar (.boolean true)) rest
    | 'f' :: 'a' :: 'l' :: 's' :: 'e' :: rest => done (.scalar (.boolean false)) rest
    | '\x7b' :: rest => do
      let (entries, rest) ← readItems (readEntry (readValue depth)) '\x7d' cs.length rest
      done (.table (Table.ofList entries)) rest
    | '[' :: rest => do
      let (items, rest) ← readItems (readValue depth) ']' cs.length rest
      done (.array items) rest
    | '"' :: rest => do
      let (text, rest) ← readQuoted rest
      done (.scalar (.text text)) rest
    | '\'' :: c :: '\'' :: rest => done (.scalar (.character c)) rest
    | '\'' :: _ => .error .malformed
    | cs =>
      .ok (.scalar (bareValue (cs.takeWhile (!isSeparator ·))), cs.dropWhile (!isSeparator ·))

/-- The value that a text stands for, unless it would be torn. -/
def value? (text : String) : Option Setting :=
  match readValue (text.length + 1) text.toList with
  | .ok (value, []) => some value
  | .error .torn => none
  | _ => some (.scalar (.text text))

end LinkedSheets.Environment
