import LinkedSheets.Json.Number
import LinkedSheets.Text.Utf8

/-!
# Tokens of a JSON text

`tokens` cuts the characters of a document into brackets, separators, texts and other scalars.
Cutting stops at the first place that begins no token: the last token is then a `broken` one that
keeps the fault and whether it lies inside a text. Whether that fault matters is for the reader to
say, since a token in the wrong place is a fault of its own.
-/

namespace LinkedSheets

open JsonNumber (Rest)

inductive JsonToken where
  | openArray
  | closeArray
  | openObject
  | closeObject
  | comma
  | colon
  | text (s : String)
  /-- A number or a word: any scalar that is not a text. -/
  | literal (value : Json)
  | broken (inText : Bool) (fault : JsonFault)

namespace JsonToken

def isSpace (c : Char) : Bool :=
  c == ' ' || c == '\n' || c == '\t' || c == '\r'

def hexValue? (c : Char) : Option Nat :=
  if c.isDigit then some (c.toNat - '0'.toNat)
  else if 'a' ≤ c ∧ c ≤ 'f' then some (c.toNat - 'a'.toNat + 10)
  else if 'A' ≤ c ∧ c ≤ 'F' then some (c.toNat - 'A'.toNat + 10)
  else none

/-- How many bytes the characters were written with. -/
def bytesIn (s : Rest) : Nat :=
  s.foldl (fun n c => n + Text.width c) 0

/-- The number that four hexadecimal digits in front denote. If fewer than four bytes are left the
document has ended too early, whatever they are. -/
def hexQuad (rest : Rest) : Except JsonFault Nat :=
  match rest with
  | some a :: some b :: some c :: some d :: _ =>
    match hexValue? a, hexValue? b, hexValue? c, hexValue? d with
    | some a, some b, some c, some d => .ok (((a * 16 + b) * 16 + c) * 16 + d)
    | _, _, _, _ => .error .malformed
  | _ =>
    if bytesIn rest < 4 then .error .unfinished else .error .malformed

/-- The character of two surrogates. -/
def joinSurrogates (high low : Nat) : Char :=
  Char.ofNat (0x10000 + (high - 0xD800) * 0x400 + (low - 0xDC00))

/-- The second half of a pair of surrogates, from behind the first. -/
def lowSurrogate (rest : Rest) : Except JsonFault Nat :=
  match rest with
  | [] => .error .unfinished
  | some '\\' :: [] => .error .unfinished
  | some '\\' :: some 'u' :: rest => do
    let low ← hexQuad rest
    if 0xDC00 ≤ low ∧ low ≤ 0xDFFF then .ok low else .error .malformed
  | _ => .error .malformed

/-- The character of an escape with a number, and how many characters the escape takes, from behind
its letter. A low surrogate cannot stand alone, nor a high one without a low one. -/
def unicodeEscape (rest : Rest) : Except JsonFault (Char × Nat) := do
  let n ← hexQuad rest
  if n < 0xD800 ∨ 0xDFFF < n then .ok (Char.ofNat n, 4)
  else if 0xDC00 ≤ n then .error .malformed
  else
    let low ← lowSurrogate (rest.drop 4)
    .ok (joinSurrogates n low, 10)

/-- The character that a letter stands for behind a backslash. -/
def letterEscape? : Char → Option Char
  | '"' => some '"'
  | '\\' => some '\\'
  | '/' => some '/'
  | 'b' => some '\x08'
  | 'f' => some '\x0c'
  | 'n' => some '\n'
  | 'r' => some '\r'
  | 't' => some '\t'
  | _ => none

/-- A piece of a text: its end, or a character and what follows it. A byte that belongs to no
character is passed on as `none`. -/
inductive Piece where
  | finish (rest : Rest)
  | more (c : Option Char) (rest : Rest)
  | fault (f : JsonFault)

def Piece.next : Rest → Piece
  | [] => .fault .unfinished
  | none :: rest => .more none rest
  | some '"' :: rest => .finish rest
  | some '\\' :: [] => .fault .unfinished
  | some '\\' :: some 'u' :: rest =>
    match unicodeEscape rest with
    | .ok (c, taken) => .more (some c) (rest.drop taken)
    | .error f => .fault f
  | some '\\' :: some c :: rest =>
    match letterEscape? c with
    | some c => .more (some c) rest
    | none => .fault .malformed
  | some '\\' :: none :: _ => .fault .malformed
  | some c :: rest => if c.toNat < 0x20 then .fault .malformed else .more (some c) rest

theorem Piece.length_lt_of_next_more {s rest : Rest} {c : Option Char}
    (h : Piece.next s = .more c rest) : rest.length < s.length := by
  unfold Piece.next at h
  split at h
  · cases h
  · cases h; simp
  · cases h
  · cases h
  · split at h
    · cases h; simp only [List.length_drop, List.length_cons]; omega
    · cases h
  · split at h
    · cases h; simp only [List.length_cons]; omega
    · cases h
  · cases h
  · split at h
    · cases h
    · cases h; simp

theorem Piece.length_lt_of_next_finish {s rest : Rest}
    (h : Piece.next s = .finish rest) : rest.length < s.length := by
  unfold Piece.next at h
  split at h
  · cases h
  · cases h
  · cases h; simp
  · cases h
  · split at h <;> cases h
  · split at h <;> cases h
  · cases h
  · split at h <;> cases h

/-- The characters of a text from behind its opening quote, and what follows its closing one. Bytes
that belong to no character are a fault, but only of a text that has an end. -/
def scanText (s : Rest) : Except JsonFault (List Char × Rest) :=
  match h : Piece.next s with
  | .finish rest => .ok ([], rest)
  | .fault f => .error f
  | .more c rest =>
    have := Piece.length_lt_of_next_more h
    match scanText rest, c with
    | .ok (cs, rest), some c => .ok (c :: cs, rest)
    | .ok _, none => .error .malformed
    | .error f, _ => .error f
termination_by s.length

theorem length_lt_of_scanText {s rest : Rest} {cs : List Char}
    (h : scanText s = .ok (cs, rest)) : rest.length < s.length := by
  fun_induction scanText s generalizing cs rest with
  | case1 s r hp => cases h; exact Piece.length_lt_of_next_finish hp
  | case3 _ _ _ _ _ _ hs _ hlt ih => cases h; have := ih hs; omega
  | _ => cases h

/-- The letters of a word, from behind its first one. -/
def scanWord : List Char → Rest → Except JsonFault Rest
  | [], rest => .ok rest
  | _ :: _, [] => .error .unfinished
  | w :: word, c :: rest => if c = some w then scanWord word rest else .error .malformed

theorem length_le_of_scanWord {rest : Rest} : ∀ {word : List Char} {s : Rest},
    scanWord word s = .ok rest → rest.length ≤ s.length
  | [], s, h => by cases h; exact Nat.le_refl _
  | _ :: _, [], h => by cases h
  | w :: word, c :: s, h => by
    rw [scanWord] at h
    split at h
    · exact Nat.le_succ_of_le (length_le_of_scanWord h)
    · cases h

/-- A scalar that is not a text, from its first character. -/
def scanLiteral (c : Char) (s : Rest) : Except JsonFault (Json × Rest) :=
  if c = 'n' then (scanWord ['u', 'l', 'l'] s).map (.null, ·)
  else if c = 't' then (scanWord ['r', 'u', 'e'] s).map (.boolean true, ·)
  else if c = 'f' then (scanWord ['a', 'l', 's', 'e'] s).map (.boolean false, ·)
  else if c = '-' then (JsonNumber.scan true s).map fun (n, rest) => (.number n, rest)
  else if c.isDigit then
    (JsonNumber.scan false (some c :: s)).map fun (n, rest) => (.number n, rest)
  else .error .malformed

theorem length_le_of_scanLiteral {c : Char} {s rest : Rest} {j : Json}
    (h : scanLiteral c s = .ok (j, rest)) : rest.length ≤ s.length := by
  have word : ∀ (w : List Char) (k : Json), (scanWord w s).map (k, ·) = .ok (j, rest) →
      rest.length ≤ s.length := by
    intro w k h
    cases hw : scanWord w s with
    | error => rw [hw] at h; cases h
    | ok r => rw [hw] at h; cases h; exact length_le_of_scanWord hw
  have number : ∀ (negative : Bool) (t : Rest),
      (JsonNumber.scan negative t).map (fun (n, rest) => (Json.number n, rest)) = .ok (j, rest) →
      rest.length < t.length := by
    intro negative t h
    cases hn : JsonNumber.scan negative t with
    | error => rw [hn] at h; cases h
    | ok p => rw [hn] at h; cases h; exact JsonNumber.length_lt_of_scan hn
  unfold scanLiteral at h
  split at h
  · exact word _ _ h
  split at h
  · exact word _ _ h
  split at h
  · exact word _ _ h
  split at h
  · exact Nat.le_of_lt (number _ _ h)
  split at h
  · exact Nat.le_of_lt_succ (number _ _ h)
  · cases h

def punctuation? : Char → Option JsonToken
  | '[' => some openArray
  | ']' => some closeArray
  | '\x7b' => some openObject
  | '\x7d' => some closeObject
  | ',' => some comma
  | ':' => some colon
  | _ => none

def tokens : Rest → List JsonToken
  | [] => []
  | none :: _ => [broken false .malformed]
  | some c :: s =>
    if isSpace c then tokens s
    else match punctuation? c with
      | some t => t :: tokens s
      | none =>
        if c = '"' then
          match h : scanText s with
          | .ok (cs, rest) =>
            have := length_lt_of_scanText h
            text (String.ofList cs) :: tokens rest
          | .error f => [broken true f]
        else
          match h : scanLiteral c s with
          | .ok (value, rest) =>
            have := length_le_of_scanLiteral h
            literal value :: tokens rest
          | .error f => [broken false f]
termination_by s => s.length
decreasing_by all_goals simp <;> omega

end JsonToken

end LinkedSheets
