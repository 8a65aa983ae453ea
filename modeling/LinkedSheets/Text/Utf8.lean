/-!
# Text files as characters

The bytes of a file are read as UTF-8 one character at a time. A byte that belongs to no character
does not end the reading: it stands as `none`, and the next byte is tried as the start of a
character. A reader can so decide for itself whether a stray byte matters where it stands.
-/

namespace LinkedSheets.Text

/-- The payload of a continuation byte. -/
def continuation? (b : UInt8) : Option Nat :=
  if 0x80 ≤ b && b < 0xC0 then some (b.toNat - 0x80) else none

/-- A scalar value that needs the number of bytes it was written with: `least` is the first one
that does, and surrogates are no characters. -/
def scalar? (least n : Nat) : Option Char :=
  if h : n.isValidChar ∧ least ≤ n then some (Char.ofNatAux n h.1) else none

/-- The character that starts at the first byte, and how many bytes follow that one in it. -/
def leading? : List UInt8 → Option (Char × Nat)
  | [] => none
  | a :: rest =>
    if a < 0x80 then (scalar? 0 a.toNat).map (·, 0)
    else if a < 0xC0 then none
    else if a < 0xE0 then
      match rest with
      | b :: _ => do
        let b ← continuation? b
        (scalar? 0x80 ((a.toNat - 0xC0) * 0x40 + b)).map (·, 1)
      | _ => none
    else if a < 0xF0 then
      match rest with
      | b :: c :: _ => do
        let b ← continuation? b
        let c ← continuation? c
        (scalar? 0x800 (((a.toNat - 0xE0) * 0x40 + b) * 0x40 + c)).map (·, 2)
      | _ => none
    else if a < 0xF8 then
      match rest with
      | b :: c :: d :: _ => do
        let b ← continuation? b
        let c ← continuation? c
        let d ← continuation? d
        (scalar? 0x10000 ((((a.toNat - 0xF0) * 0x40 + b) * 0x40 + c) * 0x40 + d)).map (·, 3)
      | _ => none
    else none

/-- The characters of the bytes after the first `skip` of them, which belong to a character that
was read already. -/
def decodeAfter : (skip : Nat) → List UInt8 → List (Option Char)
  | _, [] => []
  | skip + 1, _ :: rest => decodeAfter skip rest
  | 0, b :: rest =>
    match leading? (b :: rest) with
    | some (c, more) => some c :: decodeAfter more rest
    | none => none :: decodeAfter 0 rest

/-- The characters that some bytes hold, a stray byte as `none`. -/
def decode (bytes : List UInt8) : List (Option Char) :=
  decodeAfter 0 bytes

/-- How many bytes a character of `decode` was written with. -/
def width : Option Char → Nat
  | some c => c.utf8Size
  | none => 1

/-- The text that the bytes are the UTF-8 form of, if they are one. -/
def ofUtf8? (bytes : List UInt8) : Option String :=
  String.fromUTF8? ⟨bytes.toArray⟩

end LinkedSheets.Text
