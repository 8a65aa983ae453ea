import LinkedSheets.Text.Quoted

/-!
# Text for a terminal

A terminal obeys some control characters instead of showing them. `harmless` writes those by their
numbers, so that a text from outside cannot change what is on the screen.
-/

namespace LinkedSheets.Text

/-- The characters that ring, move or begin a command, and those that do so in a byte of their
own. -/
def isObeyed (c : Char) : Bool :=
  ['\x07', '\x08', '\x0c', '\x1b', '\x7f'].contains c || (0x80 ≤ c.toNat && c.toNat ≤ 0x9F)

def harmlessChar (c : Char) : List Char :=
  if !isObeyed c then [c]
  else if c.toNat < 0x10 then ['\\', 'x', '0'] ++ hexDigits c.toNat
  else if c.toNat < 0x80 then ['\\', 'x'] ++ hexDigits c.toNat
  else ['\\', 'u', '\x7b'] ++ hexDigits c.toNat ++ ['\x7d']

def harmless (text : String) : String :=
  String.ofList (text.toList.flatMap harmlessChar)

end LinkedSheets.Text
