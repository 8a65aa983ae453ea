import LinkedSheets.Text.Printable

/-!
# Quoted text

Messages and events show a path or a piece of input between quotes, so that its ends and its
invisible characters can be seen. `quoted` uses double quotes and `quotedChar` single ones. The
quote in use and the backslash follow a backslash, the usual control characters have a letter, and
a character that cannot be printed, or that extends the one before it, is written by its number.
-/

namespace LinkedSheets.Text

/-- The number in hexadecimal, lower case, without leading zeros. -/
def hexDigits (n : Nat) : List Char :=
  Nat.toDigits 16 n

/-- One character between two `quote` characters. -/
def escapeChar (quote c : Char) : List Char :=
  if c = '\x00' then ['\\', '0']
  else if c = '\t' then ['\\', 't']
  else if c = '\r' then ['\\', 'r']
  else if c = '\n' then ['\\', 'n']
  else if c = quote || c = '\\' then ['\\', c]
  else if isPrintable c && !isExtender c then [c]
  else ['\\', 'u', '\x7b'] ++ hexDigits c.toNat ++ ['\x7d']

def quoted (text : String) : String :=
  String.ofList ('"' :: text.toList.flatMap (escapeChar '"') ++ ['"'])

def quotedChar (c : Char) : String :=
  String.ofList ('\'' :: escapeChar '\'' c ++ ['\''])

end LinkedSheets.Text
