/-!
# Blanks

Sheets are edited by hand, so names and values are compared without the blanks at their ends.
`isBlank` is the White_Space property of Unicode, and `trim` takes it away on both sides of a text.
Text in the middle is never touched.
-/

namespace LinkedSheets.Text

/-- The White_Space property: twenty-five characters, six of them in ASCII. -/
def isBlank (c : Char) : Bool :=
  let n := c.toNat
  (0x09 ≤ n && n ≤ 0x0D) || n == 0x20 || n == 0x85 || n == 0xA0 || n == 0x1680 ||
    (0x2000 ≤ n && n ≤ 0x200A) || n == 0x2028 || n == 0x2029 || n == 0x202F || n == 0x205F ||
    n == 0x3000

/-- The characters between the first and the last that are not blank. -/
def trimChars (cs : List Char) : List Char :=
  ((cs.dropWhile isBlank).reverse.dropWhile isBlank).reverse

def trim (text : String) : String :=
  String.ofList (trimChars text.toList)

end LinkedSheets.Text
