import LinkedSheets.Decimal.Binary
import LinkedSheets.Table

/-!
# JSON values

A `Json` keeps the members of an object in order and keeps repeated names, so that a text can be
read without loss. `canonical` is the value of an object as a table: the last of repeated names
counts, and the names are in the order of their code points.
-/

namespace LinkedSheets

/-- A number is a whole number as it was written, or the binary number it was rounded to. -/
inductive JsonNumber where
  | integer (n : Int)
  | real (x : Decimal.Binary)
  deriving DecidableEq, Repr

inductive Json where
  | null
  | boolean (b : Bool)
  | number (n : JsonNumber)
  | text (s : String)
  | array (items : List Json)
  | object (members : List (String × Json))
  deriving Repr, Inhabited

namespace Json

mutual

def canonical : Json → Json
  | array items => array (canonicalItems items)
  | object members => object (Table.ofList (canonicalMembers members))
  | other => other

def canonicalItems : List Json → List Json
  | [] => []
  | item :: items => canonical item :: canonicalItems items

def canonicalMembers : List (String × Json) → List (String × Json)
  | [] => []
  | (name, value) :: members => (name, canonical value) :: canonicalMembers members

end

/-- The value of the last member of that name. -/
def member? (name : String) : Json → Option Json
  | object members => (members.reverse.find? fun (other, _) => other == name).map (·.2)
  | _ => none

end Json

end LinkedSheets
