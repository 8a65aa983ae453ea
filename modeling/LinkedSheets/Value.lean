import LinkedSheets.Json.Writer

/-!
# Resolved values

A resolved row is an object whose fields are in the order of the columns. A field is the text of a
cell, the row that a reference leads to, or an array of such rows.
-/

namespace LinkedSheets

inductive Value where
  | scalar (text : String)
  | array (items : List Value)
  | object (fields : List (String × Value))
  deriving Repr, Inhabited

namespace Value

/-- The field of that key; the first one, if a key is repeated. Only objects have fields. -/
def get? (v : Value) (key : String) : Option Value :=
  match v with
  | object fields => fields.lookup key
  | _ => none

/-- What a path of keys leads to. -/
def getPath? (v : Value) (path : List String) : Option Value :=
  path.foldlM get? v

def text? : Value → Option String
  | scalar text => some text
  | _ => none

mutual

/-- Whether two values are the same, keys and order of fields included. -/
def same : Value → Value → Bool
  | scalar s, scalar t => s == t
  | array xs, array ys => sameItems xs ys
  | object xs, object ys => sameFields xs ys
  | _, _ => false

def sameItems : List Value → List Value → Bool
  | [], [] => true
  | x :: xs, y :: ys => same x y && sameItems xs ys
  | _, _ => false

def sameFields : List (String × Value) → List (String × Value) → Bool
  | [], [] => true
  | (k, x) :: xs, (l, y) :: ys => k == l && same x y && sameFields xs ys
  | _, _ => false

end

mutual

/-- The value as JSON, texts as texts. -/
def toJson : Value → Json
  | scalar text => .text text
  | array items => .array (itemsToJson items)
  | object fields => .object (fieldsToJson fields)

def itemsToJson : List Value → List Json
  | [] => []
  | item :: items => toJson item :: itemsToJson items

def fieldsToJson : List (String × Value) → List (String × Json)
  | [] => []
  | (key, value) :: fields => (key, toJson value) :: fieldsToJson fields

end

end Value

end LinkedSheets
