import LinkedSheets.Decimal.Reader
import LinkedSheets.Json.Basic

/-!
# Schemas

A `Schema` is the type that a value is asked to have, and a `Datum` is a value that has one. Schemas
are built from leaves by options, lists, tables, tuples, records and three kinds of choices: a
choice among names, a choice by a tag in the object, and a choice by what fits.

A record may contain itself. In the fields of a record, `Schema.self` stands for the whole record;
`Schema.unfold` puts the record in its place. Types that contain each other have no schema, nor have
those that are read in a way of their own.
-/

namespace LinkedSheets

open Decimal (BinaryFormat IntegerRange Binary)

inductive Datum where
  /-- Nothing where something is optional. -/
  | null
  | boolean (b : Bool)
  | integer (n : Int)
  | real (f : BinaryFormat) (x : Binary)
  | text (s : String)
  | list (items : List Datum)
  | table (fields : List (String × Datum))
  | json (j : Json)
  /-- Something that was not looked at. -/
  | ignored
  deriving Repr, Inhabited

/-- The value of a field. -/
def Datum.field? (name : String) : Datum → Option Datum
  | table fields => fields.lookup name
  | _ => none

def Datum.asText : Datum → String
  | text s => s
  | _ => ""

/-- Schemas of single cells. -/
inductive Leaf where
  | boolean
  | integer (range : IntegerRange)
  /-- A whole number that is never read out of a text. -/
  | wideInteger (range : IntegerRange)
  | real (format : BinaryFormat)
  | character
  | text
  | path
  /-- The empty text, or nothing. -/
  | unit
  /-- A named type without content. -/
  | unitStruct (name : String)
  /-- A text that fulfils a condition; any other one is refused in the given words. -/
  | textSuch (valid : String → Bool) (refusal : String)
  /-- One of these names. -/
  | variant (names : List String)

/-- A field, with its value where it is left out. It has one name, and its content is read as that
type always is: there are no other names for it and no ways of reading that are its own. -/
structure Field (σ : Type) where
  name : String
  content : σ
  default? : Option Datum

/-- What a variant of a choice among names holds besides its name. The long label of a tuple is for
another number of items. -/
inductive VariantForm (σ : Type) where
  | unit
  | newtype (content : σ)
  | tuple (lengthLabel : String) (items : List σ)
  | struct (label : String) (strict : Bool) (fields : List (Field σ))

inductive Schema where
  | leaf (kind : Leaf)
  /-- Bytes without a zero: of a text, or given as numbers. -/
  | bytes
  /-- Any value, kept as it is. -/
  | any
  /-- Any value, not looked at. -/
  | ignored
  /-- Any object, of which nothing is kept. -/
  | blank
  | option (content : Schema)
  | list (item : Schema)
  /-- An object used as a table; the last of repeated keys counts. -/
  | mapping (value : Schema)
  /-- A fixed number of items. The label is for an array, the long label for another length. -/
  | tuple (label lengthLabel : String) (items : List Schema)
  /-- Another type by a name of its own. -/
  | newtype (content : Schema)
  /-- An object by the names of its fields, or an array by their order. A strict record refuses
  fields that it does not have. -/
  | record (label : String) (strict : Bool) (fields : List (Field Schema))
  /-- A record that collects all other fields for `rest`, which adds its fields to the record's. -/
  | collecting (label : String) (fields : List (Field Schema)) (rest : Schema)
  /-- The name of a variant, or an object that has what the variant holds under its name. -/
  | choice (name : String) (variants : List (String × VariantForm Schema))
  /-- An object that names its variant under a tag, beside the fields of that variant. -/
  | tagged (name tag : String) (variants : List (String × Schema))
  /-- The first alternative that fits. -/
  | alternatives (name : String) (variants : List Schema)
  /-- The record around. -/
  | self

namespace Schema

mutual

/-- Puts the record in the places where it stands for itself. Inner records have their own. -/
def unfold (whole : Schema) : Schema → Schema
  | option content => option (unfold whole content)
  | list item => list (unfold whole item)
  | mapping value => mapping (unfold whole value)
  | tuple label lengthLabel items => tuple label lengthLabel (unfoldAll whole items)
  | newtype content => newtype (unfold whole content)
  | self => whole
  | other => other

def unfoldAll (whole : Schema) : List Schema → List Schema
  | [] => []
  | s :: rest => unfold whole s :: unfoldAll whole rest

end

def isOption : Schema → Bool
  | option _ => true
  | _ => false

end Schema

/-- The value of a field that is left out, if it may be: its default, or nothing if it is an
option. -/
def Field.fallback? (field : Field Schema) : Option Datum :=
  match field.default? with
  | some d => some d
  | none => if field.content.isOption then some .null else none

end LinkedSheets
