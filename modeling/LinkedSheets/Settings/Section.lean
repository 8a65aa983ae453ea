import LinkedSheets.Settings.Layer

/-!
# Sections of the configuration

A section is decoded by a schema like any document, its keys in the order of their code points, and
then taken apart by the names of its fields. The accessors are total: a schema that has the field
makes sure that there is something to find.
-/

namespace LinkedSheets

/-- What a schema makes of a section in a document of its own. -/
def Json.decodeSection (schema : Schema) (j : Json) : Except DecodeFailure Datum :=
  j.canonical.decode .document schema

/-- What a schema makes of a section in layers. -/
def Setting.decodeSection (schema : Schema) (s : Setting) : Except DecodeFailure Datum :=
  s.decode .layers schema

namespace Datum

def field (name : String) (d : Datum) : Datum :=
  (d.field? name).getD null

def asBoolean : Datum → Bool
  | boolean b => b
  | _ => false

def asNatural : Datum → Nat
  | integer n => n.toNat
  | _ => 0

def asItems : Datum → List Datum
  | list items => items
  | _ => []

def asFields : Datum → List (String × Datum)
  | table fields => fields
  | _ => []

/-- The entries of a table of texts. -/
def asTexts (d : Datum) : List (String × String) :=
  d.asFields.map fun (name, value) => (name, value.asText)

end Datum

end LinkedSheets
