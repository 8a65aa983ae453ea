import LinkedSheets.Schema.Decode

/-!
# Layers of settings

Settings come in layers, each laid over the one below it by `Setting.overlay`: tables entry by
entry, while anything else hides what was there. Tables are kept in the order of their names, each
name there once.
-/

namespace LinkedSheets

inductive Setting where
  | scalar (s : Scalar)
  | array (items : List Setting)
  | table (entries : List (String × Setting))
  deriving Repr, Inhabited

namespace Setting

mutual

/-- Settings written as JSON. -/
def ofJson : Json → Setting
  | .null => scalar .null
  | .boolean b => scalar (.boolean b)
  | .number n => scalar (.number n)
  | .text s => scalar (.text s)
  | .array items => array (ofItems items)
  | .object members => table (Table.ofList (ofMembers members))

def ofItems : List Json → List Setting
  | [] => []
  | j :: items => ofJson j :: ofItems items

def ofMembers : List (String × Json) → List (String × Setting)
  | [] => []
  | (name, j) :: members => (name, ofJson j) :: ofMembers members

end

mutual

def toJson : Setting → Json
  | scalar s => s.toJson
  | array items => .array (itemsToJson items)
  | table entries => .object (entriesToJson entries)

def itemsToJson : List Setting → List Json
  | [] => []
  | item :: items => toJson item :: itemsToJson items

def entriesToJson : List (String × Setting) → List (String × Json)
  | [] => []
  | (name, s) :: entries => (name, toJson s) :: entriesToJson entries

end

/-- The setting of that name in a table. -/
def entry? (name : String) : Setting → Option Setting
  | table entries => entries.lookup name
  | _ => none

mutual

/-- A setting laid over another one. -/
def overlay (below : Setting) : Setting → Setting
  | table entries =>
    match below with
    | table old => table (overlayEntries old entries)
    | _ => table entries
  | s => s

def overlayEntries (below : List (String × Setting)) :
    List (String × Setting) → List (String × Setting)
  | [] => below
  | (name, s) :: entries =>
    let s := match below.lookup name with
      | some old => overlay old s
      | none => s
    overlayEntries (Table.insert name s below) entries

end

/-- A setting under a path of names. -/
def nest (path : List String) (s : Setting) : Setting :=
  path.foldr (fun name s => table [(name, s)]) s

mutual

/-- What a schema makes of a setting. -/
def decode (reading : Reading) (schema : Schema) : Setting → Except DecodeFailure Datum
  | scalar s => schema.decodeAt reading (.scalar s)
  | array items => schema.decodeAt reading (.array (itemParts items))
  | table entries => schema.decodeAt reading (.object (entryParts entries))

def itemParts : List Setting → List Part
  | [] => []
  | s :: items =>
    ⟨s.toJson, fun reading schema => decode reading schema s⟩ :: itemParts items

def entryParts : List (String × Setting) → List (String × Part)
  | [] => []
  | (name, s) :: entries =>
    (name, ⟨s.toJson, fun reading schema => decode reading schema s⟩) :: entryParts entries

end

end Setting

end LinkedSheets
