import LinkedSheets.Schema.Leaf

/-!
# Decoding values

`Json.decode` reads a value by a schema. It is a fold over the value: each item of an array and each
member of an object is handed on as a `Part`, which knows its value and how it decodes. `decodeAt`
then recurses on the schema alone.

A record goes through the members of an object in their order, so the first bad member is the one
that is reported, and then through its own fields for those that are missing. It can also be read
from an array by position. A record may collect the members that it has no field for, and read them
by a schema as if they were an object of their own; `decodeCollected` says what comes of that.
-/

namespace LinkedSheets

/-- A part of a value, with the way it decodes. -/
structure Part where
  value : Json
  decode : Reading → Schema → Except DecodeFailure Datum

/-- Decodes by a schema. -/
def Part.decoder (reading : Reading) (schema : Schema) (part : Part) : Except DecodeFailure Datum :=
  part.decode reading schema

/-- A value of which only the outermost layer is open. -/
inductive Node where
  | scalar (s : Scalar)
  | array (items : List Part)
  | object (members : List (String × Part))

namespace Node

def toJson : Node → Json
  | scalar s => s.toJson
  | array items => .array (items.map (·.value))
  | object members => .object (members.map fun (name, part) => (name, part.value))

def found : Node → Found
  | scalar s => .ofScalar s
  | array _ => .sequence
  | object _ => .map

/-- Whether a value stands for nothing where something is optional. -/
def isNothing (reading : Reading) : Node → Bool
  | scalar .null => true
  | scalar (.text s) => reading = .cells && s = ""
  | _ => false

end Node

namespace Schema

def lengthNoun (count : Nat) (one many : String) : String :=
  count.repr ++ if count = 1 then one else many

/-- Items are left over when all that were wanted have been read. Settings do not mind. -/
def checkLeftover (reading : Reading) (wanted total : Nat) : Except DecodeFailure Unit :=
  match reading with
  | .layers => .ok ()
  | .document => .error (.invalidLength total "fewer elements in array")
  | _ =>
    .error (.invalidLength total (lengthNoun wanted " element in sequence" " elements in sequence"))

/-- Items one after the other, whatever it is that decodes them. -/
def decodeItems {α β : Type} (decode : α → Except DecodeFailure β) :
    List α → Except DecodeFailure (List β)
  | [] => .ok []
  | item :: items => do
    let d ← decode item
    let ds ← decodeItems decode items
    .ok (d :: ds)

/-- Items by position, `count` of which are read, each by the decoder at its position. -/
def decodeTuple {α β : Type} (reading : Reading) (lengthLabel : String) :
    (count : Nat) → List (α → Except DecodeFailure β) → List α → Except DecodeFailure (List β)
  | _, [], [] => .ok []
  | count, [], rest => (checkLeftover reading count (count + rest.length)).map fun () => []
  | count, _ :: _, [] => .error (.invalidLength count lengthLabel)
  | count, decode :: decoders, item :: items => do
    let d ← decode item
    let ds ← decodeTuple reading lengthLabel (count + 1) decoders items
    .ok (d :: ds)

/-- The members decoded into a table. -/
def decodeTable (reading : Reading) (value : Schema) :
    List (String × Part) → Except DecodeFailure (List (String × Datum))
  | [] => .ok []
  | (name, part) :: members => do
    let d ← part.decode reading value
    let rest ← decodeTable reading value members
    .ok (if (rest.lookup name).isSome then rest else (name, d) :: rest)

def isZero : Datum → Bool
  | .integer 0 => true
  | _ => false

/-- Bytes that are not zero. -/
def checkBytes (bytes : List Datum) : Except DecodeFailure Datum :=
  match bytes.findIdx? isZero with
  | some position => .error (.zeroByte position)
  | none => .ok (.list bytes)

def decodeBytes (reading : Reading) : Node → Except DecodeFailure Datum
  | .scalar (.text s) => checkBytes (s.toUTF8.toList.map fun b => .integer b.toNat)
  | .array items => do
    checkBytes (← decodeItems (Part.decoder reading (.leaf (.integer ⟨false, 8⟩))) items)
  | node => .error (.invalidType node.found "byte array")

/-- What a record finds in an object: the fields that are its own, and all other members. -/
structure Members where
  own : List (String × Datum)
  other : List (String × Part)

def fieldNames (fields : List (Field Schema)) : List String :=
  fields.map (·.name)

/-- Goes through the members of an object in their order, given the names that were there before.
`whole` is what the fields may refer to as the record around them. -/
def readMembers (reading : Reading) (whole : Schema) (strict : Bool)
    (fields : List (Field Schema)) :
    (seen : List String) → List (String × Part) → Except DecodeFailure Members
  | _, [] => .ok ⟨[], []⟩
  | seen, (name, part) :: members =>
    match fields.find? (·.name == name) with
    | some field =>
      if seen.contains name then .error (.duplicateField name)
      else do
        let d ← part.decode reading (unfold whole field.content)
        let rest ← readMembers reading whole strict fields (name :: seen) members
        .ok { rest with own := (name, d) :: rest.own }
    | none =>
      if strict then .error (.unknownField name (fieldNames fields))
      else do
        let rest ← readMembers reading whole strict fields seen members
        .ok { rest with other := (name, part) :: rest.other }

/-- The fields in the order of the record; one that was not there needs a fallback. -/
def completeFields (own : List (String × Datum)) :
    List (Field Schema) → Except DecodeFailure (List (String × Datum))
  | [] => .ok []
  | field :: fields =>
    match (own.lookup field.name).or field.fallback? with
    | some d => (completeFields own fields).map ((field.name, d) :: ·)
    | none => .error (.missingField field.name)

/-- The fields of a record from the items of an array. Behind its end only a default helps. -/
def decodePositions (reading : Reading) (whole : Schema) (lengthLabel : String) :
    (count : Nat) → List (Field Schema) → List Part →
      Except DecodeFailure (List (String × Datum))
  | _, [], [] => .ok []
  | count, [], rest => (checkLeftover reading count (count + rest.length)).map fun () => []
  | count, field :: fields, [] =>
    match field.default? with
    | some d => (decodePositions reading whole lengthLabel (count + 1) fields []).map
        ((field.name, d) :: ·)
    | none => .error (.invalidLength count lengthLabel)
  | count, field :: fields, part :: parts => do
    let d ← part.decode reading (unfold whole field.content)
    let ds ← decodePositions reading whole lengthLabel (count + 1) fields parts
    .ok ((field.name, d) :: ds)

def recordLengthLabel (label : String) (fields : List (Field Schema)) : String :=
  label ++ " with " ++ lengthNoun fields.length " element" " elements"

def decodeRecord (reading : Reading) (whole : Schema) (label : String) (strict : Bool)
    (fields : List (Field Schema)) : Node → Except DecodeFailure Datum
  | .object members => do
    let found ← readMembers reading whole strict fields [] members
    (completeFields found.own fields).map .table
  | .array items =>
    (decodePositions reading whole (recordLengthLabel label fields) 0 fields items).map .table
  | node => .error (.invalidType node.found label)

/-- The name of a variant, out of those there are. -/
def variantName (names : List String) (s : String) : Except DecodeFailure String :=
  if names.contains s then .ok s else .error (.unknownVariant s names)

/-- The name that a tag gives. -/
def readTag (reading : Reading) (names : List String) (part : Part) :
    Except DecodeFailure String :=
  (part.decode reading (.leaf (.variant names))).map Datum.asText

/-- Takes the tag out of the members of an object, given whether it was seen before. -/
def takeTag (reading : Reading) (tag : String) (names : List String) :
    (seen : Bool) → List (String × Part) →
      Except DecodeFailure (Option String × List (String × Part))
  | _, [] => .ok (none, [])
  | seen, (name, part) :: members =>
    if name = tag then
      if seen then .error (.duplicateField tag)
      else do
        let variant ← readTag reading names part
        let (_, others) ← takeTag reading tag names true members
        .ok (some variant, others)
    else do
      let (variant, others) ← takeTag reading tag names seen members
      .ok (variant, (name, part) :: others)

/-- The variant that a tagged value names, and the value without the tag: a member of an object, or
the first item of an array. -/
def splitTag (reading : Reading) (name tag : String) (names : List String) :
    Node → Except DecodeFailure (String × Node)
  | .object members => do
    match ← takeTag reading tag names false members with
    | (some variant, others) => .ok (variant, .object others)
    | (none, _) => .error (.missingField tag)
  | .array [] => .error (.missingField tag)
  | .array (part :: parts) => do
    let variant ← readTag reading names part
    .ok (variant, .array parts)
  | node => .error (.invalidType node.found ("internally tagged enum " ++ name))

def formNoun : VariantForm Schema → String
  | .unit => "unit variant"
  | .newtype _ => "newtype variant"
  | .tuple .. => "tuple variant"
  | .struct .. => "struct variant"

/-- A variant that is only named can hold nothing. -/
def checkForm (name : String) : Option (VariantForm Schema) → Except DecodeFailure Datum
  | some .unit | none => .ok (.text name)
  | some form => .error (.invalidType .unitVariant (formNoun form))

/-- What the variant of a name holds. -/
def decodeForm (reading : Reading) (name : String) (part : Part) :
    VariantForm Schema → Except DecodeFailure Datum
  | .unit => (part.decode reading (.leaf .unit)).map fun _ => .text name
  | .newtype content => (part.decode reading content).map fun d => .table [(name, d)]
  | .tuple lengthLabel items =>
    (part.decode reading (.tuple "tuple variant" lengthLabel items)).map fun d =>
      .table [(name, d)]
  | .struct label strict fields =>
    match Found.ofJson part.value with
    | .sequence | .map =>
      (part.decode reading (.record label strict fields)).map fun d => .table [(name, d)]
    | found => .error (.invalidType found "struct variant")

/-- The variant that a key names, with what is under the key. -/
def decodeNamed (reading : Reading) (variants : List (String × VariantForm Schema)) (key : String)
    (part : Part) : Except DecodeFailure Datum :=
  match variants.lookup key with
  | some form => decodeForm reading key part form
  | none => .error (.unknownVariant key (variants.map (·.1)))

/-- A choice among names. In a value that was set aside the name may also be the one key of an
object, with what the variant holds under it. -/
def decodeChoice (reading : Reading) (name : String)
    (variants : List (String × VariantForm Schema)) : Node → Except DecodeFailure Datum
  | .scalar (.text s) => do
    let variant ← variantName (variants.map (·.1)) s
    checkForm variant (variants.lookup variant)
  | node =>
    match reading.isAside, node with
    | true, .object [(key, part)] => decodeNamed reading variants key part
    | true, .object _ => .error (.invalidValue .map "map with a single key")
    | true, _ => .error (.invalidType node.found "string or map")
    | false, _ => .error (.invalidType node.found ("enum " ++ name))

/-- The first member whose key names a variant, with what is under the key. -/
def decodeFirstVariant (name : String) (variants : List (String × VariantForm Schema))
    (members : List (String × Part)) : Except DecodeFailure Datum :=
  match members.find? fun m => (variants.lookup m.1).isSome with
  | some (key, part) => decodeNamed .setAside variants key part
  | none => .error (.refused ("no variant of enum " ++ name ++ " found in flattened data"))

/-- Any object, or an array without items. -/
def decodeBlank (reading : Reading) : Node → Except DecodeFailure Datum
  | .object _ | .array [] => .ok (.table [])
  | .array items => (checkLeftover reading 0 items.length).map fun () => .table []
  | node => .error (.invalidType node.found "unit")

/-- Whether an array or object can stand for a type without content: an object without members can,
and for a named type also an array without items. -/
def isWithout : Leaf → Node → Bool
  | .unit, .object [] | .unitStruct _, .object [] | .unitStruct _, .array [] => true
  | _, _ => false

/-- The fields of two parts of one record together. A variant that holds nothing is a field of its
name without a value. -/
def joinTables : Datum → Datum → Datum
  | .table fields, .table others => .table (fields ++ others)
  | .table fields, .text name => .table (fields ++ [(name, .null)])
  | d, _ => d

/-- A record that hands on the members it has no field for. -/
def decodeCollecting (reading : Reading) (whole : Schema) (fields : List (Field Schema))
    (decodeRest : List (String × Part) → Except DecodeFailure Datum)
    (members : List (String × Part)) : Except DecodeFailure Datum := do
  let found ← readMembers reading whole false fields [] members
  let own ← completeFields found.own fields
  let others ← decodeRest found.other
  .ok (joinTables (.table own) others)

/-- A choice by a tag, with the way to decode the content of a variant. -/
def decodeTagged (reading : Reading) (name tag : String) (names : List String)
    (decodeContent : String → Node → Except DecodeFailure Datum) (node : Node) :
    Except DecodeFailure Datum := do
  let (variant, content) ← splitTag reading name tag names node
  let d ← decodeContent variant content
  .ok (joinTables (.table [(tag, .text variant)]) d)

/-- The alternative that fits. -/
def firstFitting (name : String) : Option Datum → Except DecodeFailure Datum
  | some d => .ok d
  | none => .error (.noAlternative name)

mutual

def decodeAt (reading : Reading) : Schema → Node → Except DecodeFailure Datum
  | leaf kind, .scalar s => kind.ofScalar reading s
  | leaf kind, node =>
    if reading = .setAside ∧ isWithout kind node then .ok .null
    else .error (.invalidType node.found kind.expected)
  | bytes, node => decodeBytes reading node
  | any, node => .ok (.json node.toJson.canonical)
  | ignored, _ => .ok .ignored
  | blank, node => decodeBlank reading node
  | option content, node =>
    if node.isNothing reading then .ok .null else decodeAt reading content node
  | list item, .array items => (decodeItems (Part.decoder reading item) items).map .list
  | list _, node => .error (.invalidType node.found "a sequence")
  | mapping value, .object members => (decodeTable reading value members).map .table
  | mapping _, node => .error (.invalidType node.found "a map")
  | tuple _ lengthLabel items, .array parts =>
    (decodeTuple reading lengthLabel 0 (items.map (Part.decoder reading)) parts).map .list
  | tuple label _ _, node => .error (.invalidType node.found label)
  | newtype content, node => decodeAt reading content node
  | record label strict fields, node =>
    decodeRecord reading (record label strict fields) label strict fields node
  | collecting label fields rest, .object members =>
    decodeCollecting reading (collecting label fields rest) fields (decodeCollected rest) members
  | collecting label _ _, node => .error (.invalidType node.found label)
  | choice name variants, node => decodeChoice reading name variants node
  | tagged name tag variants, node =>
    decodeTagged reading name tag (variants.map (·.1))
      (fun variant content => decodeVariant variant variants content) node
  | alternatives name variants, node => firstFitting name (decodeFirst variants node)
  | self, node => .error (.invalidType node.found "a record")

/-- What a schema makes of the members that a record has no field for. They were set aside, and are
read like an object as far as they can be, a record by its own fields alone. An option that fails is
left out, and of a choice among names the first member counts that names a variant. Types without
content need none of them, and types that are no objects can make nothing of them. -/
def decodeCollected : Schema → List (String × Part) → Except DecodeFailure Datum
  | leaf .unit, _ | leaf (.unitStruct _), _ => .ok .null
  | any, members => .ok (.json (Node.object members).toJson.canonical)
  | ignored, _ => .ok .ignored
  | blank, members => decodeBlank .setAside (.object members)
  | option content, members => .ok ((decodeCollected content members).toOption.getD .null)
  | mapping value, members => (decodeTable .lent value members).map .table
  | newtype content, members => decodeCollected content members
  | record label strict fields, members =>
    decodeRecord .setAside (record label strict fields) label false fields (.object members)
  | collecting label fields rest, members =>
    decodeCollecting .lent (collecting label fields rest) fields (decodeCollected rest) members
  | choice name variants, members => decodeFirstVariant name variants members
  | tagged name tag variants, members =>
    decodeTagged .lent name tag (variants.map (·.1))
      (fun variant content => decodeVariant variant variants content) (.object members)
  | alternatives name variants, members =>
    firstFitting name (decodeFirst variants (.object members))
  | leaf _, _ | bytes, _ | list _, _ | tuple _ _ _, _ | self, _ =>
    .error (.refused "can only flatten structs and maps")

/-- The content of the variant of that name. -/
def decodeVariant (variant : String) : List (String × Schema) → Node → Except DecodeFailure Datum
  | [], node => .error (.invalidType node.found variant)
  | (name, content) :: variants, node =>
    if name = variant then decodeAt .setAside content node
    else decodeVariant variant variants node

/-- The alternatives in turn, so what they read is only lent to each of them. -/
def decodeFirst : List Schema → Node → Option Datum
  | [], _ => none
  | s :: rest, node =>
    match decodeAt .lent s node with
    | .ok d => some d
    | .error _ => decodeFirst rest node

end

end Schema

namespace Json

mutual

/-- The value that a schema makes of a JSON value. -/
def decode (reading : Reading) (schema : Schema) : Json → Except DecodeFailure Datum
  | array items => schema.decodeAt reading (.array (itemParts items))
  | object members => schema.decodeAt reading (.object (memberParts members))
  | null => schema.decodeAt reading (.scalar .null)
  | boolean b => schema.decodeAt reading (.scalar (.boolean b))
  | number n => schema.decodeAt reading (.scalar (.number n))
  | text s => schema.decodeAt reading (.scalar (.text s))

def itemParts : List Json → List Part
  | [] => []
  | j :: items => ⟨j, fun reading schema => decode reading schema j⟩ :: itemParts items

def memberParts : List (String × Json) → List (String × Part)
  | [] => []
  | (name, j) :: members =>
    (name, ⟨j, fun reading schema => decode reading schema j⟩) :: memberParts members

end

end Json

end LinkedSheets
