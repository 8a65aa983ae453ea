import LinkedSheets.Schema.Decode
import LinkedSheets.Text.Split

/-!
# A catalog of schemas

Schemas by name: the scalars, and a number of record types for rows of common kinds, such as a
customer with an address and phones, a linked list, or a tree. `Catalog.named?` also understands a
wrapper around a name, as in `vec<i8>`.
-/

namespace LinkedSheets.Catalog

open Decimal (binary32 binary64)

def integer (signed : Bool) (bits : Nat) : Schema :=
  .leaf (.integer ⟨signed, bits⟩)

def wideInteger (signed : Bool) : Schema :=
  .leaf (.wideInteger ⟨signed, 128⟩)

def text : Schema := .leaf .text

def u8 : Schema := integer false 8

def u32 : Schema := integer false 32

def real : Schema := .leaf (.real binary64)

/-- A field that has to be there, unless it is an option. -/
def field (name : String) (content : Schema) : Field Schema :=
  ⟨name, content, none⟩

def record (name : String) (fields : List (Field Schema)) : Schema :=
  .record ("struct " ++ name) false fields

def pair (item : Schema) : Schema :=
  .tuple "a tuple of size 2" "a tuple of size 2" [item, item]

def tupleStruct : Schema :=
  .tuple "tuple struct TupleStruct" "tuple struct TupleStruct with 2 elements" [u8, text]

def point : Schema :=
  record "Point" [field "x" real, field "y" real]

def zip : Schema :=
  record "Zip" [field "zip" u32]

def phone : Schema :=
  record "Phone" [field "number" text]

/-- A linked list. -/
def node : Schema :=
  record "Node" [field "id" text, field "next" (.option .self)]

def tree : Schema :=
  record "Tree" [field "id" (integer true 64), field "kids" (.option (.list .self))]

def strict : Schema :=
  .record "struct Strict" true [field "a" u8, field "b" (.option text)]

def lenient : Schema :=
  record "Lenient"
    [⟨"a", integer true 32, some (.integer 0)⟩, ⟨"b", .list text, some (.list [])⟩,
     field "c" (.option (.leaf .boolean)), field "d" (.option point)]

def tier : Schema :=
  .choice "Tier" [("gold", .unit), ("silver", .unit)]

def variants : Schema :=
  .choice "Variants"
    [("Unit", .unit), ("New", .newtype u8),
     ("Tuple", .tuple "tuple variant Variants::Tuple with 2 elements" [u8, u8]),
     ("Struct", .struct "struct variant Variants::Struct" false [field "a" u8])]

def customer : Schema :=
  record "Customer"
    [field "name" text, field "age" u8, field "score" real, field "vip" (.leaf .boolean),
     field "nickname" (.option text), field "tier" tier, field "phones" (.list phone)]

def samplePhone : Schema :=
  record "SamplePhone" [field "id" text, field "kind" text, field "number" text]

def sampleAddress : Schema :=
  record "SampleAddress" [field "zipCode" text, field "country" text, field "city" text]

def sampleCustomer : Schema :=
  record "SampleCustomer"
    [field "id" (integer false 64), field "name" text, field "age" u32,
     field "address" sampleAddress, field "phones" (.list samplePhone)]

def flat : Schema :=
  .collecting "struct Flat" [field "id" u32] (.mapping text)

def flatTyped : Schema :=
  .collecting "struct FlatTyped" [field "name" text] zip

def untagged : Schema :=
  .alternatives "Untagged"
    [integer true 64, text, .list text, zip,
     .record "struct variant Untagged::Point" false [field "x" text, field "y" text]]

def tagged : Schema :=
  .tagged "Tagged" "kind"
    [("named", .record "struct variant Tagged::Named" false [field "name" text]),
     ("sized", .record "struct variant Tagged::Sized" false [field "size" u8]),
     ("empty", .blank)]

def schemas : List (String × Schema) :=
  [("i8", integer true 8), ("i16", integer true 16), ("i32", integer true 32),
   ("i64", integer true 64), ("u8", u8), ("u16", integer false 16), ("u32", u32),
   ("u64", integer false 64), ("i128", wideInteger true), ("u128", wideInteger false),
   ("bool", .leaf .boolean), ("f32", .leaf (.real binary32)), ("f64", real),
   ("char", .leaf .character), ("string", text), ("unit", .leaf .unit),
   ("UnitStruct", .leaf (.unitStruct "UnitStruct")), ("any", .any), ("ignored", .ignored),
   ("bytes", .bytes), ("TupleStruct", tupleStruct), ("Point", point), ("Zip", zip),
   ("Phone", phone), ("Node", node), ("Tree", tree), ("Strict", strict), ("Lenient", lenient),
   ("Tier", tier), ("Variants", variants), ("Customer", customer),
   ("SamplePhone", samplePhone), ("SampleAddress", sampleAddress),
   ("SampleCustomer", sampleCustomer), ("Flat", flat), ("FlatTyped", flatTyped),
   ("Untagged", untagged), ("Tagged", tagged)]

def wrap? (content : Schema) : String → Option Schema
  | "option" => some (.option content)
  | "vec" => some (.list content)
  | "map" => some (.mapping content)
  | "pair" => some (pair content)
  | "newtype" => some (.newtype content)
  | _ => none

/-- The schema of a name, or of a name with wrappers around it in angle brackets. -/
def named? (type : String) : Option Schema := do
  match (Text.split '<' type.toList).reverse with
  | [] => none
  | base :: wrappers =>
    let content ← schemas.lookup (String.ofList (base.filter (· ≠ '>')))
    wrappers.foldlM (fun content wrapper => wrap? content (String.ofList wrapper)) content

end LinkedSheets.Catalog
