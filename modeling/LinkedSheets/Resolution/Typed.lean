import LinkedSheets.Resolution.Materialize
import LinkedSheets.Schema.Decode

/-!
# Typed rows

`Resolver.parseBy` resolves a sheet and decodes every row of it, whatever it is that decodes a row,
and `Resolver.parse` does so by a schema. Nothing is decoded before the whole sheet is resolved, and
the first row that does not decode is reported by its number.
-/

namespace LinkedSheets

inductive ParseFailure where
  | unresolved (failure : ResolutionFailure)
  | undecodable (row : Nat) (failure : DecodeFailure)
  deriving DecidableEq, Repr

namespace ParseFailure

def message : ParseFailure → String
  | unresolved failure => failure.message
  | undecodable row failure =>
    "could not deserialize resolved row " ++ row.repr ++ ": " ++ failure.message

end ParseFailure

/-- What a schema makes of a resolved value. -/
def Value.decode (schema : Schema) (v : Value) : Except DecodeFailure Datum :=
  v.toJson.decode .cells schema

/-- The values one after the other, counted from `row`. -/
def decodeRows {α : Type} (decode : Value → Except DecodeFailure α) :
    (row : Nat) → List Value → Except ParseFailure (List α)
  | _, [] => .ok []
  | row, v :: values =>
    match decode v with
    | .error failure => .error (.undecodable row failure)
    | .ok d => (decodeRows decode (row + 1) values).map (d :: ·)

namespace Resolver

def parseBy {α : Type} (r : Resolver) (w : Workbook) (decode : Value → Except DecodeFailure α)
    (name : String) : Traced ParseFailure (List α) := do
  let values ← (r.sheet w name).mapError .unresolved
  .ofExcept (decodeRows decode 0 values)

def parse (r : Resolver) (w : Workbook) (schema : Schema) (name : String) :
    Traced ParseFailure (List Datum) :=
  r.parseBy w (Value.decode schema) name

end Resolver

end LinkedSheets
