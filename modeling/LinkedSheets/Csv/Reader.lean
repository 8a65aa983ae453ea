import LinkedSheets.Text.Utf8

/-!
# Separated values

A file of separated values is a list of records, each with at least one field. Fields are divided by
the delimiter and records by line ends; a line feed and a carriage return are line ends alike, and
lines without anything are no records.

A field that begins with a quote is quoted: line ends and delimiters are part of it, and a quote
inside is written twice. What follows the closing quote continues the field as if it had not been
quoted. A quote elsewhere has no meaning. A field may be left open at the end of the file.

The reader is a fold of `CsvReader.step` over the bytes. Fields are texts only when they are
complete, so each must be UTF-8 by itself.
-/

namespace LinkedSheets

/-- Where the reader is. -/
inductive CsvMode where
  | recordStart
  | fieldStart
  | plain
  | quoted
  /-- Behind a quote in a quoted field: the closing one, or the first of two. -/
  | quoteInQuoted
  deriving DecidableEq, Repr

/-- What the reader has: the field it is in, the fields of the record before it, and the records
before that, each newest first. -/
structure CsvReader where
  mode : CsvMode
  field : List UInt8
  record : List (List UInt8)
  records : List (List (List UInt8))
  deriving DecidableEq, Repr

namespace CsvReader

def quote : UInt8 := 0x22

def isLineEnd (b : UInt8) : Bool :=
  b == 0x0A || b == 0x0D

def start : CsvReader := ⟨.recordStart, [], [], []⟩

variable (r : CsvReader)

def keep (b : UInt8) (mode : CsvMode) : CsvReader :=
  { r with mode, field := b :: r.field }

def endField : CsvReader :=
  { r with mode := .fieldStart, field := [], record := r.field.reverse :: r.record }

def endRecord : CsvReader :=
  ⟨.recordStart, [], [], (r.field.reverse :: r.record).reverse :: r.records⟩

/-- A byte outside of quotes. The delimiter may be a line end and is then no longer one. -/
def stepPlain (delimiter b : UInt8) : CsvReader :=
  if b = delimiter then r.endField
  else if isLineEnd b then r.endRecord
  else r.keep b .plain

def stepFieldStart (delimiter b : UInt8) : CsvReader :=
  if b = quote then { r with mode := .quoted } else r.stepPlain delimiter b

def step (delimiter : UInt8) (r : CsvReader) (b : UInt8) : CsvReader :=
  match r.mode with
  | .recordStart => if isLineEnd b then r else r.stepFieldStart delimiter b
  | .fieldStart => r.stepFieldStart delimiter b
  | .plain => r.stepPlain delimiter b
  | .quoted => if b = quote then { r with mode := .quoteInQuoted } else r.keep b .quoted
  | .quoteInQuoted => if b = quote then r.keep b .quoted else r.stepPlain delimiter b

/-- The records when the file is at its end. -/
def finish : List (List (List UInt8)) :=
  (match r.mode with
    | .recordStart => r
    | _ => r.endRecord).records.reverse

end CsvReader

namespace Csv

/-- The bytes of a file without the mark at its beginning that says it is UTF-8. -/
def dropMark : List UInt8 → List UInt8
  | 0xEF :: 0xBB :: 0xBF :: rest => rest
  | bytes => bytes

def records (delimiter : UInt8) (bytes : List UInt8) : List (List (List UInt8)) :=
  ((dropMark bytes).foldl (CsvReader.step delimiter) .start).finish

/-- The records as texts, if all fields are. -/
def read? (delimiter : UInt8) (bytes : List UInt8) : Option (List (List String)) :=
  (records delimiter bytes).mapM (·.mapM Text.ofUtf8?)

end Csv

end LinkedSheets
