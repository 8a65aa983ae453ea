import LinkedSheets.Text.Split

/-!
# Paths

A path is divided into components by slashes. Empty components and single dots stay where they are.
`fileStem?` is the name that a file gives to a sheet.
-/

namespace LinkedSheets.SourcePath

def components (path : String) : List String :=
  (Text.split '/' path.toList).map String.ofList

/-- Whether a component leads nowhere. -/
def isStay (component : String) : Bool :=
  component = "" || component = "."

/-- The last component of a path that is a name. Two dots at the end are not one. -/
def fileName? (path : String) : Option String :=
  match (components path).reverse.find? (!isStay ·) with
  | some ".." | none => none
  | some name => some name

/-- A file name up to its last dot, and what is behind it. A dot at the beginning divides
nothing. -/
def splitName (name : String) : String × Option String :=
  let cs := name.toList
  let behind := (cs.reverse.takeWhile (· ≠ '.')).reverse
  let before := cs.take (cs.length - behind.length - 1)
  if before.isEmpty then (name, none) else (String.ofList before, some (String.ofList behind))

/-- The name of a file without its extension. -/
def fileStem? (path : String) : Option String :=
  (fileName? path).map fun name => (splitName name).1

def fileExtension? (path : String) : Option String :=
  (fileName? path).bind fun name => (splitName name).2

end LinkedSheets.SourcePath
