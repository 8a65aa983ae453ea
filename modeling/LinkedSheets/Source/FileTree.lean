import LinkedSheets.Source.Files
import LinkedSheets.Source.Path

/-!
# File trees

A tree of files, seen from its root, where the program stands. `FileTree.openPath` walks a path one
component at a time: two dots go up, and every component needs a directory to stand on. Of the files
outside only what every system has is known: the directories at the root of all files, and the empty
device. The tree itself stands in the directory for passing files.
-/

namespace LinkedSheets

open SourcePath (components isStay)

/-- Entries by the components of their paths. -/
structure FileTree where
  entries : List (List String × FileEntry)
  deriving DecidableEq, Repr

/-- A place on the way: in the tree, with the components that lead there, or outside, with the
components from the root of all files. -/
inductive FilePlace where
  | below (path : List String)
  | rooted (path : List String)
  deriving DecidableEq, Repr

namespace FilePlace

def up : FilePlace → FilePlace
  | below [] => rooted ["tmp"]
  | below path => below path.dropLast
  | rooted path => rooted path.dropLast

def down (component : String) : FilePlace → FilePlace
  | below path => below (path ++ [component])
  | rooted path => rooted (path ++ [component])

end FilePlace

namespace FileTree

/-- A tree by the names of its entries. Of two entries with one name the later one counts, as if
they were written in that order. -/
def ofNamed (entries : List (String × FileEntry)) : FileTree :=
  ⟨entries.reverse.map fun (name, entry) => ((components name).filter (!isStay ·), entry)⟩

/-- What is at a place in the tree; places that lead to entries are directories. -/
def entryAt? (tree : FileTree) (path : List String) : Option FileEntry :=
  if path = [] then some .directory
  else match tree.entries.lookup path with
    | some entry => some entry
    | none =>
      if tree.entries.any fun (longer, _) => path.isPrefixOf longer then some .directory else none

/-- The directories at the root of all files. -/
def systemDirectories : List String :=
  ["bin", "boot", "dev", "etc", "home", "lib", "media", "mnt", "opt", "proc", "root", "run", "sbin",
   "srv", "sys", "tmp", "usr", "var"]

/-- What every system has, by the components from the root of all files. -/
def systemEntry? : List String → Option FileEntry
  | [] => some .directory
  | [name] => if systemDirectories.contains name then some .directory else none
  | ["dev", "null"] => some (.bytes [])
  | _ => none

def entryOf? (tree : FileTree) : FilePlace → Option FileEntry
  | .below path => tree.entryAt? path
  | .rooted path => systemEntry? path

/-- How many bytes a name and a path may have. -/
def nameLimit : Nat := 255

def pathLimit : Nat := 4095

/-- The place of a name in a directory. -/
def enter (tree : FileTree) (place : FilePlace) (component : String) :
    Except FileFault FilePlace :=
  if nameLimit < component.utf8ByteSize then .error .nameTooLong
  else if (tree.entryOf? (place.down component)).isSome then .ok (place.down component)
  else .error .notFound

/-- One component further. -/
def walk (tree : FileTree) (place : FilePlace) (component : String) : Except FileFault FilePlace :=
  match tree.entryOf? place with
  | some .directory =>
    if isStay component then .ok place
    else if component = ".." then .ok place.up
    else tree.enter place component
  | some _ => .error .notDirectory
  | none => .error .notFound

/-- Where a path begins. -/
def origin (path : String) : FilePlace :=
  if path.toList.head? = some '/' then .rooted [] else .below []

/-- What a path leads to. Nothing is at the empty path. -/
def openPath (tree : FileTree) : Files := fun path =>
  if path = "" then .error .notFound
  else if path.toList.contains '\x00' then .error .invalidPath
  else if pathLimit < path.utf8ByteSize then .error .nameTooLong
  else do
    let place ← (components path).foldlM tree.walk (origin path)
    match tree.entryOf? place with
    | some entry => .ok entry
    | none => .error .notFound

end FileTree

end LinkedSheets
