import LinkedSheets.Spreadsheet.Book

/-!
# Files

What a program finds at the paths it is given: bytes, a directory, or a spreadsheet, which is taken
as decoded. A directory can be opened, but there is nothing to read in it.
-/

namespace LinkedSheets

inductive FileFault where
  | notFound
  | isDirectory
  | notDirectory
  /-- A name, or a whole path, is too long. -/
  | nameTooLong
  /-- A path has a zero character in it. -/
  | invalidPath
  deriving DecidableEq, Repr

def FileFault.message : FileFault → String
  | notFound => "No such file or directory (os error 2)"
  | isDirectory => "Is a directory (os error 21)"
  | notDirectory => "Not a directory (os error 20)"
  | nameTooLong => "File name too long (os error 36)"
  | invalidPath => "file name contained an unexpected NUL byte"

inductive FileEntry where
  | bytes (content : List UInt8)
  | directory
  | book (content : Book)
  deriving DecidableEq, Repr

/-- What each path leads to. -/
abbrev Files := String → Except FileFault FileEntry

namespace FileEntry

/-- How the bytes of a spreadsheet file begin. They are no text, and no JSON begins like that. -/
def archiveMark : List UInt8 := [0x50, 0x4B, 0x03, 0x04, 0x80]

/-- The bytes that can be read. -/
def read : FileEntry → Except FileFault (List UInt8)
  | bytes content => .ok content
  | directory => .error .isDirectory
  | book _ => .ok archiveMark

end FileEntry

end LinkedSheets
