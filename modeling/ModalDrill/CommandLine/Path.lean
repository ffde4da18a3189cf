namespace ModalDrill

/-!
# Paths and places

A path is what people write.  A place is where something is; it is found by
following a path, and it is named by the names on the way from the root.
-/

/-- A path as it is written: names and double dots, from the working folder or
from the root. -/
structure Path where
  absolute : Bool
  names : List String
deriving DecidableEq, Repr

namespace Path

/-- Empty names and single dots do not count. -/
def ofText (text : String) : Path where
  absolute := text.toList.head? == some '/'
  names := (text.toList.splitOn '/').filterMap fun name =>
    if name.isEmpty || name == ['.'] then none else some (String.ofList name)

/-- The shortest text of a path.  A path without names is the working folder,
which a single dot stands for, or the root. -/
def text (path : Path) : String :=
  if path.absolute then "/" ++ String.intercalate "/" path.names
  else if path.names = [] then "."
  else String.intercalate "/" path.names

/-- The path around a path.  The first one is in itself. -/
def parent (path : Path) : Path :=
  { path with names := path.names.dropLast }

def hasNul (path : Path) : Bool :=
  path.names.any fun name => name.toList.contains '\x00'

end Path

/-- A place in the file system: the names on the way from the root, without
double dots. -/
structure Place where
  names : List String
deriving DecidableEq, Repr

namespace Place

def root : Place :=
  ⟨[]⟩

def child (place : Place) (name : String) : Place :=
  ⟨place.names ++ [name]⟩

/-- The folder around a place.  The root is in itself. -/
def parent (place : Place) : Place :=
  ⟨place.names.dropLast⟩

/-- The last name on the way to a place. -/
def name (place : Place) : String :=
  place.names.getLast?.getD ""

/-- The place beside a place whose name goes on with an ending. -/
def beside (place : Place) (ending : String) : Place :=
  place.parent.child (place.name ++ ending)

/-- The length of the text of a place in bytes, with a slash before each name. -/
def length (place : Place) : Nat :=
  place.names.foldl (fun total name => total + 1 + name.utf8ByteSize) 0

end Place

/-- Why a database file cannot be reached. -/
inductive PathError
  | missing
  | fileExists
  | notAFolder
  | nameTooLong
  | nul
  | unknownAccess
  | cannotOpen
  | locked
  | notADatabase
deriving DecidableEq, Repr

def PathError.message : PathError -> String
  | missing => "There is no such folder."
  | fileExists => "A file is in the place of a folder."
  | notAFolder => "A file is on the way."
  | nameTooLong => "A name on the way is too long."
  | nul => "embedded null byte"
  | unknownAccess => "The database is asked for in an unknown way."
  | cannotOpen => "The database file cannot be opened."
  | locked => "The database is locked."
  | notADatabase => "The file is no database."

end ModalDrill
