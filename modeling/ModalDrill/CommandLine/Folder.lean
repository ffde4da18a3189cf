import ModalDrill.CommandLine.Path
import ModalDrill.Store.Database

namespace ModalDrill

/-!
# Folders with databases

A run works in a folder and keeps its database in a file.  What matters of a
file system is which folders there are and which files hold a database; the
folders on the way to a database are made when they are missing.  Names and
paths have a largest length in bytes, and no name holds the character NUL.
-/

/-- What a place holds.  An empty file is a database with nothing in it; a
foreign file has something else in it, and a device keeps nothing. -/
inductive Node
  | folder
  | database (content : Database)
  | foreign
  | device
deriving DecidableEq

/-- The largest length of a name in bytes. -/
def nameBound : Nat := 255

/-- The largest length of the text of a path in bytes. -/
def pathBound : Nat := 4095

/-- The largest length of the place of a database in bytes. -/
def placeBound : Nat := 504

/-- The largest length in bytes of the places on the way to a database. -/
def wayBound : Nat := 511

/-- The working folder, and the folders and files that were made, in the order
of their making. -/
structure Folder where
  working : Place
  nodes : List (Place × Node)
deriving DecidableEq

namespace Folder

/-- The folder of the devices. -/
def deviceFolder : Place :=
  ⟨["dev"]⟩

/-- The devices that are everywhere. -/
def devices : List String :=
  ["null", "zero", "full", "random", "urandom", "tty"]

/-- A working folder with nothing in it. -/
def empty (working : Place) : Folder where
  working := working
  nodes := (deviceFolder, .folder) :: devices.map fun name => (deviceFolder.child name, .device)

/-- What is at a place.  The working folder and the folders around it are there. -/
def node? (folder : Folder) (place : Place) : Option Node :=
  if place.names.isPrefixOf folder.working.names then some .folder
  else (folder.nodes.find? fun entry => entry.1 == place).map Prod.snd

/-- Put a node at a place, where there may be one already. -/
def put (folder : Folder) (place : Place) (node : Node) : Folder :=
  { folder with
    nodes :=
      if folder.nodes.any fun entry => entry.1 == place then
        folder.nodes.map fun entry => if entry.1 = place then (place, node) else entry
      else folder.nodes ++ [(place, node)] }

/-- Take away what is at a place. -/
def remove (folder : Folder) (place : Place) : Folder :=
  { folder with nodes := folder.nodes.filter fun entry => entry.1 != place }

/-- Is there a folder at a place? -/
def holdsFolder (folder : Folder) (place : Place) : Bool :=
  folder.node? place == some .folder

/-- Is there more at a place than an empty file? -/
def holdsMore (folder : Folder) (place : Place) : Bool :=
  match folder.node? place with
  | none => false
  | some node => node != .database Database.blank

/-- The place where a path starts. -/
def start (folder : Folder) (path : Path) : Place :=
  if path.absolute then Place.root else folder.working

/-! ## Making folders -/

/-- Follow names from a place on.  Every place that is left must be a folder. -/
def follow (folder : Folder) (place : Place) : List String -> Except PathError Place
  | [] => .ok place
  | name :: rest =>
      match folder.node? place with
      | none => .error .missing
      | some .folder =>
          if name = ".." then folder.follow place.parent rest
          else if nameBound < name.utf8ByteSize then .error .nameTooLong
          else folder.follow (place.child name) rest
      | some _ => .error .notAFolder

/-- The place of a path, found folder by folder. -/
def locate (folder : Folder) (path : Path) : Except PathError Place :=
  if path.hasNul then .error .nul
  else if pathBound < path.text.utf8ByteSize then .error .nameTooLong
  else folder.follow (folder.start path) path.names

/-- Make one folder, if its parent is there.  It may be there itself. -/
def makeOne (folder : Folder) (path : Path) : Folder × Except PathError Unit :=
  match folder.locate path with
  | .error cause => (folder, .error cause)
  | .ok place =>
      match folder.node? place with
      | none => (folder.put place .folder, .ok ())
      | some .folder => (folder, .ok ())
      | some _ => (folder, .error .fileExists)

/-- Make a folder together with the missing ones around it.  The names come
last one first.  What was made stays, even if the folder itself cannot be. -/
def makeAll (folder : Folder) (absolute : Bool) : List String -> Folder × Except PathError Unit
  | [] => folder.makeOne ⟨absolute, []⟩
  | name :: around =>
      let path : Path := ⟨absolute, (name :: around).reverse⟩
      match folder.makeOne path with
      | (_, .error .missing) =>
          match folder.makeAll absolute around with
          | (folder, .error cause) => (folder, .error cause)
          | (folder, .ok _) => folder.makeOne path
      | outcome => outcome

/-- Make the folders around a path. -/
def makeAround (folder : Folder) (path : Path) : Folder × Except PathError Unit :=
  folder.makeAll path.absolute path.parent.names.reverse

/-! ## The places of databases -/

/-- The place of a database.  Double dots cancel the names before them, whether
there is such a folder or not; only a name behind a file is refused, and so is
a place that is too long. -/
def resolve (folder : Folder) (place : Place) : List String -> Except PathError Place
  | [] => if placeBound < place.length then .error .cannotOpen else .ok place
  | name :: rest =>
      let next := if name = ".." then place.parent else place.child name
      if name = ".." then folder.resolve next rest
      else if wayBound < next.length then .error .cannotOpen
      else
        match folder.node? place with
        | some .folder =>
            if nameBound < name.utf8ByteSize then .error .cannotOpen
            else folder.resolve next rest
        | none => folder.resolve next rest
        | some _ => .error .cannotOpen

/-! ## Listing files -/

/-- The path of a file from the working folder, if the file is below it. -/
def relativePath? (folder : Folder) (entry : Place × Node) : Option String :=
  let (place, node) := entry
  if node != .folder && folder.working.names.isPrefixOf place.names then
    some (String.intercalate "/" (place.names.drop folder.working.names.length))
  else none

/-- The files below the working folder, in the order of their paths. -/
def files (folder : Folder) : List String :=
  (folder.nodes.filterMap folder.relativePath?).mergeSort fun first second =>
    decide (first ≤ second)

end Folder
end ModalDrill
