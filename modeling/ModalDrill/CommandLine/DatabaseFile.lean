import ModalDrill.CommandLine.Folder
import ModalDrill.CommandLine.Location

namespace ModalDrill

/-!
# Database files

Beside the file of a database there may be its journal, its log, the index of
the log, and its lock, which have the name of the file with an ending.  Whatever
is found under such a name is taken for what the name says: a journal is rolled
back and a log is taken in when the database is read, and no more is left of
them.  Of a file that is neither, and so of another database, nothing is taken
over.
-/

/-- An open database file. -/
structure DatabaseFile where
  place : Place
  content : Database
  writable : Bool
  isLogged : Bool
deriving DecidableEq

namespace Place

def journal (place : Place) : Place :=
  place.beside "-journal"

def log (place : Place) : Place :=
  place.beside "-wal"

def logIndex (place : Place) : Place :=
  place.beside "-shm"

def lock (place : Place) : Place :=
  place.beside ".lock"

end Place

namespace Location

/-- Is the file itself locked? -/
def locksFile (location : Location) : Bool :=
  location.locking == .shared || location.locking == .exclusive

/-- Can a database be reserved for a change? -/
def canReserve (location : Location) : Bool :=
  location.writable || location.isUnlocked || !location.locksFile

/-- Is the folder that locks a database made beside it? -/
def makesLock (location : Location) : Bool :=
  location.locking == .byFolder && !location.isUnlocked

end Location

namespace Folder

/-! ## What is beside a file -/

/-- A folder that locks a database hides its journal. -/
def heedsJournal (folder : Folder) (location : Location) (place : Place) : Bool :=
  location.locking != .byFolder || (location.isUnlocked && (folder.node? place.lock).isNone)

/-- Roll the journal of a database back.  A database with nothing in it has
nothing to roll back, and its journal is thrown away if that can be done. -/
def settleJournal (folder : Folder) (location : Location) (place : Place) (isBlank : Bool) :
    Folder × Except PathError Unit :=
  if !folder.heedsJournal location place || !folder.holdsMore place.journal then (folder, .ok ())
  else if folder.holdsFolder place.journal then
    (folder, if isBlank then .ok () else .error .cannotOpen)
  else if isBlank then
    (if location.canReserve then folder.remove place.journal else folder, .ok ())
  else if location.writable then (folder.remove place.journal, .ok ())
  else (folder, .error .cannotOpen)

/-- Take the log of a database in, and say whether there is one.  It needs an
index, which is kept in memory by a writer who is alone and in a file otherwise;
readers leave both files behind.  A database with nothing in it has no log. -/
def settleLog (folder : Folder) (location : Location) (place : Place) (isBlank : Bool) :
    Folder × Except PathError Bool :=
  if !folder.holdsMore place.log then (folder, .ok false)
  else if folder.holdsFolder place.log then (folder, .error .cannotOpen)
  else if isBlank then (folder.remove place.log, .ok false)
  else if location.isUnlocked || !location.locksFile then (folder, .error .cannotOpen)
  else if location.locking == .exclusive && location.writable then
    (folder.remove place.log, .ok true)
  else if folder.holdsFolder place.logIndex then (folder, .error .cannotOpen)
  else if location.writable then ((folder.remove place.log).remove place.logIndex, .ok true)
  else (folder.put place.logIndex .foreign, .ok true)

/-- See to what is beside a database before it is read, and say whether it has a
log.  Nobody can have left anything beside a fixed database. -/
def settle (folder : Folder) (location : Location) (place : Place) (isBlank : Bool) :
    Folder × Except PathError Bool :=
  if location.isFixed then (folder, .ok false)
  else if location.makesLock && (folder.node? place.lock).isSome then (folder, .error .locked)
  else
    match folder.settleJournal location place isBlank with
    | (folder, .error cause) => (folder, .error cause)
    | (folder, .ok _) => folder.settleLog location place isBlank

/-! ## Opening -/

/-- Can the database at a place be written?  Its journal is kept beside it, and
so there must be room for the journal and for its name. -/
def hasRoom (folder : Folder) (place : Place) : Bool :=
  decide (place.journal.name.utf8ByteSize ≤ nameBound) && !folder.holdsFolder place.journal

/-- Read what is at a place as a database. -/
def read (folder : Folder) (location : Location) (place : Place) :
    Node -> Folder × Except PathError DatabaseFile
  | .folder => (folder, .error .cannotOpen)
  | .device => (folder, .ok ⟨place, Database.blank, false, false⟩)
  | .foreign =>
      match folder.settle location place false with
      | (folder, .error cause) => (folder, .error cause)
      | (folder, .ok _) => (folder, .error .notADatabase)
  | .database content =>
      match folder.settle location place (content == Database.blank) with
      | (folder, .error cause) => (folder, .error cause)
      | (folder, .ok isLogged) =>
          (folder, .ok ⟨place, content, location.writable && folder.hasRoom place, isLogged⟩)

/-- Open the database of a path.  A file that is not there is made at once, if
it may be, and holds nothing. -/
def openFile (folder : Folder) (location : Location) (path : Path) :
    Folder × Except PathError DatabaseFile :=
  match folder.resolve (folder.start path) path.names with
  | .error cause => (folder, .error cause)
  | .ok place =>
      match folder.node? place with
      | some node => folder.read location place node
      | none =>
          if location.mayCreate && folder.holdsFolder place.parent then
            (folder.put place (.database Database.blank)).read location place
              (.database Database.blank)
          else (folder, .error .cannotOpen)

/-- Is there something at the path that an option names? -/
def holds (folder : Folder) (text : String) : Bool :=
  decide (text ≠ "") &&
    match folder.locate (Path.ofText text) with
    | .ok place => (folder.node? place).isSome
    | .error _ => false

/-- Open the file of a location.  A file whose access is to be that of another
one needs the other one. -/
def openLocation (folder : Folder) (location : Location) (path : Path) :
    Folder × Except PathError DatabaseFile :=
  if location.modeOf.all folder.holds then folder.openFile location path
  else (folder, .error .cannotOpen)

/-- Open the database of a path, in folders that are made when they are missing. -/
def openWithin (folder : Folder) (path : Path) : Folder × Except PathError DatabaseFile :=
  match folder.makeAround path with
  | (folder, .error cause) => (folder, .error cause)
  | (folder, .ok _) =>
      if path.hasNul then (folder, .error .nul) else folder.openFile (Location.plain path) path

/-! ## Writing -/

/-- Keep a database in its file.  A change goes through the journal, unless there
is a log, and clears it away. -/
def keep (folder : Folder) (file : DatabaseFile) (content : Database) : Folder :=
  if content = file.content then folder
  else
    (if file.isLogged then folder else folder.remove file.place.journal).put file.place
      (.database content)

end Folder
end ModalDrill
