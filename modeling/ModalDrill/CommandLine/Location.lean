import ModalDrill.CommandLine.Path
import ModalDrill.Text.Blank
import ModalDrill.Text.Numeral

namespace ModalDrill

/-!
# Locations of databases

The text that names a database is the path of its file, or the name of the
database in memory, or else a reference: the scheme `file:`, a path, options
behind a question mark, and perhaps a fragment, which says nothing.  Bytes of a
reference may be written as a percent sign and two hexadecimal digits.  Its
options tell where the database is kept and what may be done with it; options
that nobody knows are passed over.

Nobody asks SQLite to read references.  It reads them all the same where it was
built to do so (with `SQLITE_USE_URI`, as some distributions build it); any other
build takes a text with the scheme for a path.
-/

/-- How a database is kept from being changed by two runs at a time: by locks on
its file, which are held for a while or all the time, by a folder beside it, or
not at all. -/
inductive Locking
  | shared
  | exclusive
  | byFolder
  | none
deriving DecidableEq, Repr

/-- Where a database is kept, and what may be done with it.  A fixed database is
taken to be changed by nobody, and an unlocked one by nobody else. -/
structure Location where
  file : Option Path
  mayCreate : Bool
  writable : Bool
  isFixed : Bool
  locking : Locking
  isUnlocked : Bool
  modeOf : Option String
deriving DecidableEq, Repr

/-- What a reference may ask to do with a database, the least first. -/
inductive Access
  | readOnly
  | existing
  | create
  | memory
deriving DecidableEq, Repr

namespace Access

/-- The names of the kinds of access. -/
def names : List (String × Access) :=
  [("ro", readOnly), ("rw", existing), ("rwc", create), ("memory", memory)]

def rank : Access -> Nat
  | readOnly => 0
  | existing => 1
  | create => 2
  | memory => 3

/-- Access may be narrowed, and any database may be kept in memory instead. -/
def permits (granted asked : Access) : Bool :=
  asked == memory || decide (asked.rank ≤ granted.rank)

end Access

namespace Location

/-- The name of the database in memory. -/
def memoryName : String := ":memory:"

/-- What a reference starts with. -/
def scheme : List Char := "file:".toList

/-- The names of the ways to keep files, which differ in how files are locked. -/
def fileSystems : List (String × Locking) :=
  [("unix", .shared), ("unix-excl", .exclusive), ("unix-dotfile", .byFolder), ("unix-none", .none)]

/-- The way to keep a file that has a name, if there is one. -/
def locking? (system : String) : Option Locking :=
  (fileSystems.find? fun named => named.1 == system).map Prod.snd

/-- The name of the way to keep databases in memory. -/
def memorySystem : String := "memdb"

/-! ## Escapes -/

/-- The bytes of a text with escapes.  An escaped NUL ends the text. -/
def bytes : List Char -> List UInt8
  | '%' :: high :: low :: rest =>
      match Text.hexValue? high, Text.hexValue? low with
      | some 0, some 0 => []
      | some high, some low => (16 * high + low).toUInt8 :: bytes rest
      | _, _ => 0x25 :: bytes (high :: low :: rest)
  | c :: rest => String.utf8EncodeChar c ++ bytes rest
  | [] => []

/-- A text without its escapes; one whose bytes are no text stays as it is. -/
def unescaped (text : List Char) : String :=
  (String.fromUTF8? (ByteArray.mk (bytes text).toArray)).getD (String.ofList text)

/-- A text up to a mark, and what is behind the mark. -/
def cut (mark : Char) (text : List Char) : List Char × List Char :=
  (text.takeWhile (· != mark), (text.dropWhile (· != mark)).drop 1)

/-- The name and the value of an option, which needs a name. -/
def option? (text : List Char) : Option (String × String) :=
  let (name, value) := cut '=' text
  if (unescaped name).isEmpty then none else some (unescaped name, unescaped value)

def options (query : List Char) : List (String × String) :=
  (query.splitOn '&').filterMap option?

/-- The value that an option gets first. -/
def value? (options : List (String × String)) (name : String) : Option String :=
  (options.find? fun option => option.1 == name).map Prod.snd

/-! ## Options -/

/-- What the options ask for: an access, and a way to keep the database. -/
structure Wish where
  access : Access
  system : String
deriving DecidableEq, Repr

/-- Take one option into account. -/
def Wish.consider (wish : Wish) (option : String × String) : Except PathError Wish :=
  match option with
  | ("vfs", system) => .ok { wish with system := system }
  | ("cache", sharing) =>
      if sharing = "shared" ∨ sharing = "private" then .ok wish else .error .unknownAccess
  | ("mode", name) =>
      match Access.names.find? fun named => named.1 == name with
      | none => .error .unknownAccess
      | some (_, access) =>
          if wish.access.permits access then .ok { wish with access := access }
          else .error .unknownAccess
  | _ => .ok wish

/-- What all options together ask for. -/
def Wish.ofOptions (options : List (String × String)) : Except PathError Wish :=
  options.foldlM Wish.consider ⟨.create, "unix"⟩

/-- The number at the front of a text, in decimal or behind `0x` in
hexadecimal.  A number that does not fit into 32 bits with a sign is zero. -/
def leadingNumber (text : List Char) : Nat :=
  let inHex := match text with
    | '0' :: mark :: digit :: _ => (mark == 'x' || mark == 'X') && (Text.hexValue? digit).isSome
    | _ => false
  let value :=
    if inHex then
      ((text.drop 2).map Text.hexValue?).takeWhile Option.isSome |>.foldl
        (fun value digit => 16 * value + digit.getD 0) 0
    else Text.numeralValue (text.takeWhile Text.isDigit)
  if value < 2147483648 then value else 0

/-- Does the value of a switch turn it on?  Of a number only the lowest byte
counts. -/
def turnsOn (value : String) : Bool :=
  if (value.toList.head?.map Text.isDigit).getD false then
    leadingNumber value.toList % 256 != 0
  else ["on", "yes", "true"].contains (Text.small value)

/-! ## Texts -/

/-- Is a switch named and turned on? -/
def isOn (options : List (String × String)) (name : String) : Bool :=
  ((value? options name).map turnsOn).getD false

/-- The location of a file that anything may be done with. -/
def plain (path : Path) : Location where
  file := some path
  mayCreate := true
  writable := true
  isFixed := false
  locking := .shared
  isUnlocked := false
  modeOf := none

/-- The location that a reference names, read behind the scheme. -/
def ofReference (reference : List Char) : Except PathError Location := do
  let (target, query) := cut '?' (cut '#' reference).1
  let name := unescaped target
  let options := options query
  let wish <- Wish.ofOptions options
  if wish.system ≠ memorySystem ∧ locking? wish.system = none then throw .unknownAccess
  let isNamed := decide (name ≠ "") && decide (name ≠ memoryName) && wish.access != .memory
  let isFixed := isNamed && isOn options "immutable"
  return {
    file := if isNamed && wish.system != memorySystem then some (Path.ofText name) else none
    mayCreate := wish.access == .create
    writable := wish.access != .readOnly && !isFixed
    isFixed := isFixed
    locking := (locking? wish.system).getD .none
    isUnlocked := isOn options "nolock"
    modeOf := value? options "modeof" }

/-- The location that a text names, where references are read or are not. -/
def ofText (references : Bool) (text : String) : Except PathError Location :=
  if references && scheme.isPrefixOf text.toList then
    ofReference (text.toList.drop scheme.length)
  else if text = memoryName then .ok { plain (Path.ofText text) with file := none }
  else .ok (plain (Path.ofText text))

end Location
end ModalDrill
