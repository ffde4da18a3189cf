import ModalDrill.CommandLine.Run
import ModalDrill.Json.Reader
import ModalDrill.Json.Writer
import ModalDrill.Store.Snapshot

/-!
# The program

The program reads its arguments, keeps its database in a file, and holds the
conversation of the shell line by line on the standard streams.  What a line leads
to is told by `Shell.step` alone; here it is only read, shown and saved.
-/

namespace ModalDrill
namespace Program

/-- The folder around a file. -/
def folderOf (path : Path) : String :=
  (if path.absolute then "" else "./") ++ path.parent.text

def fail (cause : PathError) : IO α :=
  throw (IO.userError cause.message)

/-- Is there something at the path that an option names? -/
def isThere (text : String) : IO Bool := do
  try
    let _ <- IO.FS.realPath text
    return true
  catch _ => return false

/-- Read a database file; a file that is not there is a new database. -/
def load (location : Location) : IO Database := do
  let some file := location.file | return Database.blank
  if let some other := location.modeOf then
    unless <- isThere other do fail .cannotOpen
  let content <-
    try IO.FS.readFile file.text
    catch
      | .noFileOrDirectory .. =>
          if location.mayCreate then return Database.blank else fail .cannotOpen
      | cause => throw cause
  if content.isEmpty then return Database.blank
  match (Json.read content).toOption.bind Database.ofJson? with
  | some database => return database
  | none => fail .cannotOpen

/-- Where the database of a text is kept, which may be a reference.  The folders around
it are made. -/
def locate (text : String) : IO Location := do
  let path := Path.ofText text
  if path.hasNul then fail .nul
  IO.FS.createDirAll (folderOf path)
  match Location.ofText true path.text with
  | .ok location => return location
  | .error cause => fail cause

/-- Write a database file, if it may be written. -/
def save (location : Location) (store : Store) : IO Unit := do
  if let some file := location.file then
    if location.writable then IO.FS.writeFile file.text (store.database.toJson.line ++ "\n")

/-- Keys drawn one after the other. -/
def keys : Nat -> StdGen -> List Nat
  | 0, _ => []
  | count + 1, generator =>
      let (key, generator) := randNat generator 0 1000000000
      key :: keys count generator

/-- Questions are shuffled anew behind every history. -/
def shuffles (seed : Nat) : Draws :=
  fun entries size =>
    let keys := keys size (mkStdGen (seed + entries.length))
    Sampler.byKey (fun index => keys.getD index 0) size

/-- No time of its own passes while the program prints: the clock is read again
with every line. -/
def unhurried : Delay :=
  fun _ => []

/-- Show entries: messages and prompts on the output, notes on the error
output of a verbose run. -/
def showEntries (verbose : Bool) (entries : List Entry) : IO Unit := do
  for entry in entries do
    IO.print (CommandLine.outputText entry)
    if verbose then IO.eprint (CommandLine.errorText entry)
  (<- IO.getStdout).flush

/-- The next line, with the time that the clock of a desk lags behind when it is
there. -/
def readInput (started : Nat) (clock : Binary64) : IO (Option Shell.Input) := do
  let line <- (<- IO.getStdin).getLine
  if line.isEmpty then return none
  let characters := line.toList
  let typed := if characters.getLast? == some '\n' then String.ofList characters.dropLast else line
  let now := Binary64.ofRat (mkRat ((<- IO.monoMsNow) - started : Nat) 1000)
  return some ⟨typed, .real (now.sub clock)⟩

/-- Hold the conversation from where the shell stands, with so many entries shown. -/
partial def converse (verbose : Bool) (location : Location) (started shown : Nat) :
    Shell.Standing -> IO CommandLine.Exit
  | .ended desk ending => do
      showEntries verbose (desk.entries.drop shown)
      save location desk.service.store
      return CommandLine.exitOf ending
  | .waits desk phase => do
      let asked := desk.add (.asked phase.prompt)
      showEntries verbose (asked.entries.drop shown)
      save location desk.service.store
      match <- readInput started desk.clock with
      | none => return CommandLine.exitOf .linesExhausted
      | some input =>
          converse verbose location started asked.entries.length
            (Shell.step unhurried desk phase input)

/-- Open the database at a location and carry out a command. -/
def carryOut (settings : CommandLine.Settings) (bank : QuestionBank) (duration : Binary64)
    (said : List Entry) (location : Location) : IO CommandLine.Exit := do
  let database <- load location
  match Store.connect location.file.isSome location.writable database with
  | .error cause => return .failure (.store cause)
  | .ok store =>
      let desk := CommandLine.deskOn bank (shuffles (<- IO.rand 0 1000000000)) duration said store
        database.pending
      converse settings.verbose location (<- IO.monoMsNow) said.length
        (CommandLine.begin unhurried settings.command desk)

/-- Do what the settings say. -/
def runSettings (settings : CommandLine.Settings) : IO CommandLine.Exit := do
  let bank := QuestionBank.bundled
  let (said, prepared) := CommandLine.prepare bank settings
  showEntries settings.verbose said
  match prepared with
  | .error cause => return .failure cause
  | .ok (duration, db) => carryOut settings bank duration said (<- locate db)

/-- The status of a run as the operating system takes it. -/
def statusOf (exit : CommandLine.Exit) : IO UInt32 := do
  match exit with
  | .status code => return code.toUInt32
  | .failure cause =>
      IO.eprintln cause.message
      return 1

end Program
end ModalDrill

open ModalDrill in
def main (arguments : List String) : IO UInt32 := do
  match CommandLine.settings? arguments with
  | .error complaint =>
      IO.eprint (CommandLine.lines (CommandLine.complaintLines complaint))
      return 2
  | .ok none =>
      IO.print (CommandLine.lines CommandLine.helpLines)
      return 0
  | .ok (some settings) => Program.statusOf (<- Program.runSettings settings)
