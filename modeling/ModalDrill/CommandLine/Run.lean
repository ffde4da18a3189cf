import ModalDrill.Bank.Bundled
import ModalDrill.CommandLine.DatabaseFile
import ModalDrill.CommandLine.Options
import ModalDrill.Shell.Play

namespace ModalDrill
namespace CommandLine

/-!
# Runs

A run reads its arguments, opens the database that they name, and plays or
shows the scores.  What it has recorded stays in the folder, however it ends.
-/

/-- Why a run breaks off. -/
inductive Failure
  | valueMissing (flag : Flag)
  | path (cause : PathError)
  | store (cause : StoreError)
  | submit (cause : SubmitError)
  | clockOutOfRange
  | linesExhausted
deriving DecidableEq, Repr

def Failure.message : Failure -> String
  | valueMissing flag => "The option " ++ flag.name ++ " is named without a value."
  | path cause => cause.message
  | store cause => cause.message
  | submit cause => cause.message
  | clockOutOfRange => "The clock is out of range."
  | linesExhausted => "There is no line left to read."

/-- How a run ends: with a status, or broken off. -/
inductive Exit
  | status (code : Nat)
  | failure (cause : Failure)
deriving DecidableEq, Repr

/-- What a run leaves on its two outputs. -/
structure Report where
  exit : Exit
  output : String
  errors : String
deriving DecidableEq, Repr

/-- Lines, each with its end. -/
def lines (texts : List String) : String :=
  String.join (texts.map fun text => text ++ "\n")

/-! ## What entries look like -/

/-- What appears on the output: prompts stay on their line. -/
def outputText : Entry -> String
  | .asked prompt => prompt.text
  | .printed message => message.text ++ "\n"
  | .noted _ => ""

/-- An aggregate as a note shows it. -/
def statsText (stats : PlayerStats) : String :=
  "PlayerStats(username=" ++ quotedText stats.username ++ ", times_played=" ++
    Text.shown stats.timesPlayed ++ ", highest_score=" ++ Text.shown stats.highestScore ++ ")"

/-- A note with the part of the program that it comes from. -/
def noteFrom (part text : String) : String :=
  "DEBUG " ++ programName ++ "." ++ part ++ ": " ++ text

def noteText : Note -> String
  | .bankLoaded questions =>
      noteFrom "content_loader" ("Loaded " ++ Text.shown questions ++ " bundled questions")
  | .migrated version =>
      noteFrom "progress" ("Applied schema migration " ++ Text.shown version)
  | .sessionStarting name questions =>
      noteFrom "service"
        ("Starting session for " ++ name.toString ++ " with " ++ Text.shown questions ++
          " questions")
  | .sessionFinished name score =>
      noteFrom "service"
        ("Session for " ++ name.toString ++ " finished with score " ++ Text.shown score)
  | .gameRecorded name score stats =>
      noteFrom "progress"
        ("Recorded game for " ++ name.toString ++ ": score=" ++ Text.shown score ++ " stats=" ++
          statsText stats)

/-- What appears on the error output of a verbose run. -/
def errorText : Entry -> String
  | .noted note => noteText note ++ "\n"
  | _ => ""

/-- The report of a run that got past its arguments. -/
def reportOf (settings : Settings) (entries : List Entry) (exit : Exit) : Report where
  exit := exit
  output := String.join (entries.map outputText)
  errors := if settings.verbose then String.join (entries.map errorText) else ""

/-! ## The database of a run -/

/-- A store that a run has opened, and its file, unless it is in memory. -/
structure Opened where
  folder : Folder
  file : Option DatabaseFile
  store : Store
  migrations : List Int

/-- Keep the database of a store in its file. -/
def keep (folder : Folder) (file : Option DatabaseFile) (store : Store) : Folder :=
  match file with
  | some file => folder.keep file store.database
  | none => folder

/-- Connect to a database and list the versions that are applied to it. -/
def connect (folder : Folder) (file : Option DatabaseFile) (writable : Bool)
    (database : Database) : Folder × Except Failure Opened :=
  match Store.connect file.isSome writable database with
  | .error cause => (folder, .error (.store cause))
  | .ok store =>
      let folder := keep folder file store
      (folder, .ok ⟨folder, file, store, database.pending⟩)

/-- Open the database at a location. -/
def openAt (folder : Folder) (location : Location) : Folder × Except Failure Opened :=
  match location.file with
  | none => connect folder none location.writable Database.blank
  | some path =>
      match folder.openLocation location path with
      | (folder, .error cause) => (folder, .error (.path cause))
      | (folder, .ok file) => connect folder (some file) file.writable file.content

/-- Open the database that a text names, where references are read or are not.  The
folders around the text, taken as a path, are made first, and stay even if the
database cannot be opened. -/
def openDatabase (references : Bool) (folder : Folder) (text : String) :
    Folder × Except Failure Opened :=
  let path := Path.ofText text
  match folder.makeAround path with
  | (folder, .error cause) => (folder, .error (.path cause))
  | (folder, .ok _) =>
      if path.hasNul then (folder, .error (.path .nul))
      else
        match Location.ofText references path.text with
        | .error cause => (folder, .error (.path cause))
        | .ok location => openAt folder location

/-! ## Whole runs -/

/-- What a run is given besides its arguments: a bank, the ways to draw from it, the
times that printing takes, the lines that are typed, and a SQLite that reads
references or does not. -/
structure Surroundings where
  bank : QuestionBank
  draws : Draws
  delay : Delay
  inputs : List Shell.Input
  readsReferences : Bool

def exitOf (ending : Shell.Ending) : Exit :=
  match ending with
  | .quit => .status 0
  | .linesExhausted => .failure .linesExhausted
  | .failed (.submit cause) => .failure (.submit cause)
  | .failed (.store cause) => .failure (.store cause)
  | .failed .clockOutOfRange => .failure .clockOutOfRange

/-- What is noted before a database is opened, and then the length of a round and the
name of the database.  Each option is looked at when its value is needed. -/
def prepare (bank : QuestionBank) (settings : Settings) :
    List Entry × Except Failure (Binary64 × String) :=
  let loaded := [Entry.noted (.bankLoaded bank.questions.length)]
  match settings.duration, settings.db with
  | none, _ => ([], .error (.valueMissing .duration))
  | some _, none => (loaded, .error (.valueMissing .db))
  | some duration, some db => (loaded, .ok (duration, db))

/-- The desk of a run whose database is open, with what was noted on the way. -/
def deskOn (bank : QuestionBank) (draws : Draws) (duration : Binary64) (said : List Entry)
    (store : Store) (migrations : List Int) : Desk where
  service := Service.new bank (.real duration) (draws []) store
  draws := draws
  clock := Binary64.zero
  entries := said ++ migrations.map fun version => .noted (.migrated version)

/-- Where a command begins: scores are shown at once, and a play waits for a name. -/
def begin (delay : Delay) (command : Command) (desk : Desk) : Shell.Standing :=
  match command with
  | .play => .waits desk .naming
  | .scores =>
      match (Shell.showLeaderboard delay).run desk with
      | .ok _ desk => .ended desk .quit
      | .error cause desk => .ended desk (.failed cause)

/-- Show the scores, or play. -/
def perform (delay : Delay) (command : Command) (desk : Desk) (inputs : List Shell.Input) :
    Desk × Exit :=
  let outcome := Shell.playOn delay (begin delay command desk) inputs
  (outcome.desk, exitOf outcome.ending)

/-- What a run does: the folder it leaves, what was said, and how it ended. -/
structure Enactment where
  folder : Folder
  entries : List Entry
  exit : Exit

/-- Carry out a command with an open database.  The database is kept even if the run
breaks off. -/
def enactOn (opened : Opened) (command : Command) (duration : Binary64) (said : List Entry)
    (surroundings : Surroundings) : Enactment :=
  let desk := deskOn surroundings.bank surroundings.draws duration said opened.store
    opened.migrations
  let (desk, exit) := perform surroundings.delay command desk surroundings.inputs
  ⟨keep opened.folder opened.file desk.service.store, desk.entries, exit⟩

/-- Open the database and do what the settings say. -/
def enact (folder : Folder) (settings : Settings) (surroundings : Surroundings) : Enactment :=
  match prepare surroundings.bank settings with
  | (said, .error cause) => ⟨folder, said, .failure cause⟩
  | (said, .ok (duration, db)) =>
      match openDatabase surroundings.readsReferences folder db with
      | (folder, .error cause) => ⟨folder, said, .failure cause⟩
      | (_, .ok opened) => enactOn opened settings.command duration said surroundings

/-- One run of the program in a folder. -/
def run (folder : Folder) (arguments : List String) (surroundings : Surroundings) :
    Folder × Report :=
  match settings? arguments with
  | .error complaint => (folder, ⟨.status 2, "", lines (complaintLines complaint)⟩)
  | .ok none => (folder, ⟨.status 0, lines helpLines, ""⟩)
  | .ok (some settings) =>
      let enactment := enact folder settings surroundings
      (enactment.folder, reportOf settings enactment.entries enactment.exit)

end CommandLine
end ModalDrill
