import ModalDrill.CommandLine.Usage
import ModalDrill.Number.Notation

namespace ModalDrill
namespace CommandLine

/-!
# Options

Arguments are first told apart, without regard to their places, and then read
from left to right.  Long options may be cut short as long as they stay
unambiguous, and may carry their argument behind an equals sign.  Letters may
be joined to an option of one letter, with or without that sign.  Everything
behind a bare double dash is plain.
-/

/-- What is written in one piece with an option. -/
inductive Attachment
  | none
  | assigned (text : List Char)
  | joined (text : List Char)
deriving DecidableEq, Repr

/-- What an argument is by itself. -/
inductive Token
  | plain
  | separator
  | flag (flag : Flag) (attachment : Attachment)
  | unknown
deriving DecidableEq, Repr

/-! ## Telling arguments apart -/

/-- The option with exactly this spelling. -/
def spelled? (text : List Char) : Option Flag :=
  (spellings.find? fun spelling => spelling.1.toList == text).map Prod.snd

/-- The options that a text may be short for. -/
def abbreviated (text : List Char) : List (String × Flag) :=
  spellings.filter fun spelling => text.isPrefixOf spelling.1.toList

/-- A negative number, which is plain although it starts with a dash. -/
def isNegativeNumber (argument : List Char) : Bool :=
  let isDecimal := fun c => (Text.decimalValue? c).isSome
  match argument with
  | '-' :: body =>
      let body := if body.getLast? == some '\n' then body.dropLast else body
      let rest := body.dropWhile isDecimal
      match rest with
      | [] => !body.isEmpty
      | '.' :: places => !places.isEmpty && places.all isDecimal
      | _ => false
  | _ => false

/-- An argument that starts with a dash and is no option. -/
def withoutOption (argument : List Char) : Token :=
  if isNegativeNumber argument || argument.contains ' ' then .plain else .unknown

/-- What an equals sign and the text behind it attach to an option, long or of
one letter. -/
def attachmentOf (long : Bool) (behind : List Char) : Attachment :=
  match behind with
  | [] => .none
  | [_] => .assigned []
  | _ :: text => if long then .assigned text else .joined text

/-- An argument that starts with two dashes, or with one and a letter. -/
def dashed (argument : List Char) : Except Complaint Token :=
  let long := argument[1]? == some '-'
  let name := argument.takeWhile (· != '=')
  let attachment := attachmentOf long (argument.dropWhile (· != '='))
  match spelled? name with
  | some flag => .ok (.flag flag attachment)
  | none =>
      if long then
        match abbreviated name with
        | [] => .ok (withoutOption argument)
        | [(_, flag)] => .ok (.flag flag attachment)
        | several => .error (.ambiguous (String.ofList argument) (several.map Prod.fst))
      else
        match spelled? (argument.take 2) with
        | some flag => .ok (.flag flag (.joined (argument.drop 2)))
        | none => .ok (withoutOption argument)

def tokenOf (argument : String) : Except Complaint Token :=
  match argument.toList with
  | '-' :: c :: rest => dashed ('-' :: c :: rest)
  | _ => .ok .plain

/-- Tell all arguments apart, up to the first ambiguous one. -/
def tokens : List String -> Except Complaint (List (String × Token))
  | [] => .ok []
  | argument :: rest =>
      if argument = "--" then
        .ok ((argument, .separator) :: rest.map fun other => (other, .plain))
      else do
        let token <- tokenOf argument
        let others <- tokens rest
        return (argument, token) :: others

/-! ## Reading arguments -/

/-- What a run is to do.  An option may have been named and left without a
value. -/
structure Settings where
  command : Command
  db : Option String
  duration : Option Binary64
  verbose : Bool
deriving DecidableEq

/-- The length of a round in seconds, unless another is asked for. -/
def defaultDuration : Binary64 :=
  Binary64.ofRat 60

/-- Where the database is kept, unless another place is named. -/
def defaultDb : String := "." ++ programName ++ "/scores.db"

def Settings.default : Settings :=
  ⟨.play, some defaultDb, some defaultDuration, false⟩

/-- What the next argument is due to. -/
inductive Due
  | anything
  | argumentOf (flag : Flag)
  | behindCommand
  | behindSeparator
deriving DecidableEq

/-- What is read so far: the settings, whether they name the command, what the
next argument is due to, and the arguments that have no place. -/
structure Reading where
  settings : Settings
  commandNamed : Bool
  due : Due
  extras : List String

namespace Reading

def start : Reading :=
  ⟨Settings.default, false, .anything, []⟩

/-- Put an argument aside. -/
def leave (reading : Reading) (argument : String) : Reading :=
  { reading with due := .anything, extras := reading.extras ++ [argument] }

/-- Name the command. -/
def name (reading : Reading) (argument : String) : Except Complaint Reading :=
  match commands.find? fun command => command.text == argument with
  | some command =>
      .ok { reading with
        settings := { reading.settings with command := command }
        commandNamed := true
        due := .behindCommand }
  | none => .error (.unknownCommand argument)

/-- Change the settings. -/
def set (reading : Reading) (settings : Settings) : Reading :=
  { reading with settings := settings, due := .anything }

/-- Give an option its argument; a switch needs none. -/
def assign (reading : Reading) (flag : Flag) (argument : String) : Except Complaint Reading :=
  match flag with
  | .db => .ok (reading.set { reading.settings with db := some argument })
  | .duration =>
      match Number.ofTyped? argument with
      | some number => .ok (reading.set { reading.settings with duration := some number })
      | none => .error (.notANumber argument)
  | .help => .ok reading
  | .verbose => .ok (reading.set { reading.settings with verbose := true })

/-- Leave an option without a value. -/
def unassign (reading : Reading) (flag : Flag) : Reading :=
  match flag with
  | .db => reading.set { reading.settings with db := none }
  | .duration => reading.set { reading.settings with duration := none }
  | .help => reading
  | .verbose => reading

/-- Give an option what is written in one piece with it.  A double dash only
separates there, so it is no value. -/
def attach (reading : Reading) (flag : Flag) (text : List Char) : Except Complaint Reading :=
  if text = ['-', '-'] then .ok (reading.unassign flag)
  else reading.assign flag (String.ofList text)

end Reading

/-- Read an option that takes no argument; asking for help ends the reading.
Letters joined to the letter for help may only ask for help again. -/
def readSwitch (reading : Reading) (flag : Flag) (attachment : Attachment) :
    Except Complaint (Option Reading) :=
  match flag, attachment with
  | .help, .none => .ok none
  | .help, .joined text =>
      match text.dropWhile (· == 'h') with
      | [] => .ok none
      | rest => .error (.needlessArgument .help (String.ofList rest))
  | flag, .none => (reading.assign flag "").map some
  | flag, .assigned text => .error (.needlessArgument flag (String.ofList text))
  | flag, .joined text => .error (.needlessArgument flag (String.ofList text))

/-- Read an option that takes an argument, which may be the next one. -/
def readOption (reading : Reading) (flag : Flag) (attachment : Attachment) :
    Except Complaint (Option Reading) :=
  match attachment with
  | .none => .ok (some { reading with due := .argumentOf flag })
  | .assigned text => (reading.attach flag text).map some
  | .joined text => (reading.attach flag text).map some

/-- Read an argument that no earlier one asks for. -/
def readFree (reading : Reading) (argument : String) (token : Token) :
    Except Complaint (Option Reading) :=
  match token with
  | .unknown => .ok (some (reading.leave argument))
  | .plain =>
      if reading.commandNamed then .ok (some (reading.leave argument))
      else (reading.name argument).map some
  | .separator =>
      if reading.commandNamed then .ok (some (reading.leave argument))
      else .ok (some { reading with due := .behindSeparator })
  | .flag flag attachment =>
      if flag.takesArgument then readOption reading flag attachment
      else readSwitch reading flag attachment

/-- Read one argument.  A double dash right behind the command is dropped. -/
def readOne (reading : Reading) (argument : String) (token : Token) :
    Except Complaint (Option Reading) :=
  match reading.due, token with
  | .argumentOf flag, .plain => (reading.assign flag argument).map some
  | .argumentOf flag, _ => .error (.missingArgument flag)
  | .behindSeparator, _ => (reading.name argument).map some
  | .behindCommand, .separator => .ok (some { reading with due := .anything })
  | _, token => readFree reading argument token

/-- Read arguments from left to right.  Nothing is read once help is asked for. -/
def readAll (reading : Reading) : List (String × Token) -> Except Complaint (Option Reading)
  | [] =>
      match reading.due with
      | .argumentOf flag => .error (.missingArgument flag)
      | _ => .ok (some reading)
  | (argument, token) :: rest =>
      match readOne reading argument token with
      | .error complaint => .error complaint
      | .ok none => .ok none
      | .ok (some reading) => readAll reading rest

/-- The settings that arguments ask for, or nothing if they ask for help. -/
def requested? (arguments : List String) : Except Complaint (Option Settings) := do
  match <- readAll Reading.start (<- tokens arguments) with
  | none => return none
  | some reading =>
      if reading.extras ≠ [] then throw (.unrecognized reading.extras)
      return some reading.settings

/-- The settings of a command line, or nothing if it asks for help.  The length of
a round is looked at last. -/
def settings? (arguments : List String) : Except Complaint (Option Settings) := do
  match <- requested? arguments with
  | none => return none
  | some settings =>
      if settings.duration.any Binary64.isNonpositive then throw .durationNotPositive
      return some settings

end CommandLine
end ModalDrill
