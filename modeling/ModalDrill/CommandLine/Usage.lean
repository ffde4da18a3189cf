import ModalDrill.Text.Quoted

namespace ModalDrill
namespace CommandLine

/-!
# Usage and complaints

A refused command line gets the usage and one line that says what is wrong
with it.  Arguments appear in complaints in quoted form.
-/

def programName : String := "vimarcade"

/-- The options of the command line. -/
inductive Flag
  | help
  | db
  | duration
  | verbose
deriving DecidableEq, Repr

/-- All spellings of the options, in the order in which they are listed. -/
def spellings : List (String × Flag) :=
  [("-h", .help), ("--help", .help), ("--db", .db), ("--duration", .duration),
    ("--verbose", .verbose)]

/-- The name of an option in a complaint: all its spellings. -/
def Flag.name (flag : Flag) : String :=
  String.intercalate "/" ((spellings.filter fun spelling => spelling.2 == flag).map Prod.fst)

/-- Does an option take an argument? -/
def Flag.takesArgument : Flag -> Bool
  | db => true
  | duration => true
  | help => false
  | verbose => false

/-- What the program is asked to do. -/
inductive Command
  | play
  | scores
deriving DecidableEq, Repr

def Command.text : Command -> String
  | play => "play"
  | scores => "scores"

def commands : List Command :=
  [.play, .scores]

/-- What is wrong with a command line. -/
inductive Complaint
  | ambiguous (argument : String) (candidates : List String)
  | missingArgument (flag : Flag)
  | needlessArgument (flag : Flag) (argument : String)
  | notANumber (argument : String)
  | unknownCommand (argument : String)
  | unrecognized (arguments : List String)
  | durationNotPositive
deriving DecidableEq, Repr

def quotedText (text : String) : String :=
  String.ofList (Text.quoted text.toList)

def Complaint.message : Complaint -> String
  | ambiguous argument candidates =>
      "ambiguous option: " ++ argument ++ " could match " ++ String.intercalate ", " candidates
  | missingArgument flag => "argument " ++ flag.name ++ ": expected one argument"
  | needlessArgument flag argument =>
      "argument " ++ flag.name ++ ": ignored explicit argument " ++ quotedText argument
  | notANumber argument =>
      "argument " ++ Flag.duration.name ++ ": invalid float value: " ++ quotedText argument
  | unknownCommand argument =>
      "argument command: invalid choice: " ++ quotedText argument ++ " (choose from " ++
        String.intercalate ", " (commands.map fun command => quotedText command.text) ++ ")"
  | unrecognized arguments => "unrecognized arguments: " ++ String.intercalate " " arguments
  | durationNotPositive => "--duration must be positive"

/-- The usage, wrapped to the width of a terminal. -/
def usageLines : List String :=
  ["usage: " ++ programName ++ " [-h] [--db DB] [--duration DURATION] [--verbose]",
    "                 [\x7bplay,scores\x7d]"]

def helpLines : List String :=
  usageLines ++
    ["",
      "Arcade drills for vim normal-mode commands",
      "",
      "positional arguments:",
      "  \x7bplay,scores\x7d",
      "",
      "options:",
      "  -h, --help           show this help message and exit",
      "  --db DB              SQLite file for player statistics",
      "  --duration DURATION  Round length in seconds",
      "  --verbose            Enable debug logging"]

/-- The usage and the complaint. -/
def complaintLines (complaint : Complaint) : List String :=
  usageLines ++ [programName ++ ": error: " ++ complaint.message]

end CommandLine
end ModalDrill
