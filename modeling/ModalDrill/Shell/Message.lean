import ModalDrill.Buffer.Rendering
import ModalDrill.Service.Basic
import ModalDrill.Shell.Leaderboard

namespace ModalDrill

/-!
# What the shell says

The shell asks for a line at a prompt, prints messages, and notes what the
service does.  What was said is kept as data; the wording is a function of it.
-/

/-- The three questions that the shell waits at. -/
inductive Prompt
  | playerName
  | choice
  | command
deriving DecidableEq, Repr

def Prompt.text : Prompt -> String
  | playerName => "Player name: "
  | choice => "Choose: "
  | command => "Command: "

/-- The entries of the menu, under its title and the player. -/
inductive MenuLine
  | title
  | player (name : CodeText)
  | play
  | leaderboard
  | stats
  | quit
deriving DecidableEq, Repr

def MenuLine.text : MenuLine -> String
  | title => "\n=== Vim Arcade ==="
  | player name => "Player: " ++ name.toString
  | play => "1) Play"
  | leaderboard => "2) Leaderboard"
  | stats => "3) My stats"
  | quit => "q) Quit"

inductive Message
  | nameRequired
  | menu (line : MenuLine)
  | invalidChoice
  | notStarted (cause : StartError)
  | roundLength (duration : Binary64)
  | roundRules
  | status (score : Nat) (left : Binary64)
  | questionPrompt (prompt : String)
  | bufferRow (row : Line)
  | abandoned
  | tooLate
  | hint (answer : String)
  | correct (points : Nat)
  | wrong (command : String)
  | timesUp
  | finalScore (score : Nat)
  | notSaved (cause : StoreError)
  | gamesPlayed (count : Nat)
  | bestScore (score : Int)
  | statsTitle (name : CodeText)
  | noGames
  | leaderboardTitle
  | noScores
  | tableRow (row : Line)
deriving DecidableEq

def Message.text : Message -> String
  | nameRequired => "Player name is required."
  | menu line => line.text
  | invalidChoice => "Invalid choice."
  | notStarted cause => "Could not start round: " ++ cause.message
  | roundLength duration => "\nYou have " ++ String.ofList (duration.fixed 0) ++ " seconds."
  | roundRules => "Type " ++ hintCommand ++ " for a hint (no point for that question) or :q to leave."
  | status score left =>
      "\nScore: " ++ Text.shown score ++ "   Time left: " ++ String.ofList (left.fixed 0) ++ "s"
  | questionPrompt prompt => "Prompt: " ++ prompt
  | bufferRow row => String.ofList row
  | abandoned => "Round abandoned. Nothing recorded."
  | tooLate => "Too late, time is up."
  | hint answer => "Hint: " ++ answer
  | correct points => "Correct. +" ++ Text.shown points
  | wrong command => "Not quite (" ++ command ++ "). Try again."
  | timesUp => "\n=== Time's up ==="
  | finalScore score => "Final score: " ++ Text.shown score
  | notSaved cause => "Could not save score: " ++ cause.message
  | gamesPlayed count => "- games played: " ++ Text.shown count
  | bestScore score => "- best score: " ++ Text.shown score
  | statsTitle name => "\n=== Stats: " ++ name.toString ++ " ==="
  | noGames => "No games played yet."
  | leaderboardTitle => "\n=== Leaderboard ==="
  | noScores => "No scores yet."
  | tableRow row => String.ofList row

/-- A step of the service that is worth a note. -/
inductive Note
  | bankLoaded (questions : Nat)
  | migrated (version : Int)
  | sessionStarting (name : CodeText) (questions : Nat)
  | sessionFinished (name : CodeText) (score : Nat)
  | gameRecorded (name : CodeText) (score : Nat) (stats : PlayerStats)
deriving DecidableEq, Repr

/-- One entry of what the shell has said. -/
inductive Entry
  | asked (prompt : Prompt)
  | printed (message : Message)
  | noted (note : Note)
deriving DecidableEq

end ModalDrill
