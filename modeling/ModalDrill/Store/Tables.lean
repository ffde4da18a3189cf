import ModalDrill.Text.Encoding

namespace ModalDrill

/-!
# Players and games

Two tables hold what a drill remembers: one aggregate for each player, and the
history of the games in the order in which they were recorded.  The tables
repeat each other, so a game is recorded in both or in none.
-/

/-- How often a player has played, and the best score. -/
structure PlayerStats where
  username : String
  timesPlayed : Nat
  highestScore : Int
deriving DecidableEq, Repr

/-- One finished game. -/
structure GameRecord where
  username : String
  score : Int
deriving DecidableEq, Repr

/-- Why the store refuses a request. -/
inductive StoreError
  | usernameRequired
  | scoreNotInteger
  | usernameNotText
  | unencodable (username : CodeText)
  | limitNotNumber
  | limitNotIntegral
  | integerOutOfRange
  | closed
  | missingTable
  | readOnly
  | notRecorded (username : String)
  | unsupportedVersion (version : Int)
deriving DecidableEq, Repr

def StoreError.message : StoreError -> String
  | usernameRequired => "Username is required."
  | scoreNotInteger => "Score must be an integer."
  | usernameNotText => "A username must be a text."
  | unencodable username => Text.unencodable username
  | limitNotNumber => "A limit must be a number."
  | limitNotIntegral => "A limit must be a whole number."
  | integerOutOfRange => "The integer does not fit into 64 bits."
  | closed => "The store is closed."
  | missingTable => "The database lacks the table."
  | readOnly => "The database may not be written."
  | notRecorded username => "Could not record game for " ++ username ++ "."
  | unsupportedVersion version =>
      "Database schema version " ++ Text.shown version ++ " is newer than supported 1."

/-- The players in the order of their first games, and the games, oldest first. -/
structure Tables where
  players : List PlayerStats
  games : List GameRecord
deriving DecidableEq

/-- The first integer that does not fit into 64 bits with a sign. -/
def integerBound : Int := 9223372036854775808

/-- The integers that a table can hold: those of 64 bits with a sign. -/
def storable (value : Int) : Bool :=
  decide (-integerBound ≤ value) && decide (value < integerBound)

/-- Add a game to the aggregate of its player: a new one, or the one that is there. -/
def countGame (username : String) (points : Int) : List PlayerStats -> List PlayerStats
  | [] => [⟨username, 1, points⟩]
  | stats :: rest =>
      if stats.username = username then
        ⟨username, stats.timesPlayed + 1, max stats.highestScore points⟩ :: rest
      else stats :: countGame username points rest

/-- The order of the leaderboard: more games, then the better score, then the
name by code points. -/
def PlayerStats.ranksBefore (first second : PlayerStats) : Bool :=
  if first.timesPlayed = second.timesPlayed then
    if first.highestScore = second.highestScore then decide (first.username ≤ second.username)
    else decide (second.highestScore < first.highestScore)
  else decide (second.timesPlayed < first.timesPlayed)

namespace Tables

def empty : Tables :=
  ⟨[], []⟩

/-- Write the aggregate of a player. -/
def countPlayer (tables : Tables) (username : String) (points : Int) : Except StoreError Tables :=
  if storable points then .ok { tables with players := countGame username points tables.players }
  else .error .integerOutOfRange

/-- Write a game at the end of the history. -/
def appendGame (tables : Tables) (username : String) (score : Int) : Except StoreError Tables :=
  if storable score then .ok { tables with games := tables.games ++ [⟨username, score⟩] }
  else .error .integerOutOfRange

/-- Both writes of one game.  A negative score counts as zero in the aggregate
and stays what it is in the history. -/
def record (tables : Tables) (username : String) (score : Int) : Except StoreError Tables :=
  match tables.countPlayer username (max 0 score) with
  | .error cause => .error cause
  | .ok counted => counted.appendGame username score

/-- The aggregate of a player. -/
def player? (tables : Tables) (username : String) : Option PlayerStats :=
  tables.players.find? fun stats => stats.username == username

/-- The first players of the leaderboard. -/
def top (tables : Tables) (limit : Nat) : List PlayerStats :=
  (tables.players.mergeSort PlayerStats.ranksBefore).take limit

/-- The latest games of a player, newest first. -/
def recent (tables : Tables) (username : String) (limit : Nat) : List GameRecord :=
  (tables.games.filter fun game => game.username == username).reverse.take limit

/-- Forget a player and all games of theirs. -/
def remove (tables : Tables) (username : String) : Tables where
  players := tables.players.filter fun stats => stats.username != username
  games := tables.games.filter fun game => game.username != username

end Tables
end ModalDrill
