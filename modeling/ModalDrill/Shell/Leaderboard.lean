import ModalDrill.Store.Tables
import ModalDrill.Text.Numeral

namespace ModalDrill

/-!
# The leaderboard table

A table has a header, a rule and one row for each player.  Every column is as
wide as its widest entry, so nothing is cut and all rows are equally long.
-/

namespace Leaderboard

/-- The widths of the columns behind the rank. -/
structure Widths where
  name : Nat
  played : Nat
  best : Nat
deriving DecidableEq, Repr

/-- The width of the ranks. -/
def rankWidth : Nat := 2

/-- The width that holds a title and all entries below it. -/
def columnWidth (title : List Char) (entries : List (List Char)) : Nat :=
  (entries.map List.length).foldl max title.length

def nameTitle : List Char := "Player".toList
def playedTitle : List Char := "Played".toList
def bestTitle : List Char := "Best".toList

def nameOf (stats : PlayerStats) : List Char := stats.username.toList
def playedOf (stats : PlayerStats) : List Char := Text.numeral stats.timesPlayed
def bestOf (stats : PlayerStats) : List Char := Text.signedNumeral stats.highestScore

def widths (players : List PlayerStats) : Widths where
  name := columnWidth nameTitle (players.map nameOf)
  played := columnWidth playedTitle (players.map playedOf)
  best := columnWidth bestTitle (players.map bestOf)

/-- One row: ranks and numbers to the right, names to the left. -/
def row (widths : Widths) (rank name played best : List Char) : List Char :=
  Text.alignRight rankWidth rank ++ ' ' :: Text.alignLeft widths.name name ++
    ' ' :: Text.alignRight widths.played played ++ ' ' :: Text.alignRight widths.best best

def header (widths : Widths) : List Char :=
  row widths ['#'] nameTitle playedTitle bestTitle

/-- A line of dashes under the header. -/
def rule (widths : Widths) : List Char :=
  List.replicate (header widths).length '-'

def playerRow (widths : Widths) (rank : Nat) (stats : PlayerStats) : List Char :=
  row widths (Text.numeral rank) (nameOf stats) (playedOf stats) (bestOf stats)

/-- The rows of players from a rank on. -/
def playerRows (widths : Widths) (rank : Nat) : List PlayerStats -> List (List Char)
  | [] => []
  | stats :: rest => playerRow widths rank stats :: playerRows widths (rank + 1) rest

/-- The whole table, in the order of the players. -/
def table (players : List PlayerStats) : List (List Char) :=
  header (widths players) :: rule (widths players) :: playerRows (widths players) 1 players

end Leaderboard
end ModalDrill
