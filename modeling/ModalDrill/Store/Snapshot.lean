import ModalDrill.Json.Value
import ModalDrill.Store.Database

namespace ModalDrill

/-!
# Database files

A database is kept in a file as one JSON object with its version, the applied
migrations and the two tables.  A file of any other shape is no database.
-/

def PlayerStats.toJson (stats : PlayerStats) : Json :=
  .array [.text stats.username, .integer stats.timesPlayed, .integer stats.highestScore]

def PlayerStats.ofJson? : Json -> Option PlayerStats
  | .array [.text username, .integer timesPlayed, .integer highestScore] =>
      if 0 ≤ timesPlayed then some ⟨username.toString, timesPlayed.toNat, highestScore⟩ else none
  | _ => none

def GameRecord.toJson (game : GameRecord) : Json :=
  .array [.text game.username, .integer game.score]

def GameRecord.ofJson? : Json -> Option GameRecord
  | .array [.text username, .integer score] => some ⟨username.toString, score⟩
  | _ => none

def Tables.toJson (tables : Tables) : Json :=
  .object
    [("players", .array (tables.players.map PlayerStats.toJson)),
      ("games", .array (tables.games.map GameRecord.toJson))]

def Tables.ofJson? : Json -> Option Tables
  | .object members => do
      let .array players <- Json.find? members "players" | none
      let .array games <- Json.find? members "games" | none
      return ⟨← players.mapM PlayerStats.ofJson?, ← games.mapM GameRecord.ofJson?⟩
  | _ => none

/-- The number of a migration. -/
def migrationOf? : Json -> Option Int
  | .integer version => some version
  | _ => none

namespace Database

def toJson (database : Database) : Json :=
  .object
    [("version", .integer database.version),
      ("migrations", .array (database.migrations.map .integer)),
      ("tables", match database.tables with
        | none => .null
        | some tables => tables.toJson)]

def ofJson? : Json -> Option Database
  | .object members => do
      let .integer version <- Json.find? members "version" | none
      let .array migrations <- Json.find? members "migrations" | none
      let migrations <- migrations.mapM migrationOf?
      match <- Json.find? members "tables" with
      | .null => return ⟨version, migrations, none⟩
      | tables => return ⟨version, migrations, some (← Tables.ofJson? tables)⟩
  | _ => none

end Database
end ModalDrill
