import ModalDrill.Json.Value
import ModalDrill.Store.Database
import ModalDrill.Text.Blank

namespace ModalDrill

/-!
# The store

The store is an open or closed connection to a database, which may be open for
reading only.  A write is done as a whole or not at all.  Names are stripped on
their way in, so the blanks around a name never matter; a request is checked
before the database is touched.  The database takes names in bytes, so it takes
none with half a pair of surrogates in it.
-/

/-- A connection to a database, which outlives it if it is durable. -/
structure Store where
  database : Database
  durable : Bool
  writable : Bool
  isOpen : Bool
deriving DecidableEq

/-! ## Arguments -/

/-- The stripped name of a player who is recorded. -/
def requiredName (username : Json) : Except StoreError CodeText :=
  match username with
  | .text name =>
      if Text.strip name.toString = "" then .error .usernameRequired else .ok name.strip
  | _ => .error .usernameRequired

/-- A score is an integer, and a truth value is none. -/
def requiredScore (score : Json) : Except StoreError Int :=
  match score with
  | .integer score => .ok score
  | _ => .error .scoreNotInteger

/-- The stripped name of a player who is looked for. -/
def soughtName (username : Json) : Except StoreError CodeText :=
  match username with
  | .text name => .ok name.strip
  | _ => .error .usernameNotText

/-- A name as the database takes it. -/
def encodedName (name : CodeText) : Except StoreError String :=
  if name.isEncodable then .ok name.toString else .error (.unencodable name)

/-- A limit on the number of answers, before the database has seen it. -/
inductive Limit
  | count (value : Int)
  | fraction (value : Binary64)

/-- A limit below zero is zero; truth values count as numbers. -/
def Limit.ofJson (limit : Json) : Except StoreError Limit :=
  match limit with
  | .integer value => .ok (.count (max 0 value))
  | .bool value => .ok (.count (if value then 1 else 0))
  | .real (.finite negative mantissa exponent) =>
      if negative || mantissa == 0 then .ok (.count 0)
      else .ok (.fraction (.finite negative mantissa exponent))
  | .real (.infinite true) => .ok (.count 0)
  | .real (.infinite false) => .ok (.fraction (.infinite false))
  | .real .nan => .ok (.count 0)
  | _ => .error .limitNotNumber

/-- The limit as the database takes it: a storable whole number. -/
def Limit.resolve (limit : Limit) : Except StoreError Nat :=
  match limit with
  | .count value => if storable value then .ok value.toNat else .error .integerOutOfRange
  | .fraction value =>
      match value.toRat? with
      | some amount =>
          if amount.den = 1 ∧ storable amount.num = true then .ok amount.num.toNat
          else .error .limitNotIntegral
      | none => .error .limitNotIntegral

/-- How many answers are given when no limit is named. -/
def defaultLimit : Json :=
  .integer 10

namespace Store

/-- Connect to a database and bring it forward.  A database that may not be
written must be there already. -/
def connect (durable writable : Bool) (database : Database) : Except StoreError Store :=
  match database.migrate with
  | .error cause => .error cause
  | .ok migrated =>
      if writable || database.pending.isEmpty then .ok ⟨migrated, durable, writable, true⟩
      else .error .readOnly

/-- A store on a new database in memory. -/
def inMemory : Except StoreError Store :=
  connect false true Database.blank

/-- The database, as long as the store is open. -/
def opened (store : Store) : Except StoreError Database :=
  if store.isOpen then .ok store.database else .error .closed

/-- The tables, as long as the store is open and has them. -/
def tables (store : Store) : Except StoreError Tables :=
  match store.opened with
  | .error cause => .error cause
  | .ok database =>
      match database.tables with
      | some tables => .ok tables
      | none => .error .missingTable

/-- Write changed tables back. -/
def withTables (store : Store) (tables : Tables) : Store :=
  { store with database := { store.database with tables := some tables } }

/-- Change the tables as a whole: if any part of the change fails, the store
stays as it was. -/
def transact (store : Store) (change : Tables -> Except StoreError Tables) :
    Store × Except StoreError Tables :=
  match store.tables with
  | .error cause => (store, .error cause)
  | .ok tables =>
      match change tables with
      | .error cause => (store, .error cause)
      | .ok changed =>
          if store.writable then (store.withTables changed, .ok changed)
          else (store, .error .readOnly)

/-! ## Requests -/

/-- Both writes of a game, under a name as the database takes it. -/
def writeGame (name : CodeText) (score : Int) (tables : Tables) : Except StoreError Tables := do
  tables.record (← encodedName name) score

/-- Record a game under a name that is checked already, and read the aggregate
of its player back. -/
def addGame (store : Store) (name : CodeText) (score : Int) :
    Store × Except StoreError PlayerStats :=
  match store.transact (writeGame name score) with
  | (store, .error cause) => (store, .error cause)
  | (store, .ok tables) =>
      match tables.player? name.toString with
      | some stats => (store, .ok stats)
      | none => (store, .error (.notRecorded name.toString))

/-- Record a game. -/
def record (store : Store) (username score : Json) : Store × Except StoreError PlayerStats :=
  match requiredName username with
  | .error cause => (store, .error cause)
  | .ok name =>
      match requiredScore score with
      | .error cause => (store, .error cause)
      | .ok score => store.addGame name score

/-- The aggregate of a player, if there is one. -/
def player? (store : Store) (username : Json) : Except StoreError (Option PlayerStats) := do
  let name <- soughtName username
  let tables <- store.tables
  let name <- encodedName name
  return tables.player? name

/-- The first players of the leaderboard. -/
def top (store : Store) (limit : Json) : Except StoreError (List PlayerStats) := do
  let limit <- Limit.ofJson limit
  let tables <- store.tables
  let limit <- limit.resolve
  return tables.top limit

/-- The latest games of a player, newest first. -/
def recent (store : Store) (username limit : Json) : Except StoreError (List GameRecord) := do
  let name <- soughtName username
  let limit <- Limit.ofJson limit
  let tables <- store.tables
  let name <- encodedName name
  let limit <- limit.resolve
  return tables.recent name limit

/-- Forget a player, and say whether there was one. -/
def delete (store : Store) (username : Json) : Store × Except StoreError Bool :=
  match soughtName username with
  | .error cause => (store, .error cause)
  | .ok name =>
      match store.tables with
      | .error cause => (store, .error cause)
      | .ok tables =>
          match encodedName name with
          | .error cause => (store, .error cause)
          | .ok name =>
              if store.writable then
                (store.withTables (tables.remove name), .ok (tables.player? name).isSome)
              else (store, .error .readOnly)

/-- Close the store.  Closing twice is closing once. -/
def close (store : Store) : Store :=
  { store with isOpen := false }

/-- What a new connection finds: a durable database as it was left, or a new one. -/
def remains (store : Store) : Database :=
  if store.durable then store.database else Database.blank

/-- Close the store and connect again. -/
def reopen (store : Store) : Except StoreError Store :=
  connect store.durable store.writable store.remains

/-! ## Requests as data -/

/-- What can be asked of a store. -/
inductive Request
  | record (username score : Json)
  | player (username : Json)
  | delete (username : Json)
  | top (limit : Json)
  | recent (username limit : Json)
  | schema
  | close
  | reopen

/-- What a store answers. -/
inductive Answer
  | recorded (stats : PlayerStats)
  | player (stats : Option PlayerStats)
  | deleted (found : Bool)
  | top (players : List PlayerStats)
  | recent (games : List GameRecord)
  | schema (version : Int) (migrations : List Int)
  | done
deriving DecidableEq, Repr

/-- Serve one request. -/
def serve (store : Store) : Request -> Store × Except StoreError Answer
  | .record username score =>
      let (store, answer) := store.record username score
      (store, answer.map .recorded)
  | .player username => (store, (store.player? username).map .player)
  | .delete username =>
      let (store, answer) := store.delete username
      (store, answer.map .deleted)
  | .top limit => (store, (store.top limit).map .top)
  | .recent username limit => (store, (store.recent username limit).map .recent)
  | .schema =>
      (store, store.opened.map fun database => .schema database.version database.migrations)
  | .close => (store.close, .ok .done)
  | .reopen =>
      match store.reopen with
      | .ok store => (store, .ok .done)
      | .error cause => (store.close, .error cause)

/-- Serve requests one after the other. -/
def serveAll (store : Store) : List Request -> Store × List (Except StoreError Answer)
  | [] => (store, [])
  | request :: rest =>
      let (store, answer) := store.serve request
      let (store, answers) := store.serveAll rest
      (store, answer :: answers)

end Store
end ModalDrill
