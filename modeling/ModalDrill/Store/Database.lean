import ModalDrill.Store.Tables

namespace ModalDrill

/-!
# Databases and their migrations

A database carries a schema version, the versions that were applied to it, and
the tables, once the first version has made them.  Opening a database brings
it forward, one version after the other; it never goes back.
-/

structure Database where
  version : Int
  migrations : List Int
  tables : Option Tables
deriving DecidableEq

/-- The schema version that the drill works with. -/
def schemaVersion : Int := 1

namespace Database

/-- A database with nothing in it. -/
def blank : Database :=
  ⟨0, [], none⟩

/-- The first number that does not fit into 32 bits with a sign. -/
def versionBound : Int := 2147483648

/-- A database with nothing but a version.  A version that does not fit into
32 bits with a sign is kept as zero. -/
def stamped (version : Int) : Database :=
  if -versionBound ≤ version ∧ version < versionBound then { blank with version := version }
  else blank

/-- The versions still to be applied, in order. -/
def pending (database : Database) : List Int :=
  (List.range (schemaVersion - database.version).toNat).map fun step : Nat =>
    database.version + 1 + step

/-- Apply one version.  The first version makes the tables. -/
def apply (database : Database) (version : Int) : Database where
  version := version
  migrations := database.migrations.filter (· != version) ++ [version]
  tables := if version = 1 then some (database.tables.getD Tables.empty) else database.tables

/-- Bring a database forward to the schema version. -/
def migrate (database : Database) : Except StoreError Database :=
  if schemaVersion < database.version then .error (.unsupportedVersion database.version)
  else .ok (database.pending.foldl apply database)

end Database
end ModalDrill
