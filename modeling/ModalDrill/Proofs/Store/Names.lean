import ModalDrill.Proofs.Store.Atomicity
import ModalDrill.Proofs.Text.Stripping

namespace ModalDrill

/-!
# The names in the player table

Names are stripped on their way in, and no request writes one in another way.  So the
names of all players stay stripped, through deletions and refusals, and also when the
store is closed and opened again.
-/

/-- The names of all players are stripped. -/
def Tables.NamesStripped (tables : Tables) : Prop :=
  forall row, row ∈ tables.players -> Text.strip row.username = row.username

/-- The names of all players are stripped, if there is a player table at all. -/
def Database.NamesStripped (database : Database) : Prop :=
  forall tables, database.tables = some tables -> tables.NamesStripped

/-! ## Tables -/

namespace Tables

theorem empty_namesStripped : empty.NamesStripped :=
  fun _ listed => absurd listed List.not_mem_nil

theorem NamesStripped.added {tables : Tables} (stripped : tables.NamesStripped) {name : String}
    (named : Text.strip name = name) (score : Int) : (tables.added name score).NamesStripped := by
  intro row listed
  have member : row.username ∈ (countGame name (max 0 score) tables.players).map
      PlayerStats.username := List.mem_map_of_mem listed
  rw [map_username_countGame] at member
  have known : row.username ∈ tables.players.map PlayerStats.username ∨ row.username = name := by
    split at member
    · exact Or.inl member
    · exact (List.mem_append.mp member).imp_right List.mem_singleton.mp
  rcases known with before | rfl
  · rcases List.mem_map.mp before with ⟨other, member', same⟩
    exact same ▸ stripped other member'
  · exact named

theorem NamesStripped.remove {tables : Tables} (stripped : tables.NamesStripped) (name : String) :
    (tables.remove name).NamesStripped :=
  fun row listed => stripped row (List.mem_filter.mp listed).1

end Tables

/-! ## Databases -/

namespace Database

theorem blank_namesStripped : blank.NamesStripped := by
  intro tables filled
  cases filled

theorem NamesStripped.apply {database : Database} (stripped : database.NamesStripped)
    (version : Int) : (database.apply version).NamesStripped := by
  intro tables filled
  rw [Database.apply] at filled
  dsimp only at filled
  split at filled
  · rw [Option.some.injEq] at filled
    rw [← filled]
    cases before : database.tables with
    | none => exact Tables.empty_namesStripped
    | some tables => exact stripped tables before
  · exact stripped tables filled

theorem NamesStripped.migrate {database migrated : Database} (stripped : database.NamesStripped)
    (brought : database.migrate = .ok migrated) : migrated.NamesStripped := by
  have steps : forall versions : List Int, forall database : Database, database.NamesStripped ->
      (versions.foldl Database.apply database).NamesStripped := by
    intro versions
    induction versions with
    | nil => exact fun _ stripped => stripped
    | cons version rest inductionHypothesis =>
        exact fun database stripped => inductionHypothesis _ (stripped.apply version)
  unfold Database.migrate at brought
  split at brought
  · cases brought
  · cases brought
    exact steps _ _ stripped

end Database

/-! ## Requests -/

namespace Store

theorem withTables_namesStripped {tables : Tables} (stripped : tables.NamesStripped)
    (store : Store) : (store.withTables tables).database.NamesStripped := by
  intro written same
  rw [← Option.some.inj same]
  exact stripped

theorem namesStripped_of_tables {store : Store} (stripped : store.database.NamesStripped)
    {tables : Tables} (connected : store.tables = .ok tables) : tables.NamesStripped :=
  stripped tables (isOpen_of_tables connected).2

theorem transact_namesStripped {store : Store} (stripped : store.database.NamesStripped)
    {change : Tables -> Except StoreError Tables}
    (kept : forall tables changed, tables.NamesStripped -> change tables = .ok changed ->
      changed.NamesStripped) : (store.transact change).1.database.NamesStripped := by
  unfold transact
  cases connected : store.tables with
  | error cause => exact stripped
  | ok tables =>
      have before := namesStripped_of_tables stripped connected
      dsimp only
      cases result : change tables with
      | error cause => exact stripped
      | ok changed =>
          dsimp only
          split
          · exact withTables_namesStripped (kept tables changed before result) store
          · exact stripped

theorem record_namesStripped {store : Store} (stripped : store.database.NamesStripped)
    (username score : Json) : (store.record username score).1.database.NamesStripped := by
  unfold record
  rcases requiredName_cases username with ⟨name, named, checked⟩ | ⟨_, checked⟩
  · have solid : Text.strip name.toString = name.toString := by
      cases named
      rw [CodeText.toString_strip, Text.strip_strip]
    rw [checked]
    dsimp only
    cases requiredScore score with
    | error cause => exact stripped
    | ok value =>
        dsimp only
        rw [addGame_store]
        refine transact_namesStripped stripped ?_
        intro tables changed before written
        rw [writeGame_eq] at written
        split at written
        · split at written
          · cases written
            exact before.added solid value
          · cases written
        · cases written
  · rw [checked]
    exact stripped

theorem delete_namesStripped {store : Store} (stripped : store.database.NamesStripped)
    (username : Json) : (store.delete username).1.database.NamesStripped := by
  unfold delete
  cases soughtName username with
  | error cause => exact stripped
  | ok name =>
      dsimp only
      cases connected : store.tables with
      | error cause => exact stripped
      | ok tables =>
          have before := namesStripped_of_tables stripped connected
          dsimp only
          cases encodedName name with
          | error cause => exact stripped
          | ok name =>
              dsimp only
              split
              · exact withTables_namesStripped (before.remove name) store
              · exact stripped

theorem reopen_namesStripped {store later : Store} (stripped : store.database.NamesStripped)
    (again : store.reopen = .ok later) : later.database.NamesStripped := by
  have remains : store.remains.NamesStripped := by
    unfold Store.remains
    split
    · exact stripped
    · exact Database.blank_namesStripped
  unfold reopen connect at again
  split at again
  · cases again
  · next brought =>
      split at again
      · cases again
        exact remains.migrate brought
      · cases again

theorem serve_namesStripped {store : Store} (stripped : store.database.NamesStripped)
    (request : Request) : (store.serve request).1.database.NamesStripped := by
  cases request with
  | record username score => exact record_namesStripped stripped username score
  | delete username => exact delete_namesStripped stripped username
  | reopen =>
      dsimp only [serve]
      cases again : store.reopen with
      | ok later => exact reopen_namesStripped stripped again
      | error cause => exact stripped
  | _ => exact stripped

theorem serveAll_namesStripped {store : Store} (stripped : store.database.NamesStripped)
    (requests : List Request) : (store.serveAll requests).1.database.NamesStripped := by
  induction requests generalizing store with
  | nil => exact stripped
  | cons request rest inductionHypothesis =>
      exact inductionHypothesis (serve_namesStripped stripped request)

end Store
end ModalDrill
