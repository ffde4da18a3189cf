import Mathlib.Data.List.Range
import ModalDrill.Proofs.Store.Log

namespace ModalDrill

/-!
# Migrations and reopening

A database is brought forward one version after the other, and each version that
is applied is written down.  After that it never changes its version again, so
that opening it once more finds nothing to do.  A durable store goes on after a
reopening where it was, and one in memory starts anew.
-/

namespace Database

/-- A database with nothing but a version. -/
def bare (version : Int) : Database :=
  ⟨version, [], none⟩

theorem bare_older {version : Int} (old : version ≤ 0) :
    (bare version).version < schemaVersion :=
  Int.lt_add_one_of_le old

/-! ## The versions to be applied -/

theorem mem_pending (database : Database) (version : Int) :
    version ∈ database.pending ↔ database.version < version ∧ version ≤ schemaVersion := by
  unfold pending
  rw [List.mem_map]
  constructor
  · rintro ⟨step, listed, rfl⟩
    rw [List.mem_range] at listed
    omega
  · rintro ⟨above, supported⟩
    refine ⟨(version - database.version - 1).toNat, ?_, ?_⟩
    · rw [List.mem_range]
      omega
    · omega

theorem pending_pairwise (database : Database) : database.pending.Pairwise (· < ·) := by
  refine List.pairwise_map.mpr (List.pairwise_lt_range.imp ?_)
  intro earlier later order
  omega

/-- The last version to be applied makes the tables. -/
theorem pending_eq_append {database : Database} (older : database.version < schemaVersion) :
    Exists fun earlier => database.pending = earlier ++ [schemaVersion] ∧
      schemaVersion ∉ earlier := by
  have ordered := database.pending_pairwise
  have steps : Exists fun count : Nat => (schemaVersion - database.version).toNat = count + 1 :=
    ⟨(schemaVersion - database.version - 1).toNat, by omega⟩
  rcases steps with ⟨count, steps⟩
  have last : database.version + 1 + (count : Int) = schemaVersion := by omega
  unfold pending at ordered ⊢
  rw [steps, List.range_succ, List.map_append, List.map_singleton, last] at ordered ⊢
  refine ⟨_, rfl, ?_⟩
  intro listed
  exact Int.lt_irrefl _
    ((List.pairwise_append.mp ordered).2.2 _ listed _ (List.mem_singleton.mpr rfl))

/-! ## Applying versions -/

/-- One more version that was never applied is written down behind the others. -/
theorem apply_migrations {database : Database} {version : Int}
    (fresh : version ∉ database.migrations) :
    (database.apply version).migrations = database.migrations ++ [version] := by
  have others : database.migrations.filter (· != version) = database.migrations := by
    refine List.filter_eq_self.mpr fun applied listed => ?_
    rw [bne_iff_ne]
    rintro rfl
    exact fresh listed
  rw [apply, others]

theorem foldl_apply_migrations {versions : List Int} {database : Database}
    (distinct : versions.Nodup) (fresh : forall version, version ∈ versions ->
      version ∉ database.migrations) :
    (versions.foldl apply database).migrations = database.migrations ++ versions := by
  induction versions generalizing database with
  | nil => exact (List.append_nil _).symm
  | cons version rest inductionHypothesis =>
      have parts := List.nodup_cons.mp distinct
      have written := apply_migrations (fresh version List.mem_cons_self)
      rw [List.foldl_cons, inductionHypothesis parts.2, written, List.append_assoc]
      · rfl
      · intro later listed
        rw [written, List.mem_append, not_or, List.mem_singleton]
        refine ⟨fresh later (List.mem_cons_of_mem _ listed), ?_⟩
        rintro rfl
        exact parts.1 listed

/-- Only the first version makes tables. -/
theorem foldl_apply_tables {versions : List Int} {database : Database}
    (absent : schemaVersion ∉ versions) :
    (versions.foldl apply database).tables = database.tables := by
  induction versions generalizing database with
  | nil => rfl
  | cons version rest inductionHypothesis =>
      rw [List.mem_cons, not_or] at absent
      rw [List.foldl_cons, inductionHypothesis absent.2, apply]
      exact if_neg (Ne.symm absent.1)

/-- A database with nothing but an old version gets empty tables, and all versions
after its own are written down. -/
theorem migrate_bare {version : Int} (old : version ≤ 0) :
    (bare version).migrate = .ok ⟨schemaVersion, (bare version).pending, some Tables.empty⟩ := by
  have older := bare_older old
  have distinct : (bare version).pending.Nodup :=
    (bare version).pending_pairwise.imp fun order => Int.ne_of_lt order
  have migrations : ((bare version).pending.foldl apply (bare version)).migrations =
      (bare version).pending :=
    foldl_apply_migrations distinct fun _ _ => List.not_mem_nil
  rcases pending_eq_append older with ⟨earlier, split, absent⟩
  have whole : (bare version).pending.foldl apply (bare version) =
      (earlier.foldl apply (bare version)).apply schemaVersion := by
    rw [split, List.foldl_append, List.foldl_cons, List.foldl_nil]
  have tables : ((bare version).pending.foldl apply (bare version)).tables =
      some Tables.empty := by
    rw [whole, apply, foldl_apply_tables absent]
    rfl
  have version_eq : ((bare version).pending.foldl apply (bare version)).version =
      schemaVersion := by
    rw [whole, apply]
  rw [migrate, if_neg (Int.not_lt.mpr (Int.le_of_lt older))]
  generalize (bare version).pending.foldl apply (bare version) = migrated at *
  cases migrated
  cases tables
  cases version_eq
  cases migrations
  rfl

theorem migrate_of_current {database : Database} (current : database.version = schemaVersion) :
    database.migrate = .ok database ∧ database.pending = [] := by
  have none : database.pending = [] := by
    refine List.eq_nil_iff_forall_not_mem.mpr fun version listed => ?_
    have between := (database.mem_pending version).mp listed
    omega
  refine ⟨?_, none⟩
  rw [migrate, none, current, if_neg (Int.lt_irrefl _)]
  rfl

/-- A database of a later version is refused. -/
theorem migrate_of_newer {database : Database} (newer : schemaVersion < database.version) :
    database.migrate = .error (.unsupportedVersion database.version) :=
  if_pos newer

end Database

namespace Store

/-! ## Connecting -/

theorem connect_of_current {database : Database} (current : database.version = schemaVersion)
    (durable writable : Bool) :
    connect durable writable database = .ok ⟨database, durable, writable, true⟩ := by
  rcases Database.migrate_of_current current with ⟨migrated, pending⟩
  rw [connect, migrated, pending, List.isEmpty_nil, Bool.or_true]
  rfl

/-- An old database must be written to be brought forward. -/
theorem connect_bare {version : Int} (old : version ≤ 0) (durable writable : Bool) :
    connect durable writable (Database.bare version) =
      if writable then
        .ok ⟨⟨schemaVersion, (Database.bare version).pending, some Tables.empty⟩, durable, true, true⟩
      else .error .readOnly := by
  have older : (Database.bare version).version < schemaVersion := Database.bare_older old
  have waiting : (Database.bare version).pending.isEmpty = false := by
    rcases Database.pending_eq_append older with ⟨earlier, split, _⟩
    rw [split, List.isEmpty_eq_false_iff]
    exact List.append_ne_nil_of_right_ne_nil _ (List.cons_ne_nil _ _)
  rw [connect, Database.migrate_bare old, waiting, Bool.or_false]
  cases writable <;> rfl

/-! ## One request -/

/-- Does a request connect anew? -/
def Request.isReopen : Request -> Bool
  | .reopen => true
  | _ => false

/-- What a request leaves of a store: the same store, other tables in it, a closed
store, or what the database is opened as again. -/
inductive Served (store : Store) : Request -> Store -> Prop
  | kept (request : Request) : Served store request store
  | written (request : Request) (tables : Tables) : Served store request (store.withTables tables)
  | closed : Served store .close store.close
  | reopened {later : Store} (again : store.reopen = .ok later) : Served store .reopen later
  | lost {cause : StoreError} (failed : store.reopen = .error cause) :
      Served store .reopen store.close

theorem transact_cases (store : Store) (change : Tables -> Except StoreError Tables) :
    (store.transact change).1 = store ∨
      Exists fun tables => (store.transact change).1 = store.withTables tables := by
  unfold transact
  split
  · exact Or.inl rfl
  · split
    · exact Or.inl rfl
    · split
      · exact Or.inr ⟨_, rfl⟩
      · exact Or.inl rfl

theorem addGame_store (store : Store) (name : CodeText) (score : Int) :
    (store.addGame name score).1 = (store.transact (writeGame name score)).1 := by
  unfold addGame
  generalize store.transact (writeGame name score) = result
  rcases result with ⟨later, cause | tables⟩
  · rfl
  · dsimp only
    split <;> rfl

theorem record_served (store : Store) (username score : Json) :
    store.Served (.record username score) (store.record username score).1 := by
  unfold record
  cases requiredName username with
  | error cause => exact .kept _
  | ok name =>
      cases requiredScore score with
      | error cause => exact .kept _
      | ok value =>
          dsimp only
          rw [addGame_store]
          rcases store.transact_cases (writeGame name value) with same | ⟨tables, changed⟩
          · rw [same]
            exact .kept _
          · rw [changed]
            exact .written _ tables

theorem delete_served (store : Store) (username : Json) :
    store.Served (.delete username) (store.delete username).1 := by
  unfold delete
  split
  · exact .kept _
  · split
    · exact .kept _
    · split
      · exact .kept _
      · split
        · exact .written _ _
        · exact .kept _

theorem serve_served (store : Store) (request : Request) :
    store.Served request (store.serve request).1 := by
  cases request with
  | record username score => exact store.record_served username score
  | delete username => exact store.delete_served username
  | player username => exact .kept _
  | top limit => exact .kept _
  | recent username limit => exact .kept _
  | schema => exact .kept _
  | close => exact .closed
  | reopen =>
      dsimp only [serve]
      cases again : store.reopen with
      | ok later => exact .reopened again
      | error cause => exact .lost again

/-- What every request keeps holds after any run of requests. -/
theorem serveAll_keeping {Holds : Store -> Prop}
    (keeps : forall (store later : Store) (request : Request), Holds store ->
      store.Served request later -> Holds later) {store : Store} (holds : Holds store)
    (requests : List Request) : Holds (store.serveAll requests).1 := by
  induction requests generalizing store with
  | nil => exact holds
  | cons request rest inductionHypothesis =>
      exact inductionHypothesis (keeps store _ request holds (store.serve_served request))

/-! ## Closed stores -/

/-- Why a closed store gives no answer: it is closed, or the arguments are refused
before the database is touched, as by any store. -/
def Refuses (request : Request) (cause : StoreError) : Prop :=
  cause = .closed ∨ forall store : Store, (store.serve request).2 = .error cause

theorem tables_of_closed {store : Store} (closed : store.isOpen = false) :
    store.tables = .error .closed := by
  rw [tables, opened, closed]
  rfl

/-- A closed store serves nothing: it stays as it is, and every answer but the one to
another closing is a refusal. -/
theorem serve_of_closed {store : Store} (closed : store.isOpen = false) {request : Request}
    (stays : request.isReopen = false) :
    (store.serve request).1 = store ∧
      (request = .close ∨
        Exists fun cause => (store.serve request).2 = .error cause ∧ Refuses request cause) := by
  have without := tables_of_closed closed
  cases request with
  | close =>
      refine ⟨?_, Or.inl rfl⟩
      change store.close = store
      rw [close, ← closed]
  | reopen => cases stays
  | schema =>
      refine ⟨rfl, Or.inr ⟨.closed, ?_, Or.inl rfl⟩⟩
      dsimp only [serve]
      rw [opened, closed]
      rfl
  | player username =>
      refine ⟨rfl, Or.inr ?_⟩
      dsimp only [Refuses, serve, player?]
      cases soughtName username with
      | error cause => exact ⟨cause, rfl, Or.inr fun _ => rfl⟩
      | ok name =>
          refine ⟨.closed, ?_, Or.inl rfl⟩
          rw [without]
          rfl
  | top limit =>
      refine ⟨rfl, Or.inr ?_⟩
      dsimp only [Refuses, serve, top]
      cases Limit.ofJson limit with
      | error cause => exact ⟨cause, rfl, Or.inr fun _ => rfl⟩
      | ok limit =>
          refine ⟨.closed, ?_, Or.inl rfl⟩
          rw [without]
          rfl
  | recent username limit =>
      refine ⟨rfl, Or.inr ?_⟩
      dsimp only [Refuses, serve, recent]
      cases soughtName username with
      | error cause => exact ⟨cause, rfl, Or.inr fun _ => rfl⟩
      | ok name =>
          cases Limit.ofJson limit with
          | error cause => exact ⟨cause, rfl, Or.inr fun _ => rfl⟩
          | ok limit =>
              refine ⟨.closed, ?_, Or.inl rfl⟩
              rw [without]
              rfl
  | delete username =>
      dsimp only [Refuses, serve, delete]
      cases soughtName username with
      | error cause => exact ⟨rfl, Or.inr ⟨cause, rfl, Or.inr fun _ => rfl⟩⟩
      | ok name =>
          rw [without]
          exact ⟨rfl, Or.inr ⟨.closed, rfl, Or.inl rfl⟩⟩
  | record username score =>
      dsimp only [Refuses, serve, record]
      cases requiredName username with
      | error cause => exact ⟨rfl, Or.inr ⟨cause, rfl, Or.inr fun _ => rfl⟩⟩
      | ok name =>
          cases requiredScore score with
          | error cause => exact ⟨rfl, Or.inr ⟨cause, rfl, Or.inr fun _ => rfl⟩⟩
          | ok value =>
              dsimp only [addGame, transact]
              rw [without]
              exact ⟨rfl, Or.inr ⟨.closed, rfl, Or.inl rfl⟩⟩

theorem serveAll_of_closed {store : Store} (closed : store.isOpen = false)
    {requests : List Request}
    (stay : forall request, request ∈ requests -> request.isReopen = false) :
    (store.serveAll requests).1 = store := by
  induction requests with
  | nil => rfl
  | cons request rest inductionHypothesis =>
      have first := (serve_of_closed closed (stay request List.mem_cons_self)).1
      dsimp only [serveAll]
      rw [first]
      exact inductionHypothesis fun later listed => stay later (List.mem_cons_of_mem _ listed)

/-! ## Runs of requests -/

/-- A durable store of the present version, with the versions that were applied. -/
structure Lasts (versions : List Int) (store : Store) : Prop where
  durable : store.durable = true
  version_eq : store.database.version = schemaVersion
  migrations_eq : store.database.migrations = versions
  filled : store.database.tables.isSome = true

/-- Reopening a durable store opens it, and changes nothing else. -/
theorem Lasts.reopen {versions : List Int} {store : Store} (lasts : store.Lasts versions) :
    store.reopen = .ok { store with isOpen := true } := by
  have remains : store.remains = store.database := if_pos lasts.durable
  rw [Store.reopen, remains]
  exact connect_of_current lasts.version_eq store.durable store.writable

theorem Lasts.served {versions : List Int} {store later : Store} (lasts : store.Lasts versions)
    {request : Request} (served : store.Served request later) : later.Lasts versions := by
  cases served with
  | kept => exact lasts
  | written request tables =>
      exact ⟨lasts.durable, lasts.version_eq, lasts.migrations_eq, rfl⟩
  | closed => exact ⟨lasts.durable, lasts.version_eq, lasts.migrations_eq, lasts.filled⟩
  | reopened again =>
      rw [lasts.reopen] at again
      cases again
      exact ⟨lasts.durable, lasts.version_eq, lasts.migrations_eq, lasts.filled⟩
  | lost failed =>
      rw [lasts.reopen] at failed
      cases failed

theorem Lasts.serveAll {versions : List Int} {store : Store} (lasts : store.Lasts versions)
    (requests : List Request) : (store.serveAll requests).1.Lasts versions :=
  serveAll_keeping (fun _ _ _ lasts served => lasts.served served) lasts requests

/-- A store in memory that may be written. -/
structure Passes (store : Store) : Prop where
  volatile : store.durable = false
  writable : store.writable = true

theorem Passes.reopen {store : Store} (passes : store.Passes) : store.reopen = inMemory := by
  have remains : store.remains = Database.blank :=
    if_neg (Bool.eq_false_iff.mp passes.volatile)
  rw [Store.reopen, remains, passes.volatile, passes.writable]
  rfl

/-- The empty store that every opening in memory gives. -/
theorem inMemory_eq :
    inMemory = .ok ⟨⟨schemaVersion, (Database.bare 0).pending, some Tables.empty⟩, false, true,
      true⟩ :=
  connect_bare (Int.le_refl 0) false true

theorem Passes.served {store later : Store} (passes : store.Passes) {request : Request}
    (served : store.Served request later) : later.Passes := by
  cases served with
  | kept => exact passes
  | written => exact ⟨passes.volatile, passes.writable⟩
  | closed => exact ⟨passes.volatile, passes.writable⟩
  | reopened again =>
      rw [passes.reopen, inMemory_eq] at again
      cases again
      exact ⟨rfl, rfl⟩
  | lost => exact ⟨passes.volatile, passes.writable⟩

theorem Passes.serveAll {store : Store} (passes : store.Passes) (requests : List Request) :
    (store.serveAll requests).1.Passes :=
  serveAll_keeping (fun _ _ _ passes served => passes.served served) passes requests

/-! ## What reopening shows -/

theorem serve_reopen {store later : Store} (again : store.reopen = .ok later) :
    store.serve .reopen = (later, .ok .done) := by
  dsimp only [serve]
  rw [again]

/-- No opening of a store shows anything but what it held before it was closed.
Whatever is asked in between is refused and leaves no trace, and the schema is that
of the first opening. -/
structure Endures (versions : List Int) (store : Store) : Prop where
  schema : ({ store with isOpen := true }.serve .schema).2 = .ok (.schema 1 versions)
  reopens : store.serve .reopen = ({ store with isOpen := true }, .ok .done)
  invisible : store.isOpen = true -> forall calls : List Request,
    (forall call, call ∈ calls -> call.isReopen = false) ->
      (store.close.serveAll calls).1.serve .reopen = (store, .ok .done)
  refuses : store.isOpen = false -> forall request : Request, request.isReopen = false ->
    (store.serve request).1 = store ∧
      (request = .close ∨
        Exists fun cause => (store.serve request).2 = .error cause ∧ Refuses request cause)

theorem Lasts.endures {versions : List Int} {store : Store} (lasts : store.Lasts versions) :
    store.Endures versions where
  schema := by
    change Except.ok (Answer.schema store.database.version store.database.migrations) = _
    rw [lasts.version_eq, lasts.migrations_eq]
    rfl
  reopens := serve_reopen lasts.reopen
  invisible := by
    intro isOpen calls stay
    have closed : store.close.Lasts versions := lasts.served .closed
    rw [serveAll_of_closed rfl stay, serve_reopen closed.reopen, close, ← isOpen]
  refuses := fun closed request stays => serve_of_closed closed stays

end Store
end ModalDrill
