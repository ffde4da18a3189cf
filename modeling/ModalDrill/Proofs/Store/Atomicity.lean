import ModalDrill.Proofs.Store.Migration

namespace ModalDrill
namespace Store

/-!
# Games recorded as a whole

A recorded game is one row of either table.  The two writes take different numbers:
a score below the least storable one counts as zero for its player, so that the
first write succeeds where the second one fails.  The store is then as it was before
both.  This holds of every open store that came from an empty one, through whatever
was recorded, deleted, closed and reopened in between.
-/

/-! ## Why a game is refused -/

/-- The name of a player: a text without the blanks around it, which is not empty. -/
inductive Names : Json -> CodeText -> Prop
  | text {text : CodeText} (filled : Text.strip text.toString ≠ "") : Names (.text text) text.strip

theorem Names.unique {username : Json} {first second : CodeText} (named : Names username first)
    (again : Names username second) : first = second := by
  cases named
  cases again
  rfl

/-- Why a game is refused: first its name is looked at, then what its score is, then
whether the name has a form in bytes, and then how large the score is. -/
inductive Refusal (username score : Json) : StoreError -> Prop
  | nameless (nobody : forall name, ¬ Names username name) :
      Refusal username score .usernameRequired
  | scoreless {name : CodeText} (named : Names username name)
      (other : forall value, score ≠ .integer value) : Refusal username score .scoreNotInteger
  | unencodable {name : CodeText} {value : Int} (named : Names username name)
      (scored : score = .integer value) (halves : name.isEncodable = false) :
      Refusal username score (.unencodable name)
  | outside {name : CodeText} {value : Int} (named : Names username name)
      (scored : score = .integer value) (encodable : name.isEncodable = true)
      (far : value < -integerBound ∨ integerBound ≤ value) :
      Refusal username score .integerOutOfRange

/-- There is never more than one reason. -/
theorem Refusal.unique {username score : Json} {first second : StoreError}
    (why : Refusal username score first) (again : Refusal username score second) :
    first = second := by
  cases why with
  | nameless nobody =>
      cases again with
      | nameless => rfl
      | scoreless named => exact absurd named (nobody _)
      | unencodable named => exact absurd named (nobody _)
      | outside named => exact absurd named (nobody _)
  | scoreless named other =>
      cases again with
      | nameless nobody => exact absurd named (nobody _)
      | scoreless => rfl
      | unencodable _ scored => exact absurd scored (other _)
      | outside _ scored => exact absurd scored (other _)
  | unencodable named scored halves =>
      cases again with
      | nameless nobody => exact absurd named (nobody _)
      | scoreless _ other => exact absurd scored (other _)
      | unencodable named' => rw [named.unique named']
      | outside named' _ encodable =>
          rw [named.unique named', encodable] at halves
          cases halves
  | outside named scored encodable =>
      cases again with
      | nameless nobody => exact absurd named (nobody _)
      | scoreless _ other => exact absurd scored (other _)
      | unencodable named' _ halves =>
          rw [named'.unique named, encodable] at halves
          cases halves
      | outside => rfl

theorem Refusal.not_of_storable {username score : Json} {name : CodeText} {value : Int}
    (named : Names username name) (scored : score = .integer value)
    (encodable : name.isEncodable = true) (fits : storable value = true) (cause : StoreError) :
    ¬ Refusal username score cause := by
  intro why
  have inside := (storable_iff value).mp fits
  cases why with
  | nameless nobody => exact nobody name named
  | scoreless _ other => exact other value scored
  | unencodable named' _ halves =>
      rw [named'.unique named, encodable] at halves
      cases halves
  | outside _ scored' _ far =>
      cases scored.symm.trans scored'
      omega

theorem requiredName_cases (username : Json) :
    (Exists fun name => Names username name ∧ requiredName username = .ok name) ∨
      (forall name, ¬ Names username name) ∧ requiredName username = .error .usernameRequired := by
  cases username with
  | text text =>
      unfold requiredName
      dsimp only
      by_cases empty : Text.strip text.toString = ""
      · rw [if_pos empty]
        refine Or.inr ⟨?_, rfl⟩
        rintro name ⟨filled⟩
        exact filled empty
      · rw [if_neg empty]
        exact Or.inl ⟨_, .text empty, rfl⟩
  | _ =>
      refine Or.inr ⟨?_, rfl⟩
      intro name named
      cases named

theorem requiredScore_cases (score : Json) :
    (Exists fun value => score = .integer value ∧ requiredScore score = .ok value) ∨
      (forall value, score ≠ .integer value) ∧ requiredScore score = .error .scoreNotInteger := by
  cases score with
  | integer value => exact Or.inl ⟨value, rfl, rfl⟩
  | _ => exact Or.inr ⟨nofun, rfl⟩

/-! ## What a request to record comes to -/

/-- The ends of a request to record: a reason with the store as it was, or both
rows of the game. -/
inductive Recorded (store : Store) (tables : Tables) (username score : Json) :
    Store × Except StoreError PlayerStats -> Prop
  | refused {cause : StoreError} (why : Refusal username score cause) :
      Recorded store tables username score (store, .error cause)
  | added {name : CodeText} {value : Int} (named : Names username name)
      (scored : score = .integer value) (encodable : name.isEncodable = true)
      (fits : storable value = true) :
      Recorded store tables username score
        (store.withTables (tables.added name.toString value),
          .ok (countedOnce name.toString value (tables.player? name.toString)))

theorem record_recorded {store : Store} {tables : Tables} (connected : store.tables = .ok tables)
    (writable : store.writable = true) (username score : Json) :
    Recorded store tables username score (store.record username score) := by
  unfold record
  rcases requiredName_cases username with ⟨name, named, checked⟩ | ⟨nobody, checked⟩
  · rcases requiredScore_cases score with ⟨value, scored, checked'⟩ | ⟨other, checked'⟩
    · rw [checked, checked']
      dsimp only
      rw [addGame_eq connected]
      by_cases encodable : name.isEncodable = true
      · by_cases fits : storable value = true
        · rw [if_pos encodable, if_pos fits, if_pos writable]
          exact .added named scored encodable fits
        · rw [if_pos encodable, if_neg fits]
          refine .refused (.outside named scored encodable ?_)
          rw [storable_iff] at fits
          omega
      · rw [if_neg encodable]
        exact .refused (.unencodable named scored (Bool.eq_false_iff.mpr encodable))
    · rw [checked, checked']
      exact .refused (.scoreless named other)
  · rw [checked]
    exact .refused (.nameless nobody)

end Store

/-! ## The two writes -/

namespace Tables

/-- One more game makes another row of a player. -/
theorem countedOnce_ne (username : String) (score : Int) (before : Option PlayerStats) :
    before ≠ some (countedOnce username score before) := by
  cases before with
  | none => exact nofun
  | some stats =>
      intro same
      have played : stats.timesPlayed = stats.timesPlayed + 1 :=
        congrArg PlayerStats.timesPlayed (Option.some.inj same)
      omega

/-- A game with a score below all that can be stored gets as far as the row of its
player, where it counts as zero, and no further. -/
theorem halfway (tables : Tables) (username : String) {score : Int}
    (low : score < -integerBound) :
    Exists fun counted => tables.countPlayer username (max 0 score) = .ok counted ∧
      counted.player? username = some (countedOnce username 0 (tables.player? username)) ∧
      counted.player? username ≠ tables.player? username ∧
      counted.appendGame username score = .error .integerOutOfRange := by
  have zero : max 0 score = 0 := by
    unfold integerBound at low
    omega
  have fails : ¬ storable score = true := by
    rw [storable_iff]
    omega
  -- The row is the one that a whole game with no points would write.
  have row : (tables.added username 0).player? username =
      some (countedOnce username 0 (tables.player? username)) :=
    tables.player?_added_self username 0
  have fits : storable 0 = true := by decide
  refine ⟨{ tables with players := countGame username 0 tables.players }, ?_, row, ?_, ?_⟩
  · rw [zero, countPlayer, if_pos fits]
  · exact fun same => countedOnce_ne username 0 _ (same.symm.trans row)
  · rw [appendGame, if_neg fails]

/-- In the player table one more game replaces the row of its player. -/
theorem Holds.mem_players_added_iff {tables : Tables} {games : List GameRecord}
    (holds : tables.Holds games) (username : String) (score : Int) (row : PlayerStats) :
    row ∈ (tables.added username score).players ↔
      row = countedOnce username score (tables.player? username) ∨
        row ∈ tables.players ∧ row.username ≠ username := by
  rw [(holds.added username score).mem_players_iff, holds.mem_players_iff, holds.player?_eq]
  have name_eq : (countedOnce username score (aggregate? games username)).username = username := by
    cases aggregate? games username <;> rfl
  by_cases same : row.username = username
  · rw [same, aggregate?_append_self, Option.some.injEq, eq_comm]
    exact (or_iff_left fun other => other.2 rfl).symm
  · rw [aggregate?_append_other games (Ne.symm same)]
    refine ⟨fun kept => Or.inr ⟨kept, same⟩, ?_⟩
    rintro (rfl | kept)
    · exact absurd name_eq same
    · exact kept.1

end Tables

namespace Store

/-! ## Stores that came from an empty one -/

/-- A writable store that has its tables, open or closed. -/
structure Bears (store : Store) : Prop where
  writable : store.writable = true
  filled : Exists fun tables => Exists fun games =>
    store.database.tables = some tables ∧ tables.Holds games

theorem Bears.of_keeps {store : Store} {games : List GameRecord} (keeps : store.Keeps games)
    (writable : store.writable = true) : store.Bears := by
  rcases keeps with ⟨tables, connected, holds⟩
  exact ⟨writable, tables, games, (isOpen_of_tables connected).2, holds⟩

/-- No version takes tables away. -/
theorem foldl_apply_of_tables {database : Database} {tables : Tables}
    (filled : database.tables = some tables) (versions : List Int) :
    (versions.foldl Database.apply database).tables = some tables := by
  induction versions generalizing database with
  | nil => exact filled
  | cons version rest inductionHypothesis =>
      refine inductionHypothesis ?_
      rw [Database.apply, filled]
      dsimp only [Option.getD]
      split <;> rfl

theorem connect_of_tables {database : Database} {tables : Tables}
    (filled : database.tables = some tables) {durable writable : Bool} {later : Store}
    (connected : connect durable writable database = .ok later) :
    later.writable = writable ∧ later.database.tables = some tables := by
  unfold connect Database.migrate at connected
  split at connected
  · cases connected
  · next migrated =>
      split at migrated
      · cases migrated
      · cases migrated
        split at connected
        · cases connected
          exact ⟨rfl, foldl_apply_of_tables filled _⟩
        · cases connected

theorem Bears.reopened {store later : Store} (bears : store.Bears)
    (again : store.reopen = .ok later) : later.Bears := by
  cases durable : store.durable with
  | true =>
      rcases bears.filled with ⟨tables, games, filled, holds⟩
      have remains : store.remains = store.database := if_pos durable
      rw [Store.reopen, remains] at again
      rcases connect_of_tables filled again with ⟨writable, filled'⟩
      exact ⟨writable.trans bears.writable, tables, games, filled', holds⟩
  | false =>
      have passes : store.Passes := ⟨durable, bears.writable⟩
      rw [passes.reopen, inMemory_eq] at again
      cases again
      exact ⟨rfl, Tables.empty, [], rfl, Tables.empty_holds⟩

theorem Bears.serve {store : Store} (bears : store.Bears) (request : Request) :
    (store.serve request).1.Bears := by
  have closed_bears : store.close.Bears := ⟨bears.writable, bears.filled⟩
  by_cases reopens : request = .reopen
  · subst reopens
    dsimp only [Store.serve]
    cases again : store.reopen with
    | ok later => exact bears.reopened again
    | error cause => exact closed_bears
  · by_cases closes : request = .close
    · subst closes
      exact closed_bears
    · cases isOpen : store.isOpen with
      | false =>
          have stays : request.isReopen = false := by
            cases request with
            | reopen => exact absurd rfl reopens
            | _ => rfl
          rw [(serve_of_closed isOpen stays).1]
          exact bears
      | true =>
          have keepsOpen : request.keepsOpen = true := by
            cases request with
            | reopen => exact absurd rfl reopens
            | close => exact absurd rfl closes
            | _ => rfl
          rcases bears.filled with ⟨tables, games, filled, holds⟩
          have kept := serve_keeps ⟨tables, tables_of_isOpen filled isOpen, holds⟩ keepsOpen
          exact .of_keeps kept.1 (kept.2.trans bears.writable)

theorem Bears.serveAll {store : Store} (bears : store.Bears) (requests : List Request) :
    (store.serveAll requests).1.Bears := by
  induction requests generalizing store with
  | nil => exact bears
  | cons request rest inductionHypothesis => exact inductionHypothesis (bears.serve request)

/-! ## The whole or nothing -/

/-- A request to record a game, with a store and its tables before it. -/
structure WholeOrNothing (store : Store) (tables : Tables) (username score : Json) : Prop where
  /-- It is refused exactly for the reasons there are. -/
  error_iff : forall cause,
    (store.record username score).2 = .error cause ↔ Refusal username score cause
  /-- A refusal leaves the store as it was, so no later answer shows it. -/
  nothing : forall cause, (store.record username score).2 = .error cause ->
    (store.record username score).1 = store
  /-- So it is even when the row of the player has been written already. -/
  halfway : forall (name : CodeText) (value : Int), Names username name ->
    name.isEncodable = true -> score = .integer value -> value < -integerBound ->
      (store.record username score).1 = store ∧
      Exists fun counted => tables.countPlayer name.toString (max 0 value) = .ok counted ∧
        counted.player? name.toString =
          some (countedOnce name.toString 0 (tables.player? name.toString)) ∧
        counted.player? name.toString ≠ tables.player? name.toString ∧
        counted.appendGame name.toString value = .error .integerOutOfRange
  /-- Otherwise there is one more game, and one row of a player is another. -/
  whole : forall stats, (store.record username score).2 = .ok stats ->
    Exists fun name => Exists fun value => Exists fun changed : Tables =>
      Names username name ∧ name.isEncodable = true ∧ score = .integer value ∧
        storable value = true ∧
        (store.record username score).1 = store.withTables changed ∧
        (store.record username score).1.tables = .ok changed ∧
        changed.games = tables.games ++ [⟨name.toString, value⟩] ∧
        stats = countedOnce name.toString value (tables.player? name.toString) ∧
        tables.player? name.toString ≠ some stats ∧
        forall row, row ∈ changed.players ↔
          row = stats ∨ row ∈ tables.players ∧ row.username ≠ name.toString

theorem record_wholeOrNothing {store : Store} {tables : Tables} {games : List GameRecord}
    (connected : store.tables = .ok tables) (holds : tables.Holds games)
    (writable : store.writable = true) (username score : Json) :
    store.WholeOrNothing tables username score := by
  have recorded := record_recorded connected writable username score
  generalize result : store.record username score = ended at recorded
  cases recorded with
  | refused why =>
      refine ⟨?_, ?_, ?_, ?_⟩ <;> rw [result]
      · intro cause
        refine ⟨fun same => ?_, fun other => congrArg Except.error (why.unique other)⟩
        cases same
        exact why
      · exact fun _ _ => rfl
      · exact fun name value _ _ _ low => ⟨rfl, tables.halfway name.toString low⟩
      · exact nofun
  | @added name value named scored encodable fits =>
      refine ⟨?_, ?_, ?_, ?_⟩ <;> rw [result]
      · exact fun cause => ⟨nofun, fun why =>
          absurd why (Refusal.not_of_storable named scored encodable fits cause)⟩
      · exact nofun
      · intro name' value' _ _ scored' low
        cases scored.symm.trans scored'
        rw [storable_iff] at fits
        omega
      · intro stats same
        cases same
        exact ⟨name, value, _, named, encodable, scored, fits, rfl, withTables_tables connected _,
          rfl, rfl, Tables.countedOnce_ne name.toString value _,
          holds.mem_players_added_iff name.toString value⟩

/-- Whatever was asked of a store since it was empty: as long as it is open, it
records a game as a whole or not at all. -/
theorem record_all_or_nothing (start : Store) (connected : start.tables = .ok Tables.empty)
    (writable : start.writable = true) (requests : List Request)
    (isOpen : (start.serveAll requests).1.isOpen = true) :
    Exists fun tables => (start.serveAll requests).1.tables = .ok tables ∧
      forall username score, (start.serveAll requests).1.WholeOrNothing tables username score := by
  have bears : start.Bears :=
    .of_keeps ⟨Tables.empty, connected, Tables.empty_holds⟩ writable
  have reached := bears.serveAll requests
  rcases reached.filled with ⟨tables, games, filled, holds⟩
  have connected' := tables_of_isOpen filled isOpen
  exact ⟨tables, connected', record_wholeOrNothing connected' holds reached.writable⟩

/-- Right below the least storable score: the row of a player who is there already
would be counted up, and the store stays as it is, closed and reopened in between. -/
theorem record_all_or_nothing_below :
    let start : Store := ⟨⟨1, [1], some Tables.empty⟩, true, true, true⟩
    let ann : Json := .text (CodeText.ofString "ann")
    let requests : List Request := [.record ann (.integer 3), .close, .reopen]
    start.tables = .ok Tables.empty ∧ start.writable = true ∧
      (start.serveAll requests).1.isOpen = true ∧
      ((start.serveAll requests).1.record ann (.integer (-integerBound - 1))).2 =
        .error .integerOutOfRange ∧
      ((start.serveAll requests).1.record ann (.integer (-integerBound - 1))).1 =
        (start.serveAll requests).1 := by
  intro start ann requests
  have isOpen : (start.serveAll requests).1.isOpen = true := by decide +kernel
  rcases record_all_or_nothing start rfl rfl requests isOpen with ⟨tables, _, whole⟩
  have named : Names ann (CodeText.ofString "ann").strip := .text (by decide +kernel)
  have refused := ((whole ann (.integer (-integerBound - 1))).error_iff .integerOutOfRange).mpr
    (.outside named rfl (by decide) (Or.inl (by decide)))
  exact ⟨rfl, rfl, isOpen, refused, (whole ann _).nothing _ refused⟩

/-- Two games that are refused although their names are not blank and their scores can
be stored: one under half a pair of surrogates, and one in a database that has the schema
version but not the tables. -/
theorem storable_game_refused :
    let start : Store := ⟨⟨1, [1], some Tables.empty⟩, true, true, true⟩
    let half : CodeText := ⟨[.surrogate 0xD800]⟩
    let bare : Store := ⟨Database.stamped 1, true, true, true⟩
    let ann : CodeText := CodeText.ofString "ann"
    storable 1 = true ∧
    (start.tables = .ok Tables.empty ∧ Text.strip half.toString ≠ "" ∧
      start.record (.text half) (.integer 1) = (start, .error (.unencodable half))) ∧
    connect true true (Database.stamped 1) = .ok bare ∧ Text.strip ann.toString ≠ "" ∧
      bare.record (.text ann) (.integer 1) = (bare, .error .missingTable) := by
  decide +kernel

end Store
end ModalDrill
