import ModalDrill.Proofs.Store.Aggregate
import ModalDrill.Proofs.Text.Stripping
import ModalDrill.Store.Basic

namespace ModalDrill

/-!
# The store as a log of games

An open store answers as if it kept nothing but the list of the games that were
recorded and not deleted since.  The list is read off the requests and their
answers alone; each request keeps the tables equal to it, whether it is carried
out or refused.  A name with half a pair of surrogates in it has no form in bytes,
so every request about it is refused.
-/

namespace Store

/-- A store whose tables hold a list of games. -/
def Keeps (store : Store) (games : List GameRecord) : Prop :=
  Exists fun tables => store.tables = .ok tables ∧ tables.Holds games

theorem tables_of_isOpen {store : Store} {tables : Tables}
    (filled : store.database.tables = some tables) (isOpen : store.isOpen = true) :
    store.tables = .ok tables := by
  rw [Store.tables, opened, if_pos isOpen]
  dsimp only
  rw [filled]

theorem isOpen_of_tables {store : Store} {tables : Tables} (connected : store.tables = .ok tables) :
    store.isOpen = true ∧ store.database.tables = some tables := by
  unfold Store.tables opened at connected
  cases isOpen : store.isOpen with
  | false =>
      rw [isOpen] at connected
      cases connected
  | true =>
      rw [isOpen, if_pos rfl] at connected
      dsimp only at connected
      split at connected
      · next found =>
          cases connected
          exact ⟨rfl, found⟩
      · cases connected

theorem withTables_tables {store : Store} {tables : Tables} (connected : store.tables = .ok tables)
    (changed : Tables) : (store.withTables changed).tables = .ok changed :=
  tables_of_isOpen rfl (isOpen_of_tables connected).1

/-- Writing the tables back that are there changes nothing. -/
theorem withTables_of_tables {store : Store} {tables : Tables}
    (filled : store.database.tables = some tables) : store.withTables tables = store := by
  rw [withTables, ← filled]

/-! ## Names -/

/-- The database takes a stripped name if it has a form in bytes. -/
theorem encodedName_strip (name : CodeText) :
    encodedName name.strip =
      if name.isEncodable = true then .ok (Text.strip name.toString)
      else .error (.unencodable name.strip) := by
  rw [encodedName, CodeText.isEncodable_strip, CodeText.toString_strip]

/-! ## Recording -/

/-- What the two writes of a game come to. -/
theorem writeGame_eq (name : CodeText) (score : Int) (tables : Tables) :
    writeGame name score tables =
      if name.isEncodable = true then
        if storable score = true then .ok (tables.added name.toString score)
        else .error .integerOutOfRange
      else .error (.unencodable name) := by
  rw [writeGame, encodedName]
  by_cases encodable : name.isEncodable = true
  · rw [if_pos encodable, if_pos encodable, ← Tables.record_eq]
    rfl
  · rw [if_neg encodable, if_neg encodable]
    rfl

/-- A game is added as a whole if its name has a form in bytes, its score can be
stored and the store may be written, and the answer is the new aggregate of the
player. -/
theorem addGame_eq {store : Store} {tables : Tables} (connected : store.tables = .ok tables)
    (name : CodeText) (score : Int) :
    store.addGame name score =
      if name.isEncodable = true then
        if storable score = true then
          if store.writable = true then
            (store.withTables (tables.added name.toString score),
              .ok (countedOnce name.toString score (tables.player? name.toString)))
          else (store, .error .readOnly)
        else (store, .error .integerOutOfRange)
      else (store, .error (.unencodable name)) := by
  unfold addGame transact
  rw [connected]
  dsimp only
  rw [writeGame_eq]
  by_cases encodable : name.isEncodable = true
  · rw [if_pos encodable, if_pos encodable]
    by_cases fits : storable score = true
    · rw [if_pos fits, if_pos fits]
      by_cases writable : store.writable = true
      · simp only [if_pos writable, tables.player?_added_self]
      · simp only [if_neg writable]
    · simp only [if_neg fits]
  · rw [if_neg encodable, if_neg encodable]

/-- What passes as the name of a player who is recorded. -/
theorem requiredName_eq_ok {username : Json} {name : CodeText}
    (named : requiredName username = .ok name) :
    Exists fun text : CodeText => username = .text text ∧ name = text.strip := by
  unfold requiredName at named
  split at named
  · next text =>
      split at named
      · cases named
      · cases named
        exact ⟨text, rfl, rfl⟩
  · cases named

theorem requiredScore_eq_ok {score : Json} {value : Int}
    (scored : requiredScore score = .ok value) :
    score = .integer value := by
  unfold requiredScore at scored
  split at scored
  · cases scored
    rfl
  · cases scored

/-- What comes of a request to record: a refusal that changes nothing, or one
more game under the stripped name. -/
theorem record_ends {store : Store} {tables : Tables} (connected : store.tables = .ok tables)
    (username score : Json) :
    (Exists fun cause => store.record username score = (store, .error cause)) ∨
      Exists fun name : CodeText => Exists fun value : Int =>
        username = .text name ∧ score = .integer value ∧ name.isEncodable = true ∧
          store.record username score =
            (store.withTables (tables.added (Text.strip name.toString) value),
              .ok (countedOnce (Text.strip name.toString) value
                (tables.player? (Text.strip name.toString)))) := by
  unfold record
  cases named : requiredName username with
  | error cause => exact Or.inl ⟨cause, rfl⟩
  | ok name =>
      cases scored : requiredScore score with
      | error cause => exact Or.inl ⟨cause, rfl⟩
      | ok value =>
          rcases requiredName_eq_ok named with ⟨text, rfl, rfl⟩
          cases requiredScore_eq_ok scored
          dsimp only
          rw [addGame_eq connected, CodeText.isEncodable_strip, CodeText.toString_strip]
          split
          · next encodable =>
              split
              · split
                · exact Or.inr ⟨text, value, rfl, rfl, encodable, rfl⟩
                · exact Or.inl ⟨_, rfl⟩
              · exact Or.inl ⟨_, rfl⟩
          · exact Or.inl ⟨_, rfl⟩

/-- In tables that hold a log, the aggregate of a player is the one of the log. -/
theorem record_cases {store : Store} {tables : Tables} {games : List GameRecord}
    (connected : store.tables = .ok tables) (holds : tables.Holds games) (username score : Json) :
    (Exists fun cause => store.record username score = (store, .error cause)) ∨
      Exists fun name : CodeText => Exists fun value : Int =>
        username = .text name ∧ score = .integer value ∧ name.isEncodable = true ∧
          store.record username score =
            (store.withTables (tables.added (Text.strip name.toString) value),
              .ok (countedOnce (Text.strip name.toString) value
                (aggregate? games (Text.strip name.toString)))) := by
  rcases record_ends connected username score with
    refused | ⟨name, value, text, number, encodable, recorded⟩
  · exact Or.inl refused
  · rw [holds.player?_eq] at recorded
    exact Or.inr ⟨name, value, text, number, encodable, recorded⟩

/-- A game with a name and a score that can be stored is recorded. -/
theorem record_of_valid {store : Store} {tables : Tables} (connected : store.tables = .ok tables)
    (writable : store.writable = true) {name : CodeText} (encodable : name.isEncodable = true)
    (named : Text.strip name.toString ≠ "") {score : Int} (fits : storable score = true) :
    store.record (.text name) (.integer score) =
      (store.withTables (tables.added (Text.strip name.toString) score),
        .ok (countedOnce (Text.strip name.toString) score
          (tables.player? (Text.strip name.toString)))) := by
  unfold record requiredName requiredScore
  dsimp only
  rw [if_neg named]
  dsimp only
  rw [addGame_eq connected, CodeText.isEncodable_strip, CodeText.toString_strip, if_pos encodable,
    if_pos fits, if_pos writable]

/-- A game under a name without a form in bytes is refused, and changes nothing. -/
theorem record_of_unencodable {store : Store} {tables : Tables}
    (connected : store.tables = .ok tables) {name : CodeText} (halves : name.isEncodable = false)
    (named : Text.strip name.toString ≠ "") (score : Int) :
    store.record (.text name) (.integer score) = (store, .error (.unencodable name.strip)) := by
  unfold record requiredName requiredScore
  dsimp only
  rw [if_neg named]
  dsimp only
  rw [addGame_eq connected, CodeText.isEncodable_strip, if_neg (Bool.eq_false_iff.mp halves)]

theorem transact_writable (store : Store) (change : Tables -> Except StoreError Tables) :
    (store.transact change).1.writable = store.writable := by
  unfold transact
  split
  · rfl
  · split
    · rfl
    · split <;> rfl

theorem addGame_writable (store : Store) (name : CodeText) (score : Int) :
    (store.addGame name score).1.writable = store.writable := by
  have kept := store.transact_writable (writeGame name score)
  unfold addGame
  generalize store.transact (writeGame name score) = result at kept ⊢
  rcases result with ⟨later, cause | tables⟩
  · exact kept
  · dsimp only
    split <;> exact kept

/-- No record makes a store writable that is not, or the other way around. -/
theorem record_writable {store later : Store} {username score : Json}
    {answer : Except StoreError PlayerStats}
    (recorded : store.record username score = (later, answer)) :
    later.writable = store.writable := by
  have result : (store.record username score).1.writable = store.writable := by
    unfold record
    split
    · rfl
    · split
      · rfl
      · exact addGame_writable store _ _
  rw [recorded] at result
  exact result

/-! ## Reading -/

theorem player?_eq {store : Store} {tables : Tables} (connected : store.tables = .ok tables)
    (name : CodeText) :
    store.player? (.text name) =
      if name.isEncodable = true then .ok (tables.player? (Text.strip name.toString))
      else .error (.unencodable name.strip) := by
  unfold player? soughtName
  rw [connected]
  dsimp only [bind, Except.bind]
  rw [encodedName_strip]
  by_cases encodable : name.isEncodable = true
  · rw [if_pos encodable, if_pos encodable]
    rfl
  · rw [if_neg encodable, if_neg encodable]

theorem player?_answer {store : Store} {games : List GameRecord} (keeps : store.Keeps games)
    (name : CodeText) :
    store.player? (.text name) =
      if name.isEncodable = true then .ok (aggregate? games (Text.strip name.toString))
      else .error (.unencodable name.strip) := by
  rcases keeps with ⟨tables, connected, holds⟩
  rw [← holds.player?_eq, player?_eq connected]

theorem player?_eq_aggregate? {store : Store} {games : List GameRecord} (keeps : store.Keeps games)
    {name : CodeText} (encodable : name.isEncodable = true) :
    store.player? (.text name) = .ok (aggregate? games (Text.strip name.toString)) := by
  rw [player?_answer keeps, if_pos encodable]

theorem limit_resolves {limit : Int} (small : limit < integerBound) :
    Limit.ofJson (.integer limit) = .ok (.count (max 0 limit)) ∧
      (Limit.count (max 0 limit)).resolve = .ok (max 0 limit).toNat := by
  have fits : storable (max 0 limit) = true := by
    rw [storable_iff]
    unfold integerBound at small ⊢
    omega
  exact ⟨rfl, if_pos fits⟩

/-- The latest games of a player are the latest scores under the name. -/
theorem recent_answer {store : Store} {games : List GameRecord} (keeps : store.Keeps games)
    (name : CodeText) {limit : Int} (small : limit < integerBound) :
    store.recent (.text name) (.integer limit) =
      if name.isEncodable = true then
        .ok (((scoresOf games (Text.strip name.toString)).reverse.take (max 0 limit).toNat).map
          (GameRecord.mk (Text.strip name.toString)))
      else .error (.unencodable name.strip) := by
  rcases keeps with ⟨tables, connected, holds⟩
  rcases limit_resolves small with ⟨checked, resolved⟩
  unfold recent soughtName
  rw [checked, connected]
  dsimp only [bind, Except.bind]
  rw [encodedName_strip, resolved]
  by_cases encodable : name.isEncodable = true
  · rw [if_pos encodable, if_pos encodable]
    dsimp only [pure, Except.pure]
    rw [Tables.recent, holds.games_eq, filter_username_eq, ← List.map_reverse, List.map_take]
  · rw [if_neg encodable, if_neg encodable]

/-! ## Deleting -/

/-- A request to delete a name: the games under it are gone, if the store may be
written and takes the name. -/
theorem delete_eq {store : Store} {tables : Tables} {games : List GameRecord}
    (connected : store.tables = .ok tables) (holds : tables.Holds games) (name : CodeText) :
    store.delete (.text name) =
      if name.isEncodable = true then
        if store.writable = true then
          (store.withTables (tables.remove (Text.strip name.toString)),
            .ok !(scoresOf games (Text.strip name.toString)).isEmpty)
        else (store, .error .readOnly)
      else (store, .error (.unencodable name.strip)) := by
  unfold delete soughtName
  dsimp only
  rw [connected, encodedName_strip, ← aggregate?_isSome, ← holds.player?_eq]
  by_cases encodable : name.isEncodable = true
  · simp only [if_pos encodable]
  · simp only [if_neg encodable]

/-- What comes of a request to delete: a refusal that changes nothing, or the
games under the stripped name are gone. -/
theorem delete_cases {store : Store} {tables : Tables} {games : List GameRecord}
    (connected : store.tables = .ok tables) (holds : tables.Holds games) (username : Json) :
    (Exists fun cause => store.delete username = (store, .error cause)) ∨
      Exists fun name : CodeText => username = .text name ∧
        store.delete username =
          (store.withTables (tables.remove (Text.strip name.toString)),
            .ok !(scoresOf games (Text.strip name.toString)).isEmpty) := by
  cases username with
  | text name =>
      rw [delete_eq connected holds name]
      split
      · split
        · exact Or.inr ⟨name, rfl, rfl⟩
        · exact Or.inl ⟨_, rfl⟩
      · exact Or.inl ⟨_, rfl⟩
  | _ => exact Or.inl ⟨_, rfl⟩

/-! ## The log -/

/-- Is a request one that leaves the connection alone? -/
def Request.keepsOpen : Request -> Bool
  | .close => false
  | .reopen => false
  | _ => true

/-- The log after an answered request: a recorded game comes to its end, and a
deletion takes all games under its name away. -/
def logged (games : List GameRecord) (request : Request) (answer : Except StoreError Answer) :
    List GameRecord :=
  match request, answer with
  | .record (.text name) (.integer score), .ok _ => games ++ [⟨Text.strip name.toString, score⟩]
  | .delete (.text name), .ok _ =>
      games.filter fun game => game.username != Text.strip name.toString
  | _, _ => games

/-- The log of a run of requests. -/
def logOf (requests : List Request) (answers : List (Except StoreError Answer)) :
    List GameRecord :=
  (requests.zip answers).foldl (fun games step => logged games step.1 step.2) []

/-- A refused request leaves no trace. -/
theorem logged_error (games : List GameRecord) (request : Request) (cause : StoreError) :
    logged games request (.error cause) = games := by
  unfold logged
  split
  · next contrary => cases contrary
  · next contrary => cases contrary
  · rfl

/-- One request keeps the tables equal to the log. -/
theorem serve_keeps {store : Store} {games : List GameRecord} (keeps : store.Keeps games)
    {request : Request} (keepsOpen : request.keepsOpen = true) :
    (store.serve request).1.Keeps (logged games request (store.serve request).2) ∧
      (store.serve request).1.writable = store.writable := by
  rcases keeps with ⟨tables, connected, holds⟩
  cases request with
  | record username score =>
      have served : store.serve (.record username score) =
          ((store.record username score).1, (store.record username score).2.map .recorded) := rfl
      rw [served]
      rcases record_cases connected holds username score with
        ⟨cause, refused⟩ | ⟨name, value, rfl, rfl, _, recorded⟩
      · rw [refused]
        exact ⟨⟨tables, connected, (logged_error games _ cause).symm ▸ holds⟩, rfl⟩
      · rw [recorded]
        exact ⟨⟨_, withTables_tables connected _, holds.added _ _⟩, rfl⟩
  | delete username =>
      have served : store.serve (.delete username) =
          ((store.delete username).1, (store.delete username).2.map .deleted) := rfl
      rw [served]
      rcases delete_cases connected holds username with ⟨cause, refused⟩ | ⟨name, rfl, deleted⟩
      · rw [refused]
        exact ⟨⟨tables, connected, (logged_error games _ cause).symm ▸ holds⟩, rfl⟩
      · rw [deleted]
        exact ⟨⟨_, withTables_tables connected _, holds.remove _⟩, rfl⟩
  | player username => exact ⟨⟨tables, connected, holds⟩, rfl⟩
  | top limit => exact ⟨⟨tables, connected, holds⟩, rfl⟩
  | recent username limit => exact ⟨⟨tables, connected, holds⟩, rfl⟩
  | schema => exact ⟨⟨tables, connected, holds⟩, rfl⟩
  | close => cases keepsOpen
  | reopen => cases keepsOpen

/-- A run of requests keeps the tables equal to the log. -/
theorem serveAll_keeps {store : Store} {games : List GameRecord} (keeps : store.Keeps games)
    {requests : List Request}
    (keepOpen : forall request, request ∈ requests -> request.keepsOpen = true) :
    (store.serveAll requests).1.Keeps
        ((requests.zip (store.serveAll requests).2).foldl
          (fun games step => logged games step.1 step.2) games) ∧
      (store.serveAll requests).1.writable = store.writable := by
  induction requests generalizing store games with
  | nil => exact ⟨keeps, rfl⟩
  | cons request rest inductionHypothesis =>
      rcases serve_keeps keeps (keepOpen request List.mem_cons_self) with ⟨keeps', writable⟩
      have later := inductionHypothesis keeps' fun other listed =>
        keepOpen other (List.mem_cons_of_mem request listed)
      exact ⟨later.1, later.2.trans writable⟩

/-- A name that the database does not take: every request about it is refused, for
this reason once it is known that it names somebody, and changes nothing. -/
structure Rejects (store : Store) (name : CodeText) : Prop where
  player : store.player? (.text name) = .error (.unencodable name.strip)
  recent : forall limit : Int, limit < integerBound ->
    store.recent (.text name) (.integer limit) = .error (.unencodable name.strip)
  delete : store.delete (.text name) = (store, .error (.unencodable name.strip))
  record : forall score : Json, Exists fun cause =>
    store.record (.text name) score = (store, .error cause)
  record_integer : Text.strip name.toString ≠ "" -> forall score : Int,
    store.record (.text name) (.integer score) = (store, .error (.unencodable name.strip))

theorem rejects_of_unencodable {store : Store} {games : List GameRecord}
    (keeps : store.Keeps games) {name : CodeText} (halves : name.isEncodable = false) :
    store.Rejects name := by
  have refused := Bool.eq_false_iff.mp halves
  rcases keeps with ⟨tables, connected, holds⟩
  have keeps : store.Keeps games := ⟨tables, connected, holds⟩
  refine ⟨?_, fun limit small => ?_, ?_, fun score => ?_, fun named score => ?_⟩
  · rw [player?_answer keeps, if_neg refused]
  · rw [recent_answer keeps name small, if_neg refused]
  · rw [delete_eq connected holds, if_neg refused]
  · by_cases named : Text.strip name.toString = ""
    · exact ⟨.usernameRequired, by rw [record, requiredName, if_pos named]⟩
    · cases score with
      | integer score => exact ⟨_, record_of_unencodable connected halves named score⟩
      | _ => exact ⟨.scoreNotInteger, by rw [record, requiredName, if_neg named]; rfl⟩
  · exact record_of_unencodable connected halves named score

/-- An open store that starts without games answers every request from the log
of the requests before it: the aggregate of a name, its latest scores, whether
a deletion finds any, and a recorded game with the aggregate right after it.
Every request about a name that has no form in bytes is refused.  The player table
has a row exactly for the names in the table of games, and the row is the aggregate
of the games under its name. -/
theorem answers_from_log (store : Store) (connected : store.tables = .ok Tables.empty)
    (requests : List Request)
    (keepOpen : forall request, request ∈ requests -> request.keepsOpen = true) :
    let reached := (store.serveAll requests).1
    let log := logOf requests (store.serveAll requests).2
    (forall name : CodeText, name.isEncodable = true ->
      reached.player? (.text name) = .ok (aggregate? log (Text.strip name.toString)) ∧
        (forall limit : Int, limit < integerBound ->
          reached.recent (.text name) (.integer limit) =
            .ok (((scoresOf log (Text.strip name.toString)).reverse.take (max 0 limit).toNat).map
              (GameRecord.mk (Text.strip name.toString)))) ∧
        ((reached.delete (.text name)).2 =
          if store.writable = true then .ok !(scoresOf log (Text.strip name.toString)).isEmpty
          else .error .readOnly) ∧
        (forall score : Int, Text.strip name.toString ≠ "" -> storable score = true ->
          store.writable = true ->
          Exists fun stats => (reached.record (.text name) (.integer score)).2 = .ok stats)) ∧
      (forall name : CodeText, name.isEncodable = false -> reached.Rejects name) ∧
      (forall (username score : Json) (after : Store) (stats : PlayerStats),
        reached.record username score = (after, .ok stats) ->
          after.player? username = .ok (some stats)) ∧
      Exists fun tables => reached.tables = .ok tables ∧ tables.games = log ∧
        forall row, row ∈ tables.players ↔ aggregate? tables.games row.username = some row := by
  intro reached log
  have kept := serveAll_keeps ⟨Tables.empty, connected, Tables.empty_holds⟩ keepOpen
  have keeps : reached.Keeps log := kept.1
  have writable : reached.writable = store.writable := kept.2
  rcases kept.1 with ⟨tables, connected', holds⟩
  refine ⟨?_, fun _ halves => rejects_of_unencodable keeps halves, ?_, tables, connected',
    holds.games_eq, ?_⟩
  · intro name encodable
    refine ⟨player?_eq_aggregate? keeps encodable, fun limit small => ?_, ?_, ?_⟩
    · rw [recent_answer keeps name small, if_pos encodable]
    · rw [delete_eq connected' holds, if_pos encodable, writable]
      split <;> rfl
    · intro score named fits writable'
      rw [← writable] at writable'
      exact ⟨_, congrArg Prod.snd (record_of_valid connected' writable' encodable named fits)⟩
  · intro username score after stats recorded
    rcases record_cases connected' holds username score with
      ⟨cause, refused⟩ | ⟨name, value, rfl, rfl, encodable, recorded'⟩
    · rw [recorded] at refused
      cases refused
    · rw [recorded] at recorded'
      cases recorded'
      rw [player?_eq_aggregate? ⟨_, withTables_tables connected' _, holds.added _ value⟩ encodable,
        aggregate?_append_self]
  · intro row
    rw [holds.games_eq]
    exact holds.mem_players_iff row

/-- Two games of one player, a deletion of nobody and one game of another, in a
new database in memory. -/
theorem answers_from_log_ann_and_bob :
    let store : Store := ⟨⟨1, [1], some Tables.empty⟩, false, true, true⟩
    let ann : CodeText := CodeText.ofString " ann "
    let requests : List Request :=
      [.record (.text ann) (.integer 3), .record (.text (CodeText.ofString "ann")) (.integer (-5)),
        .delete (.text (CodeText.ofString "bob")), .record (.text (CodeText.ofString "bob")) .null]
    store.tables = .ok Tables.empty ∧
      (forall request, request ∈ requests -> request.keepsOpen = true) ∧
      (store.serveAll requests).1.player? (.text ann) = .ok (some ⟨"ann", 2, 3⟩) ∧
      ((store.serveAll requests).1.delete (.text ann)).2 = .ok true := by
  intro store ann requests
  have keepOpen : forall request, request ∈ requests -> request.keepsOpen = true := by decide
  have log : logOf requests (store.serveAll requests).2 = [⟨"ann", 3⟩, ⟨"ann", -5⟩] := by
    decide +kernel
  have name : Text.strip ann.toString = "ann" := by decide +kernel
  have told := (answers_from_log store rfl requests keepOpen).1 ann
    (CodeText.isEncodable_ofString _)
  rw [log, name] at told
  exact ⟨rfl, keepOpen, told.1, told.2.2.1⟩

/-- Two players of whom there are no games, and no answer says so: half a pair of
surrogates as a name after a game of somebody else, and any name in a database that has
the schema version but not the tables. -/
theorem player_not_answered :
    let store : Store := ⟨⟨1, [1], some Tables.empty⟩, false, true, true⟩
    let half : CodeText := ⟨[.surrogate 0xD800]⟩
    let requests : List Request := [.record (.text (CodeText.ofString "ann")) (.integer 1)]
    let reached := (store.serveAll requests).1
    let bare : Store := ⟨Database.stamped 1, true, true, true⟩
    (store.tables = .ok Tables.empty ∧
      (forall request, request ∈ requests -> request.keepsOpen = true) ∧
      aggregate? (logOf requests (store.serveAll requests).2) (Text.strip half.toString) = none ∧
      reached.player? (.text half) = .error (.unencodable half)) ∧
    connect true true (Database.stamped 1) = .ok bare ∧
      bare.player? (.text (CodeText.ofString "ann")) = .error .missingTable := by
  decide +kernel

end Store
end ModalDrill
