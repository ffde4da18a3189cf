import ModalDrill.Proofs.CommandLine.Reopening
import ModalDrill.Proofs.Shell.Tally
import ModalDrill.Proofs.Store.Atomicity
import ModalDrill.Proofs.Store.Leaderboard

namespace ModalDrill
namespace CommandLine

/-!
# A history over many runs

Runs in one folder that name the same database file share its games.  Each run adds
the games of the rounds whose final scores it printed, however it ends, and the next
run finds them.  A run that shows the scores finds the same tables again and again.
-/

/-- One run: its arguments, and what it is given besides. -/
structure Run where
  arguments : List String
  surroundings : Surroundings

namespace Run

def folderAfter (run : Run) (folder : Folder) : Folder :=
  (CommandLine.run folder run.arguments run.surroundings).1

def report (run : Run) (folder : Folder) : Report :=
  (CommandLine.run folder run.arguments run.surroundings).2

/-- What is said in a run: nothing, unless its arguments are settings. -/
def entries (run : Run) (folder : Folder) : List Entry :=
  match settings? run.arguments with
  | .ok (some settings) => (enact folder settings run.surroundings).entries
  | _ => []

/-- The games of a run: one under the name of its player for each final score that it
prints. -/
def gamesTold (run : Run) (folder : Folder) : List GameRecord :=
  ModalDrill.gamesTold (Shell.playerOf run.surroundings.inputs) (run.entries folder)

/-- A run names no other database. -/
def Names (run : Run) (text : String) : Prop :=
  forall settings db, settings? run.arguments = .ok (some settings) -> settings.db = some db ->
    Path.ofText db = Path.ofText text

/-- Which database a run names can be told from its arguments. -/
instance decidableNames (run : Run) (text : String) : Decidable (run.Names text) :=
  match told : settings? run.arguments with
  | .ok (some settings) =>
      match named : settings.db with
      | some db =>
          decidable_of_iff (Path.ofText db = Path.ofText text)
            ⟨fun same _ _ told' named' => by
                cases told.symm.trans told'
                cases named.symm.trans named'
                exact same,
              fun uses => uses settings db told named⟩
      | none =>
          isTrue fun _ _ told' named' => by
            cases told.symm.trans told'
            cases named.symm.trans named'
  | .ok none => isTrue fun _ _ told' => nomatch told.symm.trans told'
  | .error _ => isTrue fun _ _ told' => nomatch told.symm.trans told'

/-- A run names no other database, and reads references or not as all runs do. -/
def Uses (run : Run) (references : Bool) (text : String) : Prop :=
  run.surroundings.readsReferences = references ∧ run.Names text

instance decidableUses (run : Run) (references : Bool) (text : String) :
    Decidable (run.Uses references text) :=
  inferInstanceAs (Decidable (_ ∧ _))

/-- The clock of a run can make every move that printing causes. -/
def Paced (run : Run) : Prop :=
  forall message, run.surroundings.delay.Passes message

/-- A run that shows the scores in a database. -/
structure ShowsScores (run : Run) (references : Bool) (text : String) : Prop where
  reads : run.surroundings.readsReferences = references
  asked : Exists fun settings => Exists fun duration => Exists fun db =>
    settings? run.arguments = .ok (some settings) ∧ settings.command = .scores ∧
      settings.duration = some duration ∧ settings.db = some db ∧
      Path.ofText db = Path.ofText text

theorem ShowsScores.uses {run : Run} {references : Bool} {text : String}
    (shows : run.ShowsScores references text) : run.Uses references text := by
  rcases shows.asked with ⟨settings, _, db, told, _, _, named, same⟩
  refine ⟨shows.reads, ?_⟩
  intro settings' db' told' named'
  rw [told] at told'
  cases told'
  rw [named] at named'
  cases named'
  exact same

end Run

/-- The folder that runs leave, one after the other. -/
def folderAfter (folder : Folder) : List Run -> Folder
  | [] => folder
  | run :: rest => folderAfter (run.folderAfter folder) rest

/-- The games of all runs, in their order. -/
def history (folder : Folder) : List Run -> List GameRecord
  | [] => []
  | run :: rest => run.gamesTold folder ++ history (run.folderAfter folder) rest

/-- The database that a text names can be opened for writing, and then has these tables. -/
def Opens (references : Bool) (folder : Folder) (text : String) (tables : Tables) : Prop :=
  Exists fun later => Exists fun opened =>
    openDatabase references folder text = (later, .ok opened) ∧
      opened.store.writable = true ∧ opened.store.tables = .ok tables

variable {references : Bool} {folder : Folder} {text : String} {path : Path} {tables : Tables}
  {games : List GameRecord} {delay : Delay}

/-- Whether a database opens and what is in it can be seen by opening it. -/
instance decidableOpens (references : Bool) (folder : Folder) (text : String) (tables : Tables) :
    Decidable (Opens references folder text tables) :=
  match result : openDatabase references folder text with
  | (later, .ok opened) =>
      decidable_of_iff (opened.store.writable = true ∧ opened.store.tables = .ok tables)
        ⟨fun has => ⟨later, opened, result, has⟩, by
          rintro ⟨later', opened', result', has⟩
          cases result.symm.trans result'
          exact has⟩
  | (_, .error _) =>
      isFalse (by
        rintro ⟨later', opened', result', _⟩
        cases result.symm.trans result')

theorem openDatabase_congr {other : String} (same : Path.ofText text = Path.ofText other)
    (references : Bool) (folder : Folder) :
    openDatabase references folder text = openDatabase references folder other := by
  unfold openDatabase
  rw [same]

theorem opens_of_keptAt {place : Place} {content : Database}
    (names : NamesFile references text path) (noNul : (Path.ofText text).hasNul = false)
    (kept : folder.KeptAt (Path.ofText text) path place content)
    (current : content.version = schemaVersion) (filled : content.tables = some tables) :
    Opens references folder text tables :=
  ⟨_, _, openDatabase_of_keptAt names noNul kept current, rfl, Store.tables_of_isOpen filled rfl⟩

/-! ## Showing the scores -/

/-- Times pass one after the other, if the clock can make its moves. -/
theorem run_waits {times : List Seconds}
    (held : forall seconds, seconds ∈ times -> seconds.toBinary64? ≠ none) (desk : Desk) :
    Exists fun clock => (times.forM Shell.wait).run desk = .ok () { desk with clock := clock } := by
  induction times generalizing desk with
  | nil => exact ⟨desk.clock, rfl⟩
  | cons seconds rest inductionHypothesis =>
      rcases Option.ne_none_iff_exists'.mp (held seconds List.mem_cons_self) with ⟨passed, moves⟩
      rcases inductionHypothesis (fun other listed => held other (List.mem_cons_of_mem _ listed))
        { desk with clock := desk.clock.add passed } with ⟨clock, run⟩
      refine ⟨clock, ?_⟩
      have first : (Shell.wait seconds).run desk =
          .ok () { desk with clock := desk.clock.add passed } := by
        rw [Shell.wait, moves]
        rfl
      have whole : (seconds :: rest).forM Shell.wait =
          Shell.wait seconds >>= fun _ => rest.forM Shell.wait := rfl
      rw [whole, EStateM.run_bind, first]
      exact run

theorem run_printAll (passes : forall message, delay.Passes message) (messages : List Message)
    (desk : Desk) :
    Exists fun clock => (Shell.printAll delay messages).run desk =
      .ok () { desk with clock := clock, entries := desk.entries ++ messages.map .printed } := by
  induction messages generalizing desk with
  | nil =>
      refine ⟨desk.clock, ?_⟩
      rw [List.map_nil, List.append_nil]
      rfl
  | cons message rest inductionHypothesis =>
      rcases run_waits (passes message desk.entries) (desk.add (.printed message)) with
        ⟨between, printed⟩
      rcases inductionHypothesis { desk.add (.printed message) with clock := between } with
        ⟨clock, run⟩
      refine ⟨clock, ?_⟩
      have first : (Shell.print delay message).run desk =
          .ok () { desk.add (.printed message) with clock := between } := printed
      have whole : Shell.printAll delay (message :: rest) =
          Shell.print delay message >>= fun _ => Shell.printAll delay rest := rfl
      rw [whole, EStateM.run_bind, first]
      dsimp only
      rw [run, Desk.add, List.map_cons, List.append_assoc]
      rfl

theorem run_showLeaderboard (passes : forall message, delay.Passes message) {desk : Desk}
    (connected : desk.service.store.tables = .ok tables) :
    Exists fun clock => (Shell.showLeaderboard delay).run desk =
      .ok () { desk with
        clock := clock
        entries := desk.entries ++ (Shell.leaderboardMessages (tables.top 10)).map .printed } := by
  have shown : desk.service.leaderboard defaultLimit = .ok (tables.top 10) :=
    Store.top_eq connected (by decide)
  unfold Shell.showLeaderboard
  rw [EStateM.run_bind, EStateM.run_get]
  dsimp only
  rw [shown]
  exact run_printAll passes _ desk

/-- Notes leave nothing on the output, and messages leave their lines. -/
theorem outputOf_noted_printed (notes : List Note) (messages : List Message) :
    String.join ((notes.map Entry.noted ++ messages.map Entry.printed).map outputText) =
      lines (messages.map Message.text) := by
  have silent : String.join ((notes.map Entry.noted).map outputText) = "" := by
    induction notes with
    | nil => rfl
    | cons note rest inductionHypothesis =>
        rw [List.map_cons, List.map_cons, String.join_cons, inductionHypothesis]
        rfl
  rw [List.map_append, String.join_append, silent, String.empty_append, lines, List.map_map,
    List.map_map]
  rfl

/-- Notes and messages without a final score tell no games. -/
theorem gamesTold_noted_printed (player : CodeText) (notes : List Note) {messages : List Message}
    (untold : Untold messages) :
    gamesTold player (notes.map Entry.noted ++ messages.map Entry.printed) = [] := by
  have silent : gamesTold player (messages.map Entry.printed) = [] := by
    refine gamesTold_eq_nil ?_ player
    rw [List.filterMap_map]
    exact untold
  rw [gamesTold_append, gamesTold_noted, silent, List.append_nil]

/-! ## One run -/

/-- At the beginning of a run with an open database there are only notes. -/
theorem deskOn_entries (bank : QuestionBank) (draws : Draws) (duration : Binary64)
    (notes : List Note) (store : Store) (migrations : List Int) :
    (deskOn bank draws duration (notes.map .noted) store migrations).entries =
      (notes ++ migrations.map Note.migrated).map .noted := by
  rw [List.map_append, List.map_map]
  rfl

/-- Showing the scores leaves the database as it is. -/
theorem enactOn_scores {opened : Opened} (connected : opened.store.tables = .ok tables)
    {surroundings : Surroundings}
    (passes : forall message, surroundings.delay.Passes message) (duration : Binary64)
    (notes : List Note) :
    enactOn opened .scores duration (notes.map .noted) surroundings =
      ⟨keep opened.folder opened.file opened.store,
        (notes ++ opened.migrations.map Note.migrated).map .noted ++
          (Shell.leaderboardMessages (tables.top 10)).map .printed,
        .status 0⟩ := by
  let desk := deskOn surroundings.bank surroundings.draws duration (notes.map .noted) opened.store
    opened.migrations
  have connected' : desk.service.store.tables = .ok tables := connected
  rcases run_showLeaderboard passes connected' with ⟨clock, shown⟩
  rw [deskOn_entries] at shown
  unfold enactOn perform begin
  dsimp only
  rw [shown]
  rfl

/-- Playing adds the games whose final scores are printed, however the play ends. -/
theorem enactOn_play {opened : Opened} (accepts : Shell.Accepts opened.store)
    (connected : opened.store.tables = .ok tables) (holds : tables.Holds games)
    {surroundings : Surroundings} (passes : forall message, surroundings.delay.Passes message)
    (duration : Binary64) (notes : List Note)
    (few : (surroundings.inputs.length : Int) < integerBound) :
    let enactment := enactOn opened .play duration (notes.map .noted) surroundings
    Exists fun after =>
      enactment.folder = keep opened.folder opened.file (opened.store.withTables after) ∧
        after.Holds
          (games ++ gamesTold (Shell.playerOf surroundings.inputs) enactment.entries) := by
  intro enactment
  have filled := (Store.isOpen_of_tables connected).2
  have start : Shell.Tallies opened.store games (Shell.playerOf surroundings.inputs)
      (deskOn surroundings.bank surroundings.draws duration (notes.map .noted) opened.store
        opened.migrations) := by
    refine ⟨tables, (Store.withTables_of_tables filled).symm, ?_⟩
    rw [deskOn_entries, gamesTold_noted, List.append_nil]
    exact holds
  have closes : Shell.Closes surroundings.delay := ⟨passes _, fun _ => passes _⟩
  rcases start.playFrom accepts closes (.naming rfl few) with ⟨after, stored, holds'⟩
  exact ⟨after, congrArg (keep opened.folder opened.file) stored, holds'⟩

/-- An open database with other tables is opened again with these tables. -/
theorem Opened.Keeps.opens_keep {opened : Opened} {file : DatabaseFile}
    (keeps : opened.Keeps (Path.ofText text) path file) (names : NamesFile references text path)
    (noNul : (Path.ofText text).hasNul = false) (tables : Tables) :
    let later := CommandLine.keep opened.folder opened.file (opened.store.withTables tables)
    Opens references later text tables ∧ Reaches later text path := by
  have current : (opened.store.withTables tables).database.version = schemaVersion := keeps.current
  have kept := keeps.keep current
  exact ⟨opens_of_keptAt names noNul kept current rfl, Or.inr kept.around⟩

/-- A run that comes to nothing: its arguments are no settings, or leave an option
without a value. -/
structure Run.Idles (run : Run) (references : Bool) (folder : Folder) (text : String) :
    Prop where
  folder_eq : run.folderAfter folder = folder
  gamesTold_eq : run.gamesTold folder = []
  shows : ¬ run.ShowsScores references text

/-- A run that does what its settings say with an open database. -/
structure Run.Enacts (run : Run) (folder : Folder) (settings : Settings)
    (enactment : Enactment) : Prop where
  told : settings? run.arguments = .ok (some settings)
  folder_eq : run.folderAfter folder = enactment.folder
  entries_eq : run.entries folder = enactment.entries
  report_eq : run.report folder = reportOf settings enactment.entries enactment.exit

theorem Run.enacts_enact {run : Run} {settings : Settings}
    (told : settings? run.arguments = .ok (some settings)) (folder : Folder) :
    run.Enacts folder settings (enact folder settings run.surroundings) := by
  refine ⟨told, ?_, ?_, ?_⟩
  · rw [Run.folderAfter, CommandLine.run, told]
  · rw [Run.entries, told]
  · rw [Run.report, CommandLine.run, told]

theorem Run.Enacts.command_eq {run : Run} {folder : Folder} {settings : Settings}
    {enactment : Enactment} (enacts : run.Enacts folder settings enactment)
    (shows : run.ShowsScores references text) : settings.command = .scores := by
  rcases shows.asked with ⟨settings', _, _, asked, command, _⟩
  rw [enacts.told] at asked
  cases asked
  exact command

/-- A run without settings comes to nothing. -/
theorem Run.idles_of_no_settings {run : Run}
    (none : forall settings, settings? run.arguments ≠ .ok (some settings)) (references : Bool)
    (folder : Folder) (text : String) : run.Idles references folder text := by
  have shows : ¬ run.ShowsScores references text := by
    rintro ⟨_, settings, _, _, asked, _⟩
    exact none settings asked
  cases told : settings? run.arguments with
  | error complaint =>
      refine ⟨?_, ?_, shows⟩
      · rw [Run.folderAfter, CommandLine.run, told]
      · rw [Run.gamesTold, Run.entries, told]
        exact gamesTold_eq_nil rfl _
  | ok reading =>
      cases reading with
      | none =>
          refine ⟨?_, ?_, shows⟩
          · rw [Run.folderAfter, CommandLine.run, told]
          · rw [Run.gamesTold, Run.entries, told]
            exact gamesTold_eq_nil rfl _
      | some settings => exact absurd told (none settings)

/-- A run whose settings leave an option without a value comes to nothing. -/
theorem Run.Enacts.idles {run : Run} {folder : Folder} {settings : Settings} (notes : List Note)
    {exit : Exit} (enacts : run.Enacts folder settings ⟨folder, notes.map .noted, exit⟩)
    (missing : settings.duration = none ∨ settings.db = none) (references : Bool)
    (text : String) : run.Idles references folder text := by
  refine ⟨enacts.folder_eq, ?_, ?_⟩
  · rw [Run.gamesTold, enacts.entries_eq]
    exact gamesTold_noted _ notes
  · rintro ⟨_, settings', duration, db, asked, _, lasting, named, _⟩
    rw [enacts.told] at asked
    cases asked
    rcases missing with none | none
    · rw [lasting] at none
      cases none
    · rw [named] at none
      cases none

/-- What a run does where its database can be opened. -/
theorem Run.idles_or_enacts {folder later : Folder} {run : Run} {opened : Opened}
    (opens : openDatabase references folder text = (later, .ok opened))
    (uses : run.Uses references text) :
    run.Idles references folder text ∨
      Exists fun settings => Exists fun duration => Exists fun notes : List Note =>
        run.Enacts folder settings
          (enactOn opened settings.command duration (notes.map .noted) run.surroundings) := by
  by_cases read : Exists fun settings => settings? run.arguments = .ok (some settings)
  · rcases read with ⟨settings, told⟩
    have enacts := Run.enacts_enact told folder
    let loaded : List Note := [.bankLoaded run.surroundings.bank.questions.length]
    unfold enact prepare at enacts
    cases lasting : settings.duration with
    | none =>
        rw [lasting] at enacts
        exact Or.inl (Run.Enacts.idles [] enacts (Or.inl lasting) references text)
    | some duration =>
        cases named : settings.db with
        | none =>
            rw [lasting, named] at enacts
            exact Or.inl (Run.Enacts.idles loaded enacts (Or.inr named) references text)
        | some db =>
            rw [lasting, named] at enacts
            dsimp only at enacts
            rw [uses.1, openDatabase_congr (uses.2 settings db told named), opens] at enacts
            exact Or.inr ⟨settings, duration, loaded, enacts⟩
  · exact Or.inl (Run.idles_of_no_settings (fun settings told => read ⟨settings, told⟩) references
      folder text)

/-- A run adds its games to the database, and one that shows the scores adds none. -/
theorem run_keeps (names : NamesFile references text path) (reaches : Reaches folder text path)
    (opens : Opens references folder text tables) (holds : tables.Holds games) {run : Run}
    (uses : run.Uses references text) (paced : run.Paced)
    (few : (run.surroundings.inputs.length : Int) < integerBound ∨
      run.ShowsScores references text) :
    Exists fun after => Opens references (run.folderAfter folder) text after ∧
      Reaches (run.folderAfter folder) text path ∧ after.Holds (games ++ run.gamesTold folder) ∧
      (run.ShowsScores references text -> after = tables ∧
        (run.report folder).exit = .status 0 ∧
        (run.report folder).output =
          lines ((Shell.leaderboardMessages (tables.top 10)).map Message.text)) := by
  rcases opens with ⟨later, opened, opens, writable, connected⟩
  rcases Run.idles_or_enacts opens uses with idles | ⟨settings, duration, notes, enacts⟩
  · refine ⟨tables, ?_, ?_, ?_, fun shows => absurd shows idles.shows⟩
    · rw [idles.folder_eq]
      exact ⟨later, opened, opens, writable, connected⟩
    · rw [idles.folder_eq]
      exact reaches
    · rw [idles.gamesTold_eq, List.append_nil]
      exact holds
  · rcases openDatabase_keeps names reaches opens writable with ⟨noNul, file, keeps⟩
    rw [enacts.folder_eq, Run.gamesTold, enacts.entries_eq, enacts.report_eq]
    cases command : settings.command with
    | scores =>
        rw [enactOn_scores connected paced]
        have kept := keeps.opens_keep names noNul tables
        rw [Store.withTables_of_tables (Store.isOpen_of_tables connected).2] at kept
        refine ⟨tables, kept.1, kept.2, ?_, fun _ => ⟨rfl, rfl, outputOf_noted_printed _ _⟩⟩
        have untold := (Shell.asides_leaderboardMessages (tables.top 10)).inside.untold
        rw [gamesTold_noted_printed _ _ untold, List.append_nil]
        exact holds
    | play =>
        have shown : ¬ run.ShowsScores references text := by
          intro shows
          rw [enacts.command_eq shows] at command
          cases command
        have accepts : Shell.Accepts opened.store := by
          rw [keeps.store_eq]
          exact ⟨rfl, rfl⟩
        rcases enactOn_play accepts connected holds paced duration notes
          (few.resolve_right shown) with ⟨after, folder_eq, holds'⟩
        have kept := keeps.opens_keep names noNul after
        rw [folder_eq]
        exact ⟨after, kept.1, kept.2, holds', fun shows => absurd shows shown⟩

/-! ## Many runs -/

/-- What a run that shows the scores leaves and prints, with the tables that it finds. -/
structure Shown (scores : Run) (references : Bool) (folder : Folder) (text : String)
    (tables : Tables) : Prop where
  opens : Opens references (scores.folderAfter folder) text tables
  exit_eq : (scores.report folder).exit = .status 0
  output_eq : (scores.report folder).output =
    lines ((Shell.leaderboardMessages (tables.top 10)).map Message.text)

theorem shown_of_showsScores (names : NamesFile references text path)
    (reaches : Reaches folder text path) (opens : Opens references folder text tables)
    (holds : tables.Holds games) {scores : Run} (shows : scores.ShowsScores references text)
    (paced : scores.Paced) :
    Shown scores references folder text tables ∧ Reaches (scores.folderAfter folder) text path := by
  rcases run_keeps names reaches opens holds shows.uses paced (Or.inr shows) with
    ⟨after, opens', reaches', _, shown⟩
  rcases shown shows with ⟨rfl, exit_eq, output_eq⟩
  exact ⟨⟨opens', exit_eq, output_eq⟩, reaches'⟩

theorem runs_keep (names : NamesFile references text path) (reaches : Reaches folder text path)
    (opens : Opens references folder text tables) (holds : tables.Holds games) {runs : List Run}
    (use : forall run, run ∈ runs -> run.Uses references text)
    (paced : forall run, run ∈ runs -> run.Paced)
    (few : forall run, run ∈ runs -> (run.surroundings.inputs.length : Int) < integerBound) :
    Exists fun after => Opens references (folderAfter folder runs) text after ∧
      Reaches (folderAfter folder runs) text path ∧
      after.Holds (games ++ history folder runs) := by
  induction runs generalizing folder tables games with
  | nil =>
      refine ⟨tables, opens, reaches, ?_⟩
      rw [history, List.append_nil]
      exact holds
  | cons run rest inductionHypothesis =>
      rw [List.forall_mem_cons] at use paced few
      rcases run_keeps names reaches opens holds use.1 paced.1 (Or.inl few.1) with
        ⟨between, opens', reaches', holds', _⟩
      rcases inductionHypothesis reaches' opens' holds' use.2 paced.2 few.2 with
        ⟨after, opens'', reaches'', holds''⟩
      refine ⟨after, opens'', reaches'', ?_⟩
      rw [history, ← List.append_assoc]
      exact holds''

/-- Runs that name the same database file share its games.  After any number of them the
tables are those of the games at the start and of one more game, in the order of the runs
and under the name of its player, for each final score that was printed; a player whose
name has no form in bytes has no games.  A run that shows the scores prints the first ten
players of these tables and leaves the tables as they are, so that it prints the same when
it is repeated. -/
theorem runs_share_history (names : NamesFile references text path)
    (reaches : Reaches folder text path) (opens : Opens references folder text tables)
    (holds : tables.Holds games) {runs : List Run}
    (use : forall run, run ∈ runs -> run.Uses references text)
    (paced : forall run, run ∈ runs -> run.Paced)
    (few : forall run, run ∈ runs -> (run.surroundings.inputs.length : Int) < integerBound) :
    Exists fun after =>
      Opens references (folderAfter folder runs) text after ∧
        after.Holds (games ++ history folder runs) ∧ Board after.players 10 (after.top 10) ∧
        forall scores : Run, scores.ShowsScores references text -> scores.Paced ->
          Shown scores references (folderAfter folder runs) text after ∧
            forall again : Run, again.ShowsScores references text -> again.Paced ->
              Shown again references (scores.folderAfter (folderAfter folder runs)) text after ∧
                (again.report (scores.folderAfter (folderAfter folder runs))).output =
                  (scores.report (folderAfter folder runs)).output := by
  rcases runs_keep names reaches opens holds use paced few with ⟨after, opens', reaches', holds'⟩
  refine ⟨after, opens', holds', Tables.top_board holds'.distinct 10, fun scores shows paced' => ?_⟩
  rcases shown_of_showsScores names reaches' opens' holds' shows paced' with ⟨shown, reaches''⟩
  refine ⟨shown, fun again shows' paced'' => ?_⟩
  rcases shown_of_showsScores names reaches'' shown.opens holds' shows' paced'' with ⟨shown', _⟩
  exact ⟨shown', shown'.output_eq.trans shown.output_eq.symm⟩

/-- Four runs in a new folder: one that is cut off in its second round, one that is
refused for its arguments, one that shows the scores, and one that is left after a round,
which ends while its question is printed. -/
theorem runs_share_history_ann_and_bob :
    let bank : QuestionBank := ⟨["one two".toList], [⟨"q", "Delete the line.", ["dd"]⟩]⟩
    let draws : Draws := fun entries => Sampler.rotation entries.length
    let slow : Delay := fun entries =>
      if entries.getLast? = some (.printed .roundRules) then [.whole 61] else []
    let given : Delay -> List Shell.Input -> Surroundings := fun delay inputs =>
      ⟨bank, draws, delay, inputs, false⟩
    let scores : Run := ⟨["scores"], given (fun _ => [.whole 1]) []⟩
    let runs : List Run :=
      [⟨[], given (fun _ => [])
          [⟨" ann ", 0⟩, ⟨"1", 0⟩, ⟨"dd", 0⟩, ⟨"x", 61⟩, ⟨"1", 0⟩, ⟨"dd", 0⟩]⟩,
        ⟨["--duration", "long"], given slow []⟩, scores,
        ⟨["play"], given slow [⟨"bob", 0⟩, ⟨"1", 0⟩, ⟨"q", 0⟩]⟩]
    let folder := Folder.empty ⟨["work"]⟩
    NamesFile false defaultDb (Path.ofText defaultDb) ∧
      Reaches folder defaultDb (Path.ofText defaultDb) ∧
      Opens false folder defaultDb Tables.empty ∧ Tables.empty.Holds [] ∧
      (forall run, run ∈ runs -> run.Uses false defaultDb) ∧
      (forall run, run ∈ runs -> run.Paced) ∧
      (forall run, run ∈ runs -> (run.surroundings.inputs.length : Int) < integerBound) ∧
      scores.ShowsScores false defaultDb ∧
      Exists fun after => Opens false (folderAfter folder runs) defaultDb after ∧
        after.games = [⟨"ann", 1⟩, ⟨"bob", 0⟩] ∧
        (scores.report (scores.folderAfter (folderAfter folder runs))).output =
          (scores.report (folderAfter folder runs)).output := by
  intro bank draws slow given scores runs folder
  have names : NamesFile false defaultDb (Path.ofText defaultDb) :=
    namesFile_of_path (by decide) rfl
  have reaches : Reaches folder defaultDb (Path.ofText defaultDb) := Or.inl rfl
  have opens : Opens false folder defaultDb Tables.empty := by decide +kernel
  have use : forall run, run ∈ runs -> run.Uses false defaultDb := by decide +kernel
  have passes : forall message, slow.Passes message := by
    intro message entries seconds listed
    dsimp only [slow] at listed
    split at listed
    · rw [List.mem_singleton.mp listed]
      decide +kernel
    · cases listed
  have ticks : scores.Paced := by
    intro message entries seconds listed
    rw [List.mem_singleton.mp listed]
    decide +kernel
  have paced : forall run, run ∈ runs -> run.Paced := by
    simp only [runs, List.forall_mem_cons, List.not_mem_nil, IsEmpty.forall_iff, implies_true,
      and_true]
    exact ⟨fun _ _ _ listed => absurd listed List.not_mem_nil, passes, ticks, passes⟩
  have few : forall run, run ∈ runs ->
      (run.surroundings.inputs.length : Int) < integerBound := by decide
  have shows : scores.ShowsScores false defaultDb :=
    ⟨rfl, ⟨.scores, some defaultDb, some defaultDuration, false⟩, _, _, by decide +kernel,
      rfl, rfl, rfl, rfl⟩
  have told : history folder runs = [⟨"ann", 1⟩, ⟨"bob", 0⟩] := by decide +kernel
  rcases runs_share_history names reaches opens Tables.empty_holds use paced few with
    ⟨after, opens', holds', _, repeats⟩
  rw [told] at holds'
  exact ⟨names, reaches, opens, Tables.empty_holds, use, paced, few, shows, after, opens',
    holds'.games_eq, ((repeats scores shows ticks).2 scores shows ticks).2⟩

/-- A run in a new folder that tells a final score, and leaves a database that has no games. -/
structure Forgets (run : Run) (references : Bool) (text : String) : Prop where
  opens : Opens references (Folder.empty ⟨["work"]⟩) text Tables.empty
  uses : run.Uses references text
  told : (run.entries (Folder.empty ⟨["work"]⟩)).filterMap Entry.finalScore? ≠ []
  forgotten : Opens references (run.folderAfter (Folder.empty ⟨["work"]⟩)) text Tables.empty

/-- Final scores are forgotten in three cases.  The database in memory is a new one in every
run, and so is one that a reference asks for; and under half a pair of surrogates as a name
no score is saved. -/
theorem scores_forgotten :
    let bank : QuestionBank := ⟨["one two".toList], [⟨"q", "Delete the line.", ["dd"]⟩]⟩
    let played : String -> CodeText -> Run := fun text name =>
      ⟨["--db", text], bank, fun _ => Sampler.rotation 0, fun _ => [],
        [⟨name, 0⟩, ⟨"1", 0⟩, ⟨"x", 61⟩, ⟨"q", 0⟩], true⟩
    Forgets (played Location.memoryName "ann") true Location.memoryName ∧
      Forgets (played "file:a.db?mode=memory" "ann") true "file:a.db?mode=memory" ∧
      Forgets (played "a.db" ⟨[.surrogate 0xD800]⟩) true "a.db" := by
  intro bank played
  refine ⟨⟨?_, ?_, ?_, ?_⟩, ⟨?_, ?_, ?_, ?_⟩, ⟨?_, ?_, ?_, ?_⟩⟩ <;> decide +kernel

end CommandLine
end ModalDrill
