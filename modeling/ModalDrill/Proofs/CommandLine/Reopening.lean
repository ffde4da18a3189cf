import ModalDrill.Proofs.CommandLine.Folders
import ModalDrill.Proofs.CommandLine.PathText

namespace ModalDrill

/-!
# Opening a database file again

The first opening of a database makes the folders around the path that was typed, clears
away what is beside the file and brings the database forward.  After that an opening
changes nothing: it finds the database as it was kept last, at the place where it was
found first.  The path of the file is the one that was typed, or the one that a typed
reference leads to.
-/

namespace Place

theorem beside_ne_beside (place : Place) {first second : String} (different : first ≠ second) :
    place.beside first ≠ place.beside second := by
  intro same
  have names := congrArg Place.names same
  dsimp only [beside, child] at names
  have last := (List.cons.inj (List.append_cancel_left names)).1
  exact different (String.append_right_inj _ |>.mp last)

theorem journal_ne (place : Place) : place.journal ≠ place :=
  place.beside_ne "-journal" (by decide)

theorem log_ne (place : Place) : place.log ≠ place :=
  place.beside_ne "-wal" (by decide)

theorem log_ne_journal (place : Place) : place.log ≠ place.journal :=
  place.beside_ne_beside (by decide)

theorem logIndex_ne_journal (place : Place) : place.logIndex ≠ place.journal :=
  place.beside_ne_beside (by decide)

theorem logIndex_ne_log (place : Place) : place.logIndex ≠ place.log :=
  place.beside_ne_beside (by decide)

end Place

namespace Folder

/-! ## What is beside a file -/

theorem holdsMore_of_same {folder later : Folder} {place : Place}
    (same : later.node? place = folder.node? place) :
    later.holdsMore place = folder.holdsMore place := by
  rw [holdsMore, holdsMore, same]

theorem holdsMore_remove_self {folder : Folder} {place : Place}
    (free : folder.holdsFolder place = false) : (folder.remove place).holdsMore place = false := by
  rw [holdsMore, node?_remove_self free]

/-- What is not more than an empty file is no folder. -/
theorem holdsFolder_of_not_more {folder : Folder} {place : Place}
    (empty : folder.holdsMore place = false) : folder.holdsFolder place = false := by
  unfold holdsMore at empty
  split at empty
  · next absent => exact holdsFolder_of_other absent nofun
  · next node there =>
      rw [bne_eq_false_iff_eq] at empty
      exact holdsFolder_of_other (there.trans (congrArg some empty)) nofun

/-- A journal is thrown away or rolled back, unless there is none or a folder in its
place. -/
theorem settleJournal_plain {folder later : Folder} {path : Path} {place : Place}
    {isBlank : Bool}
    (settled : folder.settleJournal (Location.plain path) place isBlank = (later, .ok ())) :
    folder.Wider later ∧
      (later.holdsMore place.journal = false ∨ later.holdsFolder place.journal = true) := by
  have heeds : folder.heedsJournal (Location.plain path) place = true := rfl
  have reserves : (Location.plain path).canReserve = true := rfl
  have writable : (Location.plain path).writable = true := rfl
  unfold settleJournal at settled
  rw [heeds, reserves, writable] at settled
  simp only [Bool.not_true, Bool.false_or, if_true] at settled
  cases more : folder.holdsMore place.journal with
  | false =>
      rw [more] at settled
      cases settled
      exact ⟨.refl folder, Or.inl more⟩
  | true =>
      cases there : folder.holdsFolder place.journal with
      | true =>
          rw [more, there] at settled
          cases isBlank with
          | true =>
              cases settled
              exact ⟨.refl folder, Or.inr there⟩
          | false => cases settled
      | false =>
          have removed : later = folder.remove place.journal := by
            rw [more, there] at settled
            cases isBlank <;> cases settled <;> rfl
          rw [removed]
          exact ⟨wider_remove there, Or.inl (holdsMore_remove_self there)⟩

/-- A log is thrown away or taken in together with its index. -/
theorem settleLog_plain {folder later : Folder} {path : Path} {place : Place}
    {isBlank isLogged : Bool}
    (settled : folder.settleLog (Location.plain path) place isBlank = (later, .ok isLogged)) :
    folder.Wider later ∧ later.holdsMore place.log = false ∧
      later.node? place.journal = folder.node? place.journal := by
  have others : ((Location.plain path).isUnlocked || !(Location.plain path).locksFile) = false :=
    rfl
  have shared : ((Location.plain path).locking == .exclusive && (Location.plain path).writable) =
      false := rfl
  have writable : (Location.plain path).writable = true := rfl
  have atJournal := folder.node?_remove_of_ne place.log_ne_journal
  unfold settleLog at settled
  rw [others, shared, writable] at settled
  simp only [Bool.false_eq_true, if_false, if_true] at settled
  cases more : folder.holdsMore place.log with
  | false =>
      rw [more] at settled
      cases settled
      exact ⟨.refl folder, more, rfl⟩
  | true =>
      cases there : folder.holdsFolder place.log with
      | true =>
          rw [more, there] at settled
          cases settled
      | false =>
          rw [more, there] at settled
          cases isBlank with
          | true =>
              cases settled
              exact ⟨wider_remove there, holdsMore_remove_self there, atJournal⟩
          | false =>
              cases index : folder.holdsFolder place.logIndex with
              | true =>
                  rw [index] at settled
                  cases settled
              | false =>
                  rw [index] at settled
                  cases settled
                  have index' : (folder.remove place.log).holdsFolder place.logIndex = false :=
                    (holdsFolder_of_same (folder.node?_remove_of_ne
                      place.logIndex_ne_log.symm)).trans index
                  refine ⟨(wider_remove there).trans (wider_remove index'), ?_, ?_⟩
                  · rw [holdsMore_of_same (node?_remove_of_ne _ place.logIndex_ne_log)]
                    exact holdsMore_remove_self there
                  · rw [node?_remove_of_ne _ place.logIndex_ne_journal]
                    exact atJournal

theorem settle_plain {folder later : Folder} {path : Path} {place : Place}
    {isBlank isLogged : Bool}
    (settled : folder.settle (Location.plain path) place isBlank = (later, .ok isLogged)) :
    folder.Wider later ∧ later.holdsMore place.log = false ∧
      (later.holdsMore place.journal = false ∨ later.holdsFolder place.journal = true) := by
  have moves : ((Location.plain path).makesLock && (folder.node? place.lock).isSome) = false := rfl
  have free : (Location.plain path).isFixed = false := rfl
  unfold settle at settled
  rw [moves, free] at settled
  simp only [Bool.false_eq_true, if_false] at settled
  split at settled
  · cases settled
  · next between first =>
      rcases settleJournal_plain first with ⟨wider, journal⟩
      rcases settleLog_plain settled with ⟨wider', log, same⟩
      refine ⟨wider.trans wider', log, ?_⟩
      rw [holdsMore_of_same same, holdsFolder_of_same same]
      exact journal

/-! ## Files that are found again -/

/-- A database that is kept at a place, which is where its path leads, with nothing
beside it that has to be seen to.  The folders around the path that was typed are there
as well. -/
structure KeptAt (folder : Folder) (typed path : Path) (place : Place) (content : Database) :
    Prop where
  made : folder.HasFolder typed.parent
  around : folder.HasFolder path.parent
  resolved : folder.resolve (folder.start path) path.names = .ok place
  present : folder.node? place = some (.database content)
  noJournal : folder.holdsMore place.journal = false
  noLog : folder.holdsMore place.log = false
  fits : place.journal.name.utf8ByteSize ≤ nameBound

variable {folder later : Folder} {typed path : Path} {place : Place} {content : Database}

theorem KeptAt.free (kept : folder.KeptAt typed path place content) :
    folder.holdsFolder place = false :=
  holdsFolder_of_other kept.present nofun

/-- The file is opened as it is, and nothing else is touched. -/
theorem KeptAt.openLocation (kept : folder.KeptAt typed path place content) :
    folder.openLocation (Location.plain path) path =
      (folder, .ok ⟨place, content, true, false⟩) := by
  have journal : forall isBlank,
      folder.settleJournal (Location.plain path) place isBlank = (folder, .ok ()) := by
    intro isBlank
    refine if_pos ?_
    rw [kept.noJournal]
    exact Bool.or_true _
  have log : forall isBlank,
      folder.settleLog (Location.plain path) place isBlank = (folder, .ok false) := by
    intro isBlank
    refine if_pos ?_
    rw [kept.noLog]
    rfl
  have settled : forall isBlank,
      folder.settle (Location.plain path) place isBlank = (folder, .ok false) := by
    intro isBlank
    unfold settle
    rw [journal]
    dsimp only
    rw [log]
    rfl
  have room : folder.hasRoom place = true := by
    rw [hasRoom, holdsFolder_of_not_more kept.noJournal, decide_eq_true kept.fits]
    rfl
  have opened : folder.openFile (Location.plain path) path =
      (folder, .ok ⟨place, content, true, false⟩) := by
    rw [openFile, kept.resolved]
    dsimp only
    rw [kept.present]
    dsimp only [read]
    rw [settled]
    dsimp only
    rw [room]
    rfl
  exact opened

/-- Another database may be kept in the file. -/
theorem KeptAt.put (kept : folder.KeptAt typed path place content) (changed : Database) :
    (folder.put place (.database changed)).KeptAt typed path place changed := by
  have wider := wider_put kept.free (.database changed)
  have same : forall other, place ≠ other ->
      (folder.put place (.database changed)).node? other = folder.node? other :=
    fun _ different => folder.node?_put_of_ne different _
  exact
    { made := kept.made.wider wider
      around := kept.around.wider wider
      resolved := (wider.resolve_eq kept.around).trans kept.resolved
      present := node?_put_self kept.free _
      noJournal := (holdsMore_of_same (same _ place.journal_ne.symm)).trans kept.noJournal
      noLog := (holdsMore_of_same (same _ place.log_ne.symm)).trans kept.noLog
      fits := kept.fits }

theorem KeptAt.removeJournal (kept : folder.KeptAt typed path place content) :
    (folder.remove place.journal).KeptAt typed path place content := by
  have free := holdsFolder_of_not_more kept.noJournal
  have wider := wider_remove free
  exact
    { made := kept.made.wider wider
      around := kept.around.wider wider
      resolved := (wider.resolve_eq kept.around).trans kept.resolved
      present := (folder.node?_remove_of_ne place.journal_ne).trans kept.present
      noJournal := holdsMore_remove_self free
      noLog := (holdsMore_of_same (folder.node?_remove_of_ne place.log_ne_journal.symm)).trans
        kept.noLog
      fits := kept.fits }

/-- Keeping a database in an open file changes no more than the file. -/
theorem KeptAt.keep {file : DatabaseFile} (kept : folder.KeptAt typed path file.place content)
    {changed : Database} (same : changed = file.content -> changed = content) :
    (folder.keep file changed).KeptAt typed path file.place changed := by
  unfold Folder.keep
  split
  · next unchanged => exact same unchanged ▸ kept
  · split
    · exact kept.put changed
    · exact kept.removeJournal.put changed

/-- What is opened for writing is kept from then on. -/
theorem keptAt_of_read {node : Node} {file : DatabaseFile}
    (made : folder.HasFolder typed.parent) (around : folder.HasFolder path.parent)
    (resolved : folder.resolve (folder.start path) path.names = .ok place)
    (present : folder.node? place = some node)
    (taken : folder.read (Location.plain path) place node = (later, .ok file))
    (writable : file.writable = true) :
    file.place = place ∧ later.KeptAt typed path place file.content := by
  cases node with
  | folder => cases taken
  | device =>
      cases taken
      cases writable
  | foreign =>
      dsimp only [read] at taken
      split at taken <;> cases taken
  | database content =>
      have kept := folder.settle_node? (Location.plain path) place (content == Database.blank)
      dsimp only [read] at taken
      cases settled : folder.settle (Location.plain path) place (content == Database.blank) with
      | mk between result =>
          rw [settled] at kept taken
          cases result with
          | error cause => cases taken
          | ok isLogged =>
              cases taken
              rcases settle_plain settled with ⟨wider, log, journal⟩
              have room : (later.hasRoom place) = true := by
                rw [Bool.and_eq_true] at writable
                exact writable.2
              rw [hasRoom, Bool.and_eq_true, decide_eq_true_iff, Bool.not_eq_true'] at room
              refine ⟨rfl, made.wider wider, around.wider wider,
                (wider.resolve_eq around).trans resolved,
                kept.trans present, ?_, log, room.1⟩
              refine journal.resolve_right fun there => ?_
              rw [room.2] at there
              cases there

theorem keptAt_of_openLocation {file : DatabaseFile} (made : folder.HasFolder typed.parent)
    (around : folder.HasFolder path.parent)
    (opened : folder.openLocation (Location.plain path) path = (later, .ok file))
    (writable : file.writable = true) : later.KeptAt typed path file.place file.content := by
  have opened' : folder.openFile (Location.plain path) path = (later, .ok file) := opened
  unfold openFile at opened'
  split at opened'
  · cases opened'
  · next place resolved =>
      split at opened'
      · next node present =>
          rcases keptAt_of_read made around resolved present opened' writable with ⟨rfl, kept⟩
          exact kept
      · next absent =>
          split at opened'
          · have free := holdsFolder_of_other absent nofun
            have wider := wider_put free (.database Database.blank)
            rcases keptAt_of_read (made.wider wider) (around.wider wider)
              ((wider.resolve_eq around).trans resolved) (node?_put_self free _) opened' writable
              with ⟨rfl, kept⟩
            exact kept
          · cases opened'

end Folder

namespace Store

/-- A connection is to a database of the present version, which is the one that was
given if that had the present version already. -/
theorem connect_eq_ok {durable writable : Bool} {database : Database} {store : Store}
    (connected : connect durable writable database = .ok store) :
    store = ⟨store.database, durable, writable, true⟩ ∧
      store.database.version = schemaVersion ∧
      (database.version = schemaVersion -> store.database = database) := by
  have migrated_version : forall migrated, database.migrate = .ok migrated ->
      migrated.version = schemaVersion := by
    intro migrated migrates
    unfold Database.migrate at migrates
    split at migrates
    · cases migrates
    · next supported =>
        cases migrates
        by_cases current : database.version = schemaVersion
        · rw [(Database.migrate_of_current current).2]
          exact current
        · have older : database.version < schemaVersion := by omega
          rcases Database.pending_eq_append older with ⟨earlier, split, _⟩
          rw [split, List.foldl_append]
          rfl
  have current_eq : forall migrated, database.migrate = .ok migrated ->
      database.version = schemaVersion -> migrated = database := by
    intro migrated migrates current
    rw [(Database.migrate_of_current current).1] at migrates
    cases migrates
    rfl
  unfold connect at connected
  split at connected
  · cases connected
  · next migrated migrates =>
      split at connected
      · cases connected
        exact ⟨rfl, migrated_version migrated migrates, current_eq migrated migrates⟩
      · cases connected

end Store

namespace CommandLine

/-- A text that names the file of a database, where references are read or are not: all
that it asks for is the file at a path. -/
def NamesFile (references : Bool) (text : String) (path : Path) : Prop :=
  Location.ofText references (Path.ofText text).text = .ok (Location.plain path)

instance (references : Bool) (text : String) (path : Path) :
    Decidable (NamesFile references text path) :=
  inferInstanceAs (Decidable (_ = _))

/-- A text names the file at its own path, unless it is the name of the database in memory
or a reference that is read as one. -/
theorem namesFile_of_path {references : Bool} {text : String}
    (notMemory : (Path.ofText text).text ≠ Location.memoryName)
    (noReference :
      (references && Location.scheme.isPrefixOf (Path.ofText text).text.toList) = false) :
    NamesFile references text (Path.ofText text) := by
  rw [NamesFile, Location.ofText, if_neg (Bool.eq_false_iff.mp noReference), if_neg notMemory,
    Path.ofText_text_ofText]

example : NamesFile true "file:a.db?mode=rwc" ⟨false, ["a.db"]⟩ := by decide +kernel

variable {references : Bool} {text : String} {path : Path}

/-- The folders around the file that a text names are there: they are the ones around the
text, which are made, or were there before. -/
def Reaches (folder : Folder) (text : String) (path : Path) : Prop :=
  path = Path.ofText text ∨ folder.HasFolder path.parent

/-- What is known of a database that was opened for writing: it has the present version
and is kept at a place, and so will be whatever its tables become. -/
structure Opened.Keeps (opened : Opened) (typed path : Path) (file : DatabaseFile) : Prop where
  file_eq : opened.file = some file
  store_eq : opened.store = ⟨opened.store.database, true, true, true⟩
  current : opened.store.database.version = schemaVersion
  unchanged : file.content.version = schemaVersion -> opened.store.database = file.content
  kept : opened.folder.KeptAt typed path file.place opened.store.database

theorem Opened.Keeps.keep {opened : Opened} {typed : Path} {file : DatabaseFile}
    (keeps : opened.Keeps typed path file) {store : Store}
    (current : store.database.version = schemaVersion) :
    (keep opened.folder opened.file store).KeptAt typed path file.place store.database := by
  rw [keeps.file_eq]
  refine keeps.kept.keep fun same => ?_
  rw [keeps.unchanged (same ▸ current), same]

/-- Opening a database file for writing. -/
theorem openDatabase_keeps {folder later : Folder} {opened : Opened}
    (names : NamesFile references text path) (reaches : Reaches folder text path)
    (opens : openDatabase references folder text = (later, .ok opened))
    (writable : opened.store.writable = true) :
    (Path.ofText text).hasNul = false ∧
      Exists fun file => opened.Keeps (Path.ofText text) path file := by
  have made_wider := folder.wider_makeAround (Path.ofText text)
  unfold openDatabase at opens
  dsimp only at opens
  split at opens
  · cases opens
  · next between _ made =>
      rw [made] at made_wider
      have around := Folder.hasFolder_of_makeAround made
      have around' : between.HasFolder path.parent := by
        rcases reaches with rfl | there
        · exact around
        · exact there.wider made_wider
      split at opens
      · cases opens
      · next noNul =>
          refine ⟨Bool.eq_false_iff.mpr noNul, ?_⟩
          rw [names] at opens
          unfold openAt Location.plain at opens
          dsimp only at opens
          split at opens
          · cases opens
          · next taken file found =>
              unfold connect at opens
              split at opens
              · cases opens
              · next store connected =>
                  cases opens
                  rcases Store.connect_eq_ok connected with ⟨store_eq, current, unchanged⟩
                  have writable' : file.writable = true := by
                    rw [store_eq] at writable
                    exact writable
                  have kept := Folder.keptAt_of_openLocation around around' found writable'
                  refine ⟨file, rfl, ?_, current, unchanged, ?_⟩
                  · rw [writable'] at store_eq
                    exact store_eq
                  · exact kept.keep fun same => same

/-- A kept database is opened as it is, and the folder stays as it is. -/
theorem openDatabase_of_keptAt {folder : Folder} {place : Place} {content : Database}
    (names : NamesFile references text path) (noNul : (Path.ofText text).hasNul = false)
    (kept : folder.KeptAt (Path.ofText text) path place content)
    (current : content.version = schemaVersion) :
    openDatabase references folder text =
      (folder, .ok ⟨folder, some ⟨place, content, true, false⟩, ⟨content, true, true, true⟩, []⟩) := by
  have connected := Store.connect_of_current current true true
  unfold openDatabase
  dsimp only
  rw [kept.made.makeAround]
  dsimp only
  rw [if_neg (Bool.eq_false_iff.mp noNul), names]
  dsimp only
  unfold openAt
  have named : (Location.plain path).file = some path := rfl
  rw [named]
  dsimp only
  rw [kept.openLocation]
  dsimp only [connect, Option.isSome]
  rw [connected, (Database.migrate_of_current current).2]
  dsimp only [keep]
  rw [Folder.keep, if_pos rfl]

end CommandLine
end ModalDrill
