import ModalDrill.CommandLine.Run
import ModalDrill.Proofs.Store.Migration

namespace ModalDrill

/-!
# Opening a database file

What is done beside a file before it is read leaves the file alone.  So a database
of a later version, which cannot be opened, stays as it is, while one of an earlier
version is brought forward once and then keeps what is recorded.
-/

theorem Place.beside_ne (place : Place) (ending : String) (nonempty : ending ≠ "") :
    place.beside ending ≠ place := by
  intro same
  have names := congrArg Place.names same
  dsimp only [Place.beside, Place.child, Place.parent, Place.name] at names
  rcases List.eq_nil_or_concat place.names with none | ⟨around, last, split⟩
  · rw [none] at names
    cases names
  · rw [split, List.concat_eq_append, List.dropLast_concat, List.getLast?_concat,
      Option.getD_some, List.append_right_inj] at names
    have longer := congrArg String.length (List.cons.inj names).1
    rw [String.length_append] at longer
    have empty : ending.length = 0 := by omega
    exact nonempty (String.length_eq_zero_iff.mp empty)

namespace Folder

/-! ## Changes at other places -/

theorem node?_remove_of_ne (folder : Folder) {place other : Place} (different : other ≠ place) :
    (folder.remove other).node? place = folder.node? place := by
  have found : (folder.nodes.filter fun entry => entry.1 != other).find?
      (fun entry => entry.1 == place) = folder.nodes.find? fun entry => entry.1 == place := by
    rw [List.find?_filter]
    congr 1
    funext entry
    by_cases here : entry.1 = place
    · rw [here]
      simp [Ne.symm different]
    · simp [here]
  dsimp only [node?, remove]
  rw [found]

/-- Writing over what is at one place does not hide what is at another. -/
private theorem find?_replaced {place other : Place} (different : other ≠ place) (node : Node)
    (nodes : List (Place × Node)) :
    (nodes.map fun entry => if entry.1 = other then (other, node) else entry).find?
        (fun entry => entry.1 == place) = nodes.find? fun entry => entry.1 == place := by
  induction nodes with
  | nil => rfl
  | cons entry rest inductionHypothesis =>
      rw [List.map_cons, List.find?_cons, List.find?_cons, inductionHypothesis]
      by_cases replaced : entry.1 = other
      · rw [if_pos replaced, replaced, beq_eq_false_iff_ne.mpr different]
      · rw [if_neg replaced]

theorem node?_put_of_ne (folder : Folder) {place other : Place} (different : other ≠ place)
    (node : Node) : (folder.put other node).node? place = folder.node? place := by
  dsimp only [node?, put]
  split
  · rfl
  · congr 1
    split
    · exact find?_replaced different node folder.nodes
    · have elsewhere : ¬ (other == place) = true := by
        rw [beq_iff_eq]
        exact different
      rw [List.find?_append, List.find?_singleton, if_neg elsewhere, Option.or_none]

/-! ## What is beside a file -/

theorem settleJournal_node? (folder : Folder) (location : Location) (place : Place)
    (isBlank : Bool) :
    (folder.settleJournal location place isBlank).1.node? place = folder.node? place := by
  have removed : (folder.remove place.journal).node? place = folder.node? place :=
    folder.node?_remove_of_ne (place.beside_ne "-journal" (by decide))
  unfold settleJournal
  split
  · rfl
  · split
    · rfl
    · split
      · dsimp only
        split
        · exact removed
        · rfl
      · split
        · exact removed
        · rfl

theorem settleLog_node? (folder : Folder) (location : Location) (place : Place)
    (isBlank : Bool) :
    (folder.settleLog location place isBlank).1.node? place = folder.node? place := by
  have besideLog : place.log ≠ place := place.beside_ne "-wal" (by decide)
  have besideIndex : place.logIndex ≠ place := place.beside_ne "-shm" (by decide)
  have removed := folder.node?_remove_of_ne besideLog
  unfold settleLog
  split
  · rfl
  · split
    · rfl
    · split
      · exact removed
      · split
        · rfl
        · split
          · exact removed
          · split
            · rfl
            · split
              · exact ((folder.remove place.log).node?_remove_of_ne besideIndex).trans removed
              · exact folder.node?_put_of_ne besideIndex .foreign

/-- Nothing that is done before a file is read changes the file. -/
theorem settle_node? (folder : Folder) (location : Location) (place : Place) (isBlank : Bool) :
    (folder.settle location place isBlank).1.node? place = folder.node? place := by
  have journal := folder.settleJournal_node? location place isBlank
  unfold settle
  split
  · rfl
  · split
    · rfl
    · generalize folder.settleJournal location place isBlank = result at journal ⊢
      rcases result with ⟨later, cause | done⟩
      · exact journal
      · exact (later.settleLog_node? location place isBlank).trans journal

/-! ## Opening -/

/-- What is read as a database that holds something is such a database, and its
file stays as it is. -/
theorem read_of_filled {folder later : Folder} {location : Location} {place : Place} {node : Node}
    {file : DatabaseFile} (taken : folder.read location place node = (later, .ok file))
    (filled : file.content ≠ Database.blank) :
    node = .database file.content ∧ file.place = place ∧
      later.node? place = folder.node? place := by
  cases node with
  | folder => cases taken
  | device =>
      cases taken
      exact absurd rfl filled
  | foreign =>
      dsimp only [read] at taken
      split at taken <;> cases taken
  | database content =>
      have kept := folder.settle_node? location place (content == Database.blank)
      dsimp only [read] at taken
      generalize folder.settle location place (content == Database.blank) = result at kept taken
      rcases result with ⟨settled, cause | isLogged⟩
      · cases taken
      · cases taken
        exact ⟨rfl, rfl, kept⟩

theorem openFile_of_filled {folder later : Folder} {location : Location} {path : Path}
    {file : DatabaseFile} (opened : folder.openFile location path = (later, .ok file))
    (filled : file.content ≠ Database.blank) :
    folder.node? file.place = some (.database file.content) ∧
      later.node? file.place = some (.database file.content) := by
  unfold openFile at opened
  cases resolved : folder.resolve (folder.start path) path.names with
  | error cause =>
      rw [resolved] at opened
      cases opened
  | ok place =>
      rw [resolved] at opened
      dsimp only at opened
      cases present : folder.node? place with
      | none =>
          rw [present] at opened
          dsimp only at opened
          split at opened
          · have made := (read_of_filled opened filled).1
            exact absurd (Node.database.inj made).symm filled
          · cases opened
      | some node =>
          rw [present] at opened
          rcases read_of_filled opened filled with ⟨rfl, rfl, kept⟩
          exact ⟨present, kept.trans present⟩

theorem openLocation_of_filled {folder later : Folder} {location : Location} {path : Path}
    {file : DatabaseFile} (opened : folder.openLocation location path = (later, .ok file))
    (filled : file.content ≠ Database.blank) :
    folder.node? file.place = some (.database file.content) ∧
      later.node? file.place = some (.database file.content) := by
  unfold openLocation at opened
  split at opened
  · exact openFile_of_filled opened filled
  · cases opened

end Folder

namespace CommandLine

/-- A database of a later version is refused, and its file stays as it is. -/
theorem openAt_of_newer {folder later : Folder} {location : Location} {path : Path}
    {file : DatabaseFile} (named : location.file = some path)
    (opened : folder.openLocation location path = (later, .ok file))
    (newer : schemaVersion < file.content.version) :
    openAt folder location = (later, .error (.store (.unsupportedVersion file.content.version))) ∧
      folder.node? file.place = some (.database file.content) ∧
      later.node? file.place = some (.database file.content) := by
  have filled : file.content ≠ Database.blank := by
    intro blank
    rw [blank] at newer
    exact absurd newer (by decide)
  refine ⟨?_, Folder.openLocation_of_filled opened filled⟩
  dsimp only [openAt]
  rw [named]
  dsimp only
  rw [opened]
  dsimp only [connect, Store.connect]
  rw [Database.migrate_of_newer newer]

/-- A database with nothing but an old version, or with nothing at all, which has
version zero, is brought forward when it is opened: exactly the versions behind its
own are written down, and the tables are empty.  From then on no opening shows more
or less than was recorded.  A file of a later version is refused and stays as it is,
and a store in memory is empty whenever it is opened. -/
theorem openings_keep_records {version : Int} (old : version ≤ 0) :
    (Exists fun versions => Exists fun store =>
      (forall applied, applied ∈ versions ↔ version < applied ∧ applied ≤ 1) ∧
        versions.Pairwise (· < ·) ∧
        Store.connect true true (Database.bare version) = .ok store ∧
        Store.connect true false (Database.bare version) = .error .readOnly ∧
        store.tables = .ok Tables.empty ∧
        forall requests, (store.serveAll requests).1.Endures versions) ∧
      (forall (folder later : Folder) (location : Location) (path : Path) (file : DatabaseFile),
        location.file = some path -> folder.openLocation location path = (later, .ok file) ->
          1 < file.content.version ->
            openAt folder location =
                (later, .error (.store (.unsupportedVersion file.content.version))) ∧
              folder.node? file.place = some (.database file.content) ∧
              later.node? file.place = some (.database file.content)) ∧
      Exists fun store => Store.inMemory = .ok store ∧ store.tables = .ok Tables.empty ∧
        forall requests, (store.serveAll requests).1.serve .reopen = (store, .ok .done) := by
  refine ⟨?_, fun _ _ _ _ _ named opened newer => openAt_of_newer named opened newer, ?_⟩
  · have lasts : Store.Lasts (Database.bare version).pending
        ⟨⟨schemaVersion, (Database.bare version).pending, some Tables.empty⟩, true, true, true⟩ :=
      ⟨rfl, rfl, rfl, rfl⟩
    refine ⟨_, _, (Database.bare version).mem_pending, (Database.bare version).pending_pairwise,
      Store.connect_bare old true true, Store.connect_bare old true false, rfl, ?_⟩
    exact fun requests => (lasts.serveAll requests).endures
  · refine ⟨_, Store.inMemory_eq, rfl, fun requests => ?_⟩
    have passes : Store.Passes
        ⟨⟨schemaVersion, (Database.bare 0).pending, some Tables.empty⟩, false, true, true⟩ :=
      ⟨rfl, rfl⟩
    exact Store.serve_reopen ((passes.serveAll requests).reopen.trans Store.inMemory_eq)

/-- A file with version minus two, to which a game is recorded.  A deletion after the
closing is refused, and the game is there when the file is opened again. -/
theorem openings_keep_records_minus_two :
    let ann : Json := .text (CodeText.ofString "ann")
    (-2 : Int) ≤ 0 ∧
      Exists fun versions => Exists fun store =>
        Store.connect true true (Database.bare (-2)) = .ok store ∧
          ((store.serveAll [.record ann (.integer 3), .close, .delete ann]).1).Endures versions ∧
          versions = [-1, 0, 1] ∧
          ((store.serveAll
              [.record ann (.integer 3), .close, .delete ann, .reopen]).1).player? ann =
            .ok (some ⟨"ann", 1, 3⟩) := by
  intro ann
  have old : (-2 : Int) ≤ 0 := by decide
  rcases (openings_keep_records old).1 with ⟨versions, store, _, _, connected, _, _, endures⟩
  refine ⟨old, versions, store, connected, endures _, ?_, ?_⟩
  · cases connected
    have schema := (endures []).schema
    cases schema
    rfl
  · cases connected
    decide +kernel

end CommandLine
end ModalDrill
