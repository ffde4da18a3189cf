import ModalDrill.Proofs.Service.Operation
import ModalDrill.Proofs.Session.Submission
import ModalDrill.Proofs.Store.Log

namespace ModalDrill

/-!
# The book of a hall

The book of a hall lists the games that are put on record: every direct record
and the first finish of every session, in order.  It is kept beside the store,
from the operations that are answered and from the sessions as they are at the
time.  The table of games always holds the book, behind what was there before.
A recorded session has finished, and no input changes a finished session, so the
score in the book stays the score of the session.  A session may have a player whose
name the store does not take; it is finished like any other, and never recorded.
-/

namespace Hall

/-- A game on record, and the number of the session that it is of, if it is of one. -/
structure Entry where
  session? : Option Nat
  game : GameRecord
deriving DecidableEq, Repr

/-- Is there an entry of a session in a book? -/
def entered (book : List Entry) (number : Nat) : Bool :=
  book.any fun entry => entry.session? == some number

/-- Write an entry, unless its session has one. -/
def enter (book : List Entry) (entry : Entry) : List Entry :=
  if entry.session?.any (entered book) then book else book ++ [entry]

/-- The entry that an operation asks for: a direct record as it is given, or a
session with its player and its score of this moment. -/
def asked? (hall : Hall) : Operation -> Option Entry
  | .record (.text name) (.integer score) => some ⟨none, Text.strip name.toString, score⟩
  | .finish number =>
      hall.sessions[number]?.map fun session =>
        ⟨some number, session.user.toString, session.score⟩
  | _ => none

/-- What an operation asks for, unless it is refused. -/
def granted {α : Type} (asked : Option α) : Except Failure Answer -> Option α
  | .error _ => none
  | .ok _ => asked

/-- The entries of all operations that are not refused. -/
def entries (hall : Hall) : List Operation -> List Entry
  | [] => []
  | operation :: rest =>
      (granted (hall.asked? operation) (hall.perform operation).2).toList ++
        (hall.perform operation).1.entries rest

def book (hall : Hall) (operations : List Operation) : List Entry :=
  (hall.entries operations).foldl enter []

/-- The stripped name in a start. -/
def named? : Operation -> Option CodeText
  | .start (.text name) _ => some name.strip
  | _ => none

/-- The players of the sessions that are started. -/
def players (hall : Hall) : List Operation -> List CodeText
  | [] => []
  | operation :: rest =>
      (granted (named? operation) (hall.perform operation).2).toList ++
        (hall.perform operation).1.players rest

theorem entries_append (hall : Hall) (operations later : List Operation) :
    hall.entries (operations ++ later) =
      hall.entries operations ++ (hall.run operations).entries later := by
  induction operations generalizing hall with
  | nil => rfl
  | cons operation rest inductionHypothesis =>
      rw [List.cons_append, entries, entries, inductionHypothesis, run_cons, List.append_assoc]

theorem book_append (hall : Hall) (operations : List Operation) (operation : Operation) :
    hall.book (operations ++ [operation]) =
      (granted ((hall.run operations).asked? operation)
        ((hall.run operations).perform operation).2).toList.foldl enter (hall.book operations) := by
  rw [book, entries_append, List.foldl_append, entries, entries, List.append_nil]
  rfl

theorem players_append (hall : Hall) (operations : List Operation) (operation : Operation) :
    hall.players (operations ++ [operation]) =
      hall.players operations ++
        (granted (named? operation) ((hall.run operations).perform operation).2).toList := by
  induction operations generalizing hall with
  | nil => exact List.append_nil _
  | cons first rest inductionHypothesis =>
      rw [List.cons_append, players, players, inductionHypothesis, run_cons, List.append_assoc]

/-! ## Entries -/

section
variable {book : List Entry} {number : Nat}

theorem entered_iff :
    entered book number = true ↔
      Exists fun entry => entry ∈ book ∧ entry.session? = some number := by
  simp only [entered, List.any_eq_true, beq_iff_eq]

theorem entered_append (book : List Entry) (entry : Entry) (number : Nat) :
    entered (book ++ [entry]) number = (entered book number || entry.session? == some number) := by
  simp only [entered, List.any_append, List.any_cons, List.any_nil, Bool.or_false]

theorem enter_of_entered {entry : Entry} (ofSession : entry.session? = some number)
    (known : entered book number = true) : enter book entry = book := by
  unfold enter
  rw [ofSession]
  exact if_pos known

theorem enter_of_unentered {entry : Entry} (ofSession : entry.session? = some number)
    (unknown : entered book number = false) : enter book entry = book ++ [entry] := by
  unfold enter
  rw [ofSession]
  exact if_neg (Bool.eq_false_iff.mp unknown)

theorem enter_direct {entry : Entry} (direct : entry.session? = none) :
    enter book entry = book ++ [entry] := by
  unfold enter
  rw [direct]
  exact if_neg Bool.false_ne_true

end

/-! ## One session in the book -/

/-- How a session stands in a book.  Its player has a name.  It is in the book
once it has been recorded; then its name has a form in bytes, it has finished, and
the book has its score. -/
structure Filed (book : List Entry) (number : Nat) (session : Session) : Prop where
  named : session.user.toString ≠ ""
  stripped : session.user.strip = session.user
  entered_eq : entered book number = session.stats.isSome
  encodable : session.stats.isSome = true -> session.user.isEncodable = true
  ended : session.stats.isSome = true -> session.finished = true
  game_eq : forall entry, entry ∈ book -> entry.session? = some number ->
    entry.game = ⟨session.user.toString, session.score⟩

namespace Filed

variable {book : List Entry} {number : Nat} {session : Session}

/-- A session may do what it likes until it is recorded, if it keeps its player;
from then on it keeps its score. -/
theorem change (filed : Filed book number session) {changed : Session}
    (user_eq : changed.user = session.user) (stats_eq : changed.stats = session.stats)
    (frozen : session.finished = true ->
      changed.finished = true ∧ changed.score = session.score) : Filed book number changed where
  named := by
    rw [user_eq]
    exact filed.named
  stripped := by
    rw [user_eq]
    exact filed.stripped
  entered_eq := by
    rw [stats_eq]
    exact filed.entered_eq
  encodable := by
    rw [stats_eq, user_eq]
    exact filed.encodable
  ended := by
    intro recorded
    rw [stats_eq] at recorded
    exact (frozen (filed.ended recorded)).1
  game_eq := by
    intro entry listed ofSession
    have recorded := filed.entered_eq.symm.trans (entered_iff.mpr ⟨entry, listed, ofSession⟩)
    rw [user_eq, (frozen (filed.ended recorded)).2]
    exact filed.game_eq entry listed ofSession

/-- The store does not find the name of the player blank. -/
theorem strip_ne (filed : Filed book number session) :
    Text.strip session.user.toString ≠ "" := by
  rw [← CodeText.toString_strip, filed.stripped]
  exact filed.named

theorem finish (filed : Filed book number session) : Filed book number session.finish :=
  filed.change rfl rfl fun _ => ⟨rfl, rfl⟩

theorem submit (filed : Filed book number session) (register : Option Line) (now : Seconds)
    (input : String) : Filed book number (session.submit register now input).session := by
  have owner := (session.submit_submitted register now input).owner_eq
  refine filed.change owner.1 owner.2 fun finished => ?_
  rw [Session.submit_of_finished finished]
  exact ⟨finished, rfl⟩

/-- An entry of something else does not matter to a session. -/
theorem append (filed : Filed book number session) {entry : Entry}
    (other : entry.session? ≠ some number) : Filed (book ++ [entry]) number session :=
  { filed with
    entered_eq := by
      rw [entered_append, beq_eq_false_iff_ne.mpr other, Bool.or_false]
      exact filed.entered_eq
    game_eq := by
      intro known listed ofSession
      rcases List.mem_append.mp listed with before | last
      · exact filed.game_eq known before ofSession
      · cases List.mem_singleton.mp last
        exact absurd ofSession other }

/-- A session is recorded with the score that it ends with. -/
theorem record (filed : Filed book number session) (unknown : session.stats = none)
    (encodable : session.user.isEncodable = true) (stats : PlayerStats) :
    Filed (book ++ [⟨some number, session.user.toString, session.score⟩]) number
      { session.finish with stats := some stats } where
  named := filed.named
  stripped := filed.stripped
  entered_eq := by
    rw [entered_append, beq_self_eq_true, Bool.or_true]
    rfl
  encodable := fun _ => encodable
  ended := fun _ => rfl
  game_eq := by
    intro entry listed ofSession
    rcases List.mem_append.mp listed with before | last
    · have recorded := filed.entered_eq.symm.trans (entered_iff.mpr ⟨entry, before, ofSession⟩)
      rw [unknown] at recorded
      cases recorded
    · cases List.mem_singleton.mp last
      rfl

/-- A session that has just begun is right in every book without it. -/
theorem begin {name : CodeText} {questions : List Question} {sampleText : List Line}
    {duration now : Seconds} (unknown : entered book number = false)
    (named : Text.strip name.toString ≠ "")
    (begins : Session.Begins name.strip questions sampleText duration now session) :
    Filed book number session where
  named := by
    rw [begins.user_eq, CodeText.toString_strip]
    exact named
  stripped := by
    rw [begins.user_eq, CodeText.strip_strip]
  entered_eq := by
    rw [unknown, begins.stats_eq]
    rfl
  encodable := by
    rw [begins.stats_eq]
    rintro ⟨⟩
  ended := by
    rw [begins.stats_eq]
    rintro ⟨⟩
  game_eq := by
    intro entry listed ofSession
    rw [entered_iff.mpr ⟨entry, listed, ofSession⟩] at unknown
    cases unknown

end Filed

/-! ## All sessions in the book -/

/-- A store whose table of games holds a book, behind the games that were there. -/
def Stored (games : List GameRecord) (book : List Entry) (store : Store) : Prop :=
  Exists fun tables => store.tables = .ok tables ∧ tables.games = games ++ book.map Entry.game

theorem Stored.append {games : List GameRecord} {book : List Entry} {store : Store}
    (stored : Stored games book store) {tables : Tables} (connected : store.tables = .ok tables)
    (session? : Option Nat) (name : String) (score : Int) :
    Stored games (book ++ [⟨session?, name, score⟩])
      (store.withTables (tables.added name score)) := by
  rcases stored with ⟨tables', connected', games_eq⟩
  rw [connected] at connected'
  cases connected'
  refine ⟨_, Store.withTables_tables connected _, ?_⟩
  rw [Tables.added, games_eq, List.map_append, List.append_assoc]
  rfl

/-- A hall whose store holds a book in which every session of the hall is filed,
and no session twice. -/
structure Kept (games : List GameRecord) (book : List Entry) (hall : Hall) : Prop where
  stored : Stored games book hall.service.store
  filed : forall number session, hall.sessions[number]? = some session -> Filed book number session
  present : forall number, entered book number = true -> number < hall.sessions.length
  distinct : (book.filterMap Entry.session?).Nodup

namespace Kept

variable {games : List GameRecord} {book : List Entry} {hall : Hall}

/-- One session changes, and the book with it, as far as that session goes. -/
theorem change (kept : Kept games book hall) {later : Hall} {book' : List Entry} {number : Nat}
    {session changed : Session} (sessions_eq : later.sessions = hall.sessions)
    (stored : Stored games book' later.service.store)
    (present : hall.sessions[number]? = some session) (filed : Filed book' number changed)
    (others : forall other session, number ≠ other -> Filed book other session ->
      Filed book' other session)
    (known : forall other, entered book' other = true -> entered book other = true ∨ other = number)
    (distinct : (book'.filterMap Entry.session?).Nodup) :
    Kept games book' (later.withSession number changed) where
  stored := stored
  filed := by
    intro other found listed
    by_cases same : number = other
    · subst same
      rw [← sessions_eq] at present
      rw [withSession_self present] at listed
      cases listed
      exact filed
    · rw [withSession_other same, sessions_eq] at listed
      exact others other found same (kept.filed other found listed)
  present := by
    intro other entered
    rw [withSession, List.length_set, sessions_eq]
    rcases known other entered with before | rfl
    · exact kept.present other before
    · exact (List.getElem?_eq_some_iff.mp present).1
  distinct := distinct

/-- One session changes, and its place in the book fits it still. -/
theorem changeSession (kept : Kept games book hall) {later : Hall}
    (sessions_eq : later.sessions = hall.sessions)
    (store_eq : later.service.store = hall.service.store) {number : Nat} {session : Session}
    (present : hall.sessions[number]? = some session) {changed : Session}
    (filed : Filed book number changed) : Kept games book (later.withSession number changed) :=
  kept.change sessions_eq (store_eq ▸ kept.stored) present filed (fun _ _ _ filed => filed)
    (fun _ known => Or.inl known) kept.distinct

theorem spares (kept : Kept games book hall) {operation : Operation} {later : Hall}
    (spares : hall.Spares operation later) : Kept games book later where
  stored := by
    rw [spares.store_eq]
    exact kept.stored
  filed := by
    rw [spares.sessions_eq]
    exact kept.filed
  present := by
    rw [spares.sessions_eq]
    exact kept.present
  distinct := kept.distinct

/-- A new session is in no book. -/
theorem start (kept : Kept games book hall) {name : CodeText}
    (named : Text.strip name.toString ≠ "") {questions : List Question} {sampleText : List Line}
    {duration now : Seconds} {session : Session}
    (begins : Session.Begins name.strip questions sampleText duration now session) :
    Kept games book { hall.withRegister none with sessions := hall.sessions ++ [session] } where
  stored := kept.stored
  filed := by
    intro number found listed
    rcases getElem?_concat_cases listed with before | ⟨rfl, rfl⟩
    · exact kept.filed number found before
    · have unknown : entered book hall.sessions.length = false :=
        Bool.eq_false_iff.mpr fun known => Nat.lt_irrefl _ (kept.present _ known)
      exact .begin unknown named begins
  present := by
    intro number known
    have before := kept.present number known
    rw [List.length_append]
    exact Nat.lt_add_right _ before
  distinct := kept.distinct

/-- A direct record is written behind the book. -/
theorem record (kept : Kept games book hall) {tables : Tables}
    (connected : hall.service.store.tables = .ok tables) (name : String) (score : Int) :
    Kept games (book ++ [⟨none, name, score⟩])
      (hall.withStore (hall.service.store.withTables (tables.added name score))) where
  stored := kept.stored.append connected _ _ _
  filed := fun number session listed =>
    (kept.filed number session listed).append (by rintro ⟨⟩)
  present := by
    intro number known
    rw [entered_append] at known
    exact kept.present number ((Bool.or_false _).symm.trans known)
  distinct := by
    rw [List.filterMap_append]
    exact (List.append_nil _).symm ▸ kept.distinct

/-- The first finish of a session is written behind the book. -/
theorem finish (kept : Kept games book hall) {tables : Tables}
    (connected : hall.service.store.tables = .ok tables) {number : Nat} {session : Session}
    (present : hall.sessions[number]? = some session) (unknown : session.stats = none)
    (encodable : session.user.isEncodable = true) (stats : PlayerStats) :
    Kept games (book ++ [⟨some number, session.user.toString, session.score⟩])
      ((hall.withStore (hall.service.store.withTables
        (tables.added session.user.toString session.score))).withSession
          number { session.finish with stats := some stats }) := by
  have filed := kept.filed number session present
  refine kept.change rfl (kept.stored.append connected _ _ _) present
    (filed.record unknown encodable stats) ?_ ?_ ?_
  · intro other found different filed
    exact filed.append fun same => different (Option.some.inj same)
  · intro other known
    rw [entered_append, Bool.or_eq_true, beq_iff_eq] at known
    exact known.imp_right fun same => (Option.some.inj same).symm
  · have fresh := filed.entered_eq
    rw [unknown] at fresh
    rw [List.filterMap_append]
    refine List.pairwise_append.mpr ⟨kept.distinct, List.pairwise_singleton _ _, ?_⟩
    intro earlier listed last listed' same
    rcases List.mem_filterMap.mp listed with ⟨entry, listed, ofSession⟩
    rw [same, List.mem_singleton.mp listed'] at ofSession
    rw [entered_iff.mpr ⟨entry, listed, ofSession⟩] at fresh
    cases fresh

end Kept

theorem granted_none {α : Type} (answer : Except Failure Answer) :
    granted (none : Option α) answer = none := by
  cases answer <;> rfl

theorem asked?_finish {hall : Hall} {number : Nat} {session : Session}
    (present : hall.sessions[number]? = some session) :
    hall.asked? (.finish number) =
      some ⟨some number, session.user.toString, session.score⟩ := by
  rw [asked?, present]
  rfl

/-- What an operation does to the book is what its entry does. -/
theorem Kept.performed {games : List GameRecord} {book : List Entry} {hall later : Hall}
    (kept : Kept games book hall) {operation : Operation} {answer : Except Failure Answer}
    (performed : hall.Performed operation later answer) :
    Kept games ((granted (hall.asked? operation) answer).toList.foldl enter book) later := by
  rcases kept.stored with ⟨tables, connected, _⟩
  cases performed with
  | refused spares => exact kept.spares spares
  | aside spares isAside =>
      have unasked : hall.asked? operation = none := by
        cases operation <;> first | rfl | cases isAside
      rw [unasked, granted_none]
      exact kept.spares spares
  | started named begins => exact kept.start named begins
  | @submitted number session present input =>
      have unasked : hall.asked? (.submit number input) = none := rfl
      rw [unasked, granted_none, submit_hall, Option.toList_none, List.foldl_nil]
      refine kept.changeSession ?_ ?_ present ((kept.filed _ _ present).submit _ _ input)
      · rfl
      · rfl
  | left present => exact kept.changeSession rfl rfl present (kept.filed _ _ present).finish
  | @finishedAgain number session stats present known =>
      have filed := kept.filed number session present
      have entered := filed.entered_eq
      rw [known] at entered
      rw [granted, asked?_finish present, Option.toList_some, List.foldl_cons, List.foldl_nil,
        enter_of_entered rfl entered]
      exact kept.changeSession rfl rfl present filed.finish
  | @finishedFirst number session store answer present unknown recorded =>
      have filed := kept.filed number session present
      rcases Store.record_ends connected (.text session.user) (.integer session.score) with
        ⟨cause, refused⟩ | ⟨name, value, sameName, sameScore, encodable, added⟩
      · -- The session has finished even so, and may be recorded by a later finish.
        cases recorded.symm.trans refused
        refine kept.changeSession rfl rfl present ?_
        exact filed.change rfl unknown.symm fun _ => ⟨rfl, rfl⟩
      · cases recorded.symm.trans added
        cases sameName
        cases sameScore
        have unentered := filed.entered_eq
        rw [unknown] at unentered
        rw [← CodeText.toString_strip, filed.stripped, answered, granted, asked?_finish present,
          Option.toList_some, List.foldl_cons, List.foldl_nil, enter_of_unentered rfl unentered]
        exact kept.finish connected present unknown encodable _
  | @recorded username score store answer recorded =>
      rcases Store.record_ends connected username score with
        ⟨cause, refused⟩ | ⟨name, value, rfl, rfl, _, added⟩
      · cases recorded.symm.trans refused
        exact kept
      · cases recorded.symm.trans added
        rw [answered, granted, asked?, Option.toList_some, List.foldl_cons, List.foldl_nil,
          enter_direct rfl]
        exact kept.record connected _ _

theorem Kept.new {service : Service} {tables : Tables}
    (connected : service.store.tables = .ok tables) : Kept tables.games [] (Hall.new service) where
  stored := ⟨tables, connected, (List.append_nil _).symm⟩
  filed := by
    intro number session listed
    cases listed
  present := by
    rintro number ⟨⟩
  distinct := List.nodup_nil

/-- The book of a run is kept. -/
theorem Kept.run {service : Service} {tables : Tables}
    (connected : service.store.tables = .ok tables) (operations : List Operation) :
    Kept tables.games ((Hall.new service).book operations) ((Hall.new service).run operations) := by
  induction operations using List.reverseRecOn with
  | nil => exact .new connected
  | append_singleton operations operation inductionHypothesis =>
      rw [book_append, run_append]
      exact inductionHypothesis.performed (perform_performed _ operation)

/-! ## Players, scores and recorded sessions -/

theorem withSession_same {hall : Hall} {number : Nat} {session : Session}
    (present : hall.sessions[number]? = some session) : hall.withSession number session = hall := by
  rcases List.getElem?_eq_some_iff.mp present with ⟨inside, rfl⟩
  rw [withSession, List.set_getElem_self]

theorem map_user_withSession {hall : Hall} {number : Nat} {session changed : Session}
    (present : hall.sessions[number]? = some session) (user_eq : changed.user = session.user) :
    (hall.withSession number changed).sessions.map Session.user =
      hall.sessions.map Session.user := by
  rcases List.getElem?_eq_some_iff.mp present with ⟨inside, rfl⟩
  rw [withSession, List.map_set, user_eq, ← List.map_set, List.set_getElem_self]

private theorem players_of_unnamed {hall later : Hall} {operation : Operation}
    (unnamed : named? operation = none)
    (same : later.sessions.map Session.user = hall.sessions.map Session.user)
    (answer : Except Failure Answer) :
    later.sessions.map Session.user =
      hall.sessions.map Session.user ++ (granted (named? operation) answer).toList := by
  rw [unnamed, granted_none, Option.toList_none, List.append_nil, same]

/-- Only a start brings a player, and no player ever leaves. -/
theorem Performed.players {hall later : Hall} {operation : Operation}
    {answer : Except Failure Answer} (performed : hall.Performed operation later answer) :
    later.sessions.map Session.user =
      hall.sessions.map Session.user ++ (granted (named? operation) answer).toList := by
  cases performed with
  | refused spares => rw [spares.sessions_eq, granted, Option.toList_none, List.append_nil]
  | aside spares isAside =>
      have unnamed : named? operation = none := by
        cases operation <;> first | rfl | cases isAside
      exact players_of_unnamed unnamed (congrArg _ spares.sessions_eq) _
  | started named begins =>
      rw [List.map_append, List.map_singleton, begins.user_eq]
      rfl
  | @submitted number session present input =>
      have submitted := session.submit_submitted hall.service.register (.real hall.clock) input
      exact players_of_unnamed rfl (map_user_withSession present submitted.owner_eq.1) _
  | left present =>
      refine players_of_unnamed ?_ (map_user_withSession present ?_) _ <;> rfl
  | finishedAgain present =>
      refine players_of_unnamed ?_ (map_user_withSession present ?_) _ <;> rfl
  | finishedFirst present =>
      refine players_of_unnamed ?_ (map_user_withSession present ?_) _ <;> rfl
  | recorded =>
      refine players_of_unnamed ?_ ?_ _ <;> rfl

theorem run_players (service : Service) (operations : List Operation) :
    ((Hall.new service).run operations).sessions.map Session.user =
      (Hall.new service).players operations := by
  induction operations using List.reverseRecOn with
  | nil => rfl
  | append_singleton operations operation inductionHypothesis =>
      rw [players_append, run_append, ← inductionHypothesis]
      exact (perform_performed _ operation).players

/-- A session scores at most one point in an operation. -/
theorem score_le_length (service : Service) (operations : List Operation) (number : Nat)
    (session : Session)
    (present : ((Hall.new service).run operations).sessions[number]? = some session) :
    session.score ≤ operations.length := by
  induction operations using List.reverseRecOn generalizing session with
  | nil => cases present
  | append_singleton operations operation inductionHypothesis =>
      rw [run_append] at present
      rw [List.length_append]
      rcases (perform_performed _ operation).session_cases present with
        ⟨before, present, moves⟩ | ⟨user, count, begins⟩
      · exact moves.score_le.trans (Nat.add_le_add_right (inductionHypothesis _ present) 1)
      · rw [begins.score_eq]
        exact Nat.zero_le _

theorem finish_of_finished {session : Session} (finished : session.finished = true) :
    session.finish = session := by
  rw [Session.finish, ← finished]

private theorem found_of_withSession {hall later : Hall} {number other : Nat}
    {session touched changed : Session} (sessions_eq : later.sessions = hall.sessions)
    (present : hall.sessions[number]? = some session)
    (present' : hall.sessions[other]? = some touched)
    (same : touched = session -> changed = session) :
    (later.withSession other changed).sessions[number]? = some session := by
  rw [← sessions_eq] at present present'
  by_cases this : other = number
  · subst this
    rw [withSession_self present, same (Option.some.inj (present'.symm.trans present))]
  · rw [withSession_other this]
    exact present

/-- A recorded session stays exactly as it is. -/
theorem Performed.keeps_recorded {hall later : Hall} {operation : Operation}
    {answer : Except Failure Answer} (performed : hall.Performed operation later answer)
    {number : Nat} {session : Session} (present : hall.sessions[number]? = some session)
    (finished : session.finished = true) {stats : PlayerStats}
    (known : session.stats = some stats) : later.sessions[number]? = some session := by
  have ended : forall touched : Session, touched = session -> touched.finish = session := by
    rintro touched rfl
    exact finish_of_finished finished
  cases performed with
  | refused spares => exact spares.sessions_eq ▸ present
  | aside spares => exact spares.sessions_eq ▸ present
  | started =>
      have inside : number < hall.sessions.length := (List.getElem?_eq_some_iff.mp present).1
      exact (List.getElem?_append_left inside).trans present
  | submitted touched input =>
      refine found_of_withSession rfl present touched ?_
      rintro rfl
      rw [Session.submit_of_finished finished]
  | left touched => exact found_of_withSession rfl present touched (ended _)
  | finishedAgain touched => exact found_of_withSession rfl present touched (ended _)
  | finishedFirst touched unknown =>
      refine found_of_withSession rfl present touched ?_
      rintro rfl
      rw [unknown] at known
      cases known
  | recorded => exact present

theorem run_keeps_recorded {hall : Hall} {number : Nat} {session : Session}
    (present : hall.sessions[number]? = some session) (finished : session.finished = true)
    {stats : PlayerStats} (known : session.stats = some stats) (operations : List Operation) :
    (hall.run operations).sessions[number]? = some session := by
  induction operations generalizing hall with
  | nil => exact present
  | cons operation rest inductionHypothesis =>
      exact inductionHypothesis
        ((hall.perform_performed operation).keeps_recorded present finished known)

/-- A finish that is answered leaves a recorded session. -/
theorem recorded_of_finish {hall : Hall} {number : Nat} {stats : PlayerStats}
    (answer : (hall.perform (.finish number)).2 = .ok (.finished stats)) :
    Exists fun session => (hall.perform (.finish number)).1.sessions[number]? = some session ∧
      session.finished = true ∧ session.stats = some stats := by
  have performed := hall.perform_performed (.finish number)
  rw [answer] at performed
  generalize (hall.perform (.finish number)).1 = later at performed ⊢
  generalize asked : Except.ok (Answer.finished stats) = given at performed
  cases performed with
  | refused => cases asked
  | aside spares isAside => cases isAside
  | finishedAgain present known =>
      cases asked
      exact ⟨_, withSession_self present _, rfl, known⟩
  | @finishedFirst number session store answer present unknown recorded =>
      cases answer with
      | error cause => cases asked
      | ok stats =>
          cases asked
          exact ⟨_, withSession_self present _, rfl, rfl⟩

/-- Only a finish or a record can change the store. -/
theorem Performed.store_eq {hall later : Hall} {operation : Operation}
    {answer : Except Failure Answer} (performed : hall.Performed operation later answer)
    (quiet : operation.records = false) : later.service.store = hall.service.store := by
  cases performed with
  | refused spares => exact spares.store_eq
  | aside spares => exact spares.store_eq
  | started => rfl
  | submitted => rfl
  | left => rfl
  | finishedAgain => cases quiet
  | finishedFirst => cases quiet
  | recorded => cases quiet

theorem Performed.writable_eq {hall later : Hall} {operation : Operation}
    {answer : Except Failure Answer} (performed : hall.Performed operation later answer) :
    later.service.store.writable = hall.service.store.writable := by
  cases performed with
  | refused spares => rw [spares.store_eq]
  | aside spares => rw [spares.store_eq]
  | finishedFirst present unknown recorded => exact Store.record_writable recorded
  | recorded recorded => exact Store.record_writable recorded
  | _ => rfl

theorem run_writable (hall : Hall) (operations : List Operation) :
    (hall.run operations).service.store.writable = hall.service.store.writable := by
  induction operations generalizing hall with
  | nil => rfl
  | cons operation rest inductionHypothesis =>
      rw [run_cons, inductionHypothesis]
      exact (hall.perform_performed operation).writable_eq

/-- A session whose player and whose score can be stored can be finished. -/
theorem exists_finished {games : List GameRecord} {book : List Entry} {hall : Hall}
    (kept : Kept games book hall) (writable : hall.service.store.writable = true) {number : Nat}
    {session : Session} (present : hall.sessions[number]? = some session)
    (encodable : session.user.isEncodable = true) (fits : storable session.score = true) :
    Exists fun stats => (hall.perform (.finish number)).2 = .ok (.finished stats) := by
  rcases kept.stored with ⟨tables, connected, _⟩
  cases known : session.stats with
  | some stats =>
      rw [perform_finish_of_known present known]
      exact ⟨stats, rfl⟩
  | none =>
      have named := (kept.filed number session present).strip_ne
      rw [perform_finish_of_unknown present known
        (Store.record_of_valid connected writable encodable named fits)]
      exact ⟨_, rfl⟩

/-- A player whose name the store does not take is refused at every finish, and never
recorded. -/
theorem finish_refused {games : List GameRecord} {book : List Entry} {hall : Hall}
    (kept : Kept games book hall) {number : Nat} {session : Session}
    (present : hall.sessions[number]? = some session)
    (halves : session.user.isEncodable = false) :
    session.stats = none ∧
      hall.perform (.finish number) =
        (hall.withSession number session.finish, .error (.store (.unencodable session.user))) := by
  rcases kept.stored with ⟨tables, connected, _⟩
  have filed := kept.filed number session present
  have unknown : session.stats = none := by
    cases known : session.stats with
    | none => rfl
    | some stats =>
        have encodable := filed.encodable (by rw [known]; rfl)
        rw [encodable] at halves
        cases halves
  refine ⟨unknown, ?_⟩
  have refused := Store.record_of_unencodable connected halves filed.strip_ne session.score
  rw [filed.stripped] at refused
  have unchanged : { session.finish with stats := none } = session.finish := by
    rw [Session.finish, ← unknown]
  rw [perform_finish_of_unknown present unknown refused]
  dsimp only [Except.toOption]
  rw [unchanged]
  rfl

/-- A service records every session at most once, with the score that it ends
with.  After any operations the games in the store are those that were there
before and then the book: every direct record that was answered, and of every
session its first finish that was answered.  A session has a record exactly if
it is in the book, under the stripped name of its start and with the score that
it has by now.  In a store that may be written every session of a player whose name
has a form in bytes can be finished, as long as no score is too large; under another
name every finish is refused.  A finish that is answered is answered alike for good,
and changes nothing more.  What asks for no record leaves the store alone. -/
theorem run_records_once {service : Service} {tables : Tables}
    (connected : service.store.tables = .ok tables) (operations : List Operation) :
    let hall := Hall.new service
    let reached := hall.run operations
    let book := hall.book operations
    (Exists fun tables' => reached.service.store.tables = .ok tables' ∧
      tables'.games = tables.games ++ book.map Entry.game) ∧
    (book.filterMap Entry.session?).Nodup ∧
    reached.sessions.map Session.user = hall.players operations ∧
    (forall number session, reached.sessions[number]? = some session ->
      (session.stats.isSome = true ↔
        Exists fun entry => entry ∈ book ∧ entry.session? = some number) ∧
      (forall entry, entry ∈ book -> entry.session? = some number ->
        entry.game = ⟨session.user.toString, session.score⟩) ∧
      (session.user.isEncodable = true -> service.store.writable = true ->
        (operations.length : Int) < integerBound ->
        Exists fun stats => (reached.perform (.finish number)).2 = .ok (.finished stats)) ∧
      (session.user.isEncodable = false ->
        reached.perform (.finish number) =
          (reached.withSession number session.finish,
            .error (.store (.unencodable session.user))))) ∧
    (forall number stats, (reached.perform (.finish number)).2 = .ok (.finished stats) ->
      forall later, let after := (reached.perform (.finish number)).1.run later
        after.perform (.finish number) = (after, .ok (.finished stats))) ∧
    forall operation, operation.records = false ->
      (reached.perform operation).1.service.store = reached.service.store := by
  intro hall reached book
  have kept : Kept tables.games book reached := Kept.run connected operations
  refine ⟨kept.stored, kept.distinct, ?_, ?_, ?_, ?_⟩
  · exact run_players service operations
  · intro number session present
    have filed := kept.filed number session present
    refine ⟨?_, filed.game_eq, ?_, fun halves => (finish_refused kept present halves).2⟩
    · rw [← filed.entered_eq]
      exact entered_iff
    · intro encodable writable short
      have writable' := (run_writable hall operations).trans writable
      refine exists_finished kept writable' present encodable ?_
      have small := score_le_length service operations number session present
      exact storable_natCast (by omega)
  · intro number stats answer later after
    rcases recorded_of_finish answer with ⟨session, present, finished, known⟩
    have present' := run_keeps_recorded present finished known later
    rw [perform_finish_of_known present' known, finish_of_finished finished,
      withSession_same present']
  · intro operation quiet
    exact (reached.perform_performed operation).store_eq quiet

/-- Two sessions of one player, a direct record between their finishes, and a
second finish of the first. -/
theorem run_records_once_ann :
    let service : Service :=
      ⟨⟨["one".toList], [⟨"q", "Cut a character.", ["x"]⟩]⟩, 60, Sampler.rotation 0, none,
        ⟨⟨1, [1], some Tables.empty⟩, false, true, true⟩⟩
    let operations : List Operation :=
      [.start (.text (CodeText.ofString " ann ")) none, .submit 0 "x",
        .start (.text (CodeText.ofString "ann")) none, .finish 0, .submit 0 "x",
        .record (.text (CodeText.ofString "bob")) (.integer (-1)), .finish 1, .finish 0]
    service.store.tables = .ok Tables.empty ∧
      Exists fun tables =>
        ((Hall.new service).run operations).service.store.tables = .ok tables ∧
          tables.games = [⟨"ann", 1⟩, ⟨"bob", -1⟩, ⟨"ann", 0⟩] := by
  intro service operations
  have connected : service.store.tables = .ok Tables.empty := rfl
  have book_eq : ((Hall.new service).book operations).map Entry.game =
      [⟨"ann", 1⟩, ⟨"bob", -1⟩, ⟨"ann", 0⟩] := by
    decide +kernel
  rcases (run_records_once connected operations).1 with ⟨tables, stored, games_eq⟩
  rw [book_eq] at games_eq
  exact ⟨connected, tables, stored, games_eq⟩

/-- A hall with a session that is finished, and of which the store has no game. -/
def LosesSession (hall : Hall) : Prop :=
  hall.service.store.tables = .ok Tables.empty ∧
    Exists fun session => session ∈ hall.sessions ∧ session.finished = true

/-- The first finish of a session does not always put a game on record: not under half a
pair of surrogates as a name, and not in a database that may only be read. -/
theorem first_finish_unrecorded :
    let service : Bool -> Service := fun writable =>
      ⟨⟨["one".toList], [⟨"q", "Cut a character.", ["x"]⟩]⟩, 60, Sampler.rotation 0, none,
        ⟨⟨1, [1], some Tables.empty⟩, false, writable, true⟩⟩
    let finished : CodeText -> Bool -> Hall := fun name writable =>
      (Hall.new (service writable)).run [.start (.text name) none, .finish 0]
    LosesSession (finished ⟨[.surrogate 0xD800]⟩ true) ∧ LosesSession (finished "ann" false) := by
  intro service finished
  refine ⟨⟨by decide +kernel, ?_⟩, ⟨by decide +kernel, ?_⟩⟩ <;> decide +kernel

end Hall
end ModalDrill
