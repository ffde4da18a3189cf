import ModalDrill.Proofs.Service.Start
import ModalDrill.Proofs.Session.Submission
import ModalDrill.Proofs.Text.Stripping
import ModalDrill.Service.Hall

namespace ModalDrill

/-!
# What an operation can come to

An operation in a hall is refused, or looks or sets something aside, or starts a
session, or touches one session, or records a game.  These are the constructors
of `Performed`, each with what it leaves behind.  What is true of every
operation is shown by cases on them, and no later proof opens `perform`.
-/

/-- What can become of a session in one operation. -/
inductive Session.Moves (session : Session) : Session -> Prop
  | stays : Moves session session
  | submits (register : Option Line) (now : Seconds) (input : String) :
      Moves session (session.submit register now input).session
  | finishes (stats : Option PlayerStats) : Moves session { session.finish with stats := stats }

theorem Session.Moves.score_le {session after : Session} (moves : session.Moves after) :
    after.score ≤ session.score + 1 := by
  cases moves with
  | stays => exact Nat.le_succ _
  | submits register now input => exact (session.submit_submitted register now input).score_le
  | finishes stats => exact Nat.le_succ _

namespace Hall

/-- The operations that only read, or set what is not the hall's own. -/
def Operation.isAside : Operation -> Bool
  | .look _ => true
  | .wait _ => true
  | .setRegister _ => true
  | .shuffle _ => true
  | .leaderboard _ => true
  | .stats _ => true
  | _ => false

/-- The operations that ask for a record. -/
def Operation.records : Operation -> Bool
  | .finish _ => true
  | .record .. => true
  | _ => false

def withStore (hall : Hall) (store : Store) : Hall :=
  { hall with service := { hall.service with store := store } }

def withRegister (hall : Hall) (register : Option Line) : Hall :=
  { hall with service := { hall.service with register := register } }

/-- The answer of a hall when its store has answered. -/
def answered {α : Type} (wrap : α -> Answer) : Except StoreError α -> Except Failure Answer
  | .error cause => .error (.store cause)
  | .ok value => .ok (wrap value)

/-- Neither the sessions nor the store nor what sessions start from has changed;
only a shuffle changes the order of the draws. -/
structure Spares (hall : Hall) (operation : Operation) (later : Hall) : Prop where
  sessions_eq : later.sessions = hall.sessions
  store_eq : later.service.store = hall.service.store
  bank_eq : later.service.bank = hall.service.bank
  duration_eq : later.service.duration = hall.service.duration
  sampler_eq : later.service.sampler = hall.service.sampler ∨
    operation = .shuffle later.service.sampler

theorem Spares.refl (hall : Hall) (operation : Operation) : hall.Spares operation hall :=
  ⟨rfl, rfl, rfl, rfl, Or.inl rfl⟩

/-- The ways in which an operation ends. -/
inductive Performed (hall : Hall) : Operation -> Hall -> Except Failure Answer -> Prop
  | refused {operation : Operation} {later : Hall} {cause : Failure}
      (spares : hall.Spares operation later) : Performed hall operation later (.error cause)
  | aside {operation : Operation} {later : Hall} {answer : Answer}
      (spares : hall.Spares operation later) (isAside : operation.isAside = true) :
      Performed hall operation later (.ok answer)
  | started {name : CodeText} {count : Option Int} {session : Session}
      (named : Text.strip name.toString ≠ "")
      (begins : Session.Begins name.strip (hall.service.drawn count)
        hall.service.bank.sampleText hall.service.duration (.real hall.clock) session) :
      Performed hall (.start (.text name) count)
        { hall.withRegister none with sessions := hall.sessions ++ [session] }
        (.ok (.started hall.sessions.length session))
  | submitted {number : Nat} {session : Session} (present : hall.sessions[number]? = some session)
      (input : String) :
      Performed hall (.submit number input) (hall.submit number session input).1
        (hall.submit number session input).2
  | left {number : Nat} {session : Session} (present : hall.sessions[number]? = some session) :
      Performed hall (.leave number) (hall.withSession number session.finish) (.ok .done)
  | finishedAgain {number : Nat} {session : Session} {stats : PlayerStats}
      (present : hall.sessions[number]? = some session) (known : session.stats = some stats) :
      Performed hall (.finish number) (hall.withSession number session.finish)
        (.ok (.finished stats))
  | finishedFirst {number : Nat} {session : Session} {store : Store}
      {answer : Except StoreError PlayerStats} (present : hall.sessions[number]? = some session)
      (unknown : session.stats = none)
      (recorded : hall.service.store.record (.text session.user) (.integer session.score) =
        (store, answer)) :
      Performed hall (.finish number)
        ((hall.withStore store).withSession number
          { session.finish with stats := answer.toOption })
        (answered .finished answer)
  | recorded {username score : Json} {store : Store} {answer : Except StoreError PlayerStats}
      (recorded : hall.service.store.record username score = (store, answer)) :
      Performed hall (.record username score) (hall.withStore store) (answered .recorded answer)

/-! ## One session -/

section
variable {hall : Hall} {number : Nat} {session : Session}

theorem withSession_self (present : hall.sessions[number]? = some session) (changed : Session) :
    (hall.withSession number changed).sessions[number]? = some changed := by
  have inside : number < hall.sessions.length := (List.getElem?_eq_some_iff.mp present).1
  exact List.getElem?_set_self inside

theorem withSession_other {other : Nat} (different : other ≠ number) (hall : Hall)
    (changed : Session) :
    (hall.withSession other changed).sessions[number]? = hall.sessions[number]? :=
  List.getElem?_set_ne different

theorem perform_submit (present : hall.sessions[number]? = some session) (input : String) :
    hall.perform (.submit number input) = hall.submit number session input := by
  dsimp only [perform]
  rw [present]

/-- Of an input its session and the register remain. -/
theorem submit_hall (hall : Hall) (number : Nat) (session : Session) (input : String) :
    (hall.submit number session input).1 =
      (hall.withRegister
        (session.submit hall.service.register (.real hall.clock) input).register).withSession number
          (session.submit hall.service.register (.real hall.clock) input).session :=
  rfl

theorem perform_leave (present : hall.sessions[number]? = some session) :
    hall.perform (.leave number) = (hall.withSession number session.finish, .ok .done) := by
  dsimp only [perform]
  rw [present]

/-- A session with a record keeps it, and its hall keeps its store. -/
theorem perform_finish_of_known (present : hall.sessions[number]? = some session)
    {stats : PlayerStats} (known : session.stats = some stats) :
    hall.perform (.finish number) =
      (hall.withSession number session.finish, .ok (.finished stats)) := by
  have known' : session.finish.stats = some stats := known
  dsimp only [perform]
  rw [present]
  dsimp only [Service.finish]
  rw [known']

/-- A session without a record is recorded with its score; if that fails it
stays without one. -/
theorem perform_finish_of_unknown (present : hall.sessions[number]? = some session)
    (unknown : session.stats = none) {store : Store} {answer : Except StoreError PlayerStats}
    (recorded : hall.service.store.record (.text session.user) (.integer session.score) =
      (store, answer)) :
    hall.perform (.finish number) =
      ((hall.withStore store).withSession number { session.finish with stats := answer.toOption },
        answered .finished answer) := by
  have unknown' : session.finish.stats = none := unknown
  have recorded' : hall.service.store.record (.text session.finish.user)
      (.integer session.finish.score) = (store, answer) := recorded
  dsimp only [perform]
  rw [present]
  dsimp only [Service.finish]
  rw [unknown']
  dsimp only
  rw [recorded']
  cases answer with
  | error cause =>
      have unchanged : { session.finish with stats := none } = session.finish := by
        rw [← unknown']
      dsimp only [Except.toOption, answered]
      rw [unchanged]
      rfl
  | ok stats => rfl

/-- There is no way to touch a session that is not there. -/
theorem perform_absent (absent : hall.sessions[number]? = none) (input : String) :
    hall.perform (.submit number input) = (hall, .error .noSuchSession) ∧
      hall.perform (.leave number) = (hall, .error .noSuchSession) ∧
      hall.perform (.finish number) = (hall, .error .noSuchSession) ∧
      hall.perform (.look number) = (hall, .error .noSuchSession) := by
  dsimp only [perform]
  rw [absent]
  exact ⟨rfl, rfl, rfl, rfl⟩

end

/-! ## Every operation -/

private theorem start_performed (hall : Hall) (username : Json) (count : Option Int) :
    Performed hall (.start username count) (hall.start username count).1
      (hall.start username count).2 := by
  unfold start
  cases username with
  | text name =>
      dsimp only
      have untouched := hall.service.start_service (.real hall.clock) name count
      generalize result : hall.service.start (.real hall.clock) name count = started
        at untouched ⊢
      rcases started with ⟨service, answer⟩
      cases answer with
      | error cause =>
          rcases untouched with ⟨register, same⟩
          dsimp only at same ⊢
          rw [same]
          exact .refused ⟨rfl, rfl, rfl, rfl, Or.inl rfl⟩
      | ok session =>
          rcases Service.start_eq_ok result with ⟨rfl, named, begun⟩
          exact .started named (Session.begins_of_start begun)
  | _ => exact .refused (.refl hall _)

private theorem finish_performed (hall : Hall) (number : Nat) :
    Performed hall (.finish number) (hall.perform (.finish number)).1
      (hall.perform (.finish number)).2 := by
  cases present : hall.sessions[number]? with
  | none =>
      rw [(perform_absent present "").2.2.1]
      exact .refused (.refl hall _)
  | some session =>
      cases known : session.stats with
      | some stats =>
          rw [perform_finish_of_known present known]
          exact .finishedAgain present known
      | none =>
          generalize recorded : hall.service.store.record (.text session.user)
            (.integer session.score) = result
          rcases result with ⟨store, answer⟩
          rw [perform_finish_of_unknown present known recorded]
          exact .finishedFirst present known recorded

private theorem record_performed (hall : Hall) (username score : Json) :
    Performed hall (.record username score) (hall.perform (.record username score)).1
      (hall.perform (.record username score)).2 := by
  generalize recorded : hall.service.store.record username score = result
  rcases result with ⟨store, answer⟩
  have performed : hall.perform (.record username score) =
      (hall.withStore store, answered .recorded answer) := by
    dsimp only [perform]
    rw [recorded]
    cases answer <;> rfl
  rw [performed]
  exact .recorded recorded

/-- Every operation ends in one of the ways. -/
theorem perform_performed (hall : Hall) (operation : Operation) :
    Performed hall operation (hall.perform operation).1 (hall.perform operation).2 := by
  cases operation with
  | start username count => exact start_performed hall username count
  | submit number input =>
      cases present : hall.sessions[number]? with
      | none =>
          rw [(perform_absent present input).1]
          exact .refused (.refl hall _)
      | some session =>
          rw [perform_submit present]
          exact .submitted present input
  | look number =>
      cases present : hall.sessions[number]? with
      | none =>
          rw [(perform_absent present "").2.2.2]
          exact .refused (.refl hall _)
      | some session =>
          dsimp only [perform]
          rw [present]
          exact .aside (.refl hall _) rfl
  | leave number =>
      cases present : hall.sessions[number]? with
      | none =>
          rw [(perform_absent present "").2.1]
          exact .refused (.refl hall _)
      | some session =>
          rw [perform_leave present]
          exact .left present
  | finish number => exact finish_performed hall number
  | wait seconds =>
      dsimp only [perform]
      cases seconds.toBinary64? with
      | none => exact .refused (.refl hall _)
      | some passed => exact .aside ⟨rfl, rfl, rfl, rfl, Or.inl rfl⟩ rfl
  | setRegister line => exact .aside ⟨rfl, rfl, rfl, rfl, Or.inl rfl⟩ rfl
  | shuffle sampler => exact .aside ⟨rfl, rfl, rfl, rfl, Or.inr rfl⟩ rfl
  | record username score => exact record_performed hall username score
  | leaderboard limit =>
      dsimp only [perform]
      cases hall.service.leaderboard limit with
      | error cause => exact .refused (.refl hall _)
      | ok players => exact .aside (.refl hall _) rfl
  | stats username =>
      dsimp only [perform]
      cases hall.service.store.player? username with
      | error cause => exact .refused (.refl hall _)
      | ok stats => exact .aside (.refl hall _) rfl

/-- A name, a question to put and a deadline make a session. -/
theorem exists_started {hall : Hall} {name : CodeText} {count : Option Int}
    (named : Text.strip name.toString ≠ "") (filled : hall.service.drawn count ≠ [])
    (instant : ((Seconds.real hall.clock).plus? hall.service.duration).isSome = true) :
    Exists fun session => hall.perform (.start (.text name) count) =
      ({ hall.withRegister none with sessions := hall.sessions ++ [session] },
        .ok (.started hall.sessions.length session)) := by
  rcases Option.isSome_iff_exists.mp instant with ⟨deadline, instant⟩
  rcases Service.exists_start named filled instant with ⟨session, started⟩
  refine ⟨session, ?_⟩
  dsimp only [perform, Hall.start]
  rw [started]
  rfl

/-! ## The sessions of a hall -/

private theorem moves_of_withSession {hall later : Hall} {number other : Nat}
    {session changed after : Session} (same : later.sessions = hall.sessions)
    (present : hall.sessions[other]? = some session) (moves : session.Moves changed)
    (found : (later.withSession other changed).sessions[number]? = some after) :
    Exists fun before => hall.sessions[number]? = some before ∧ before.Moves after := by
  rw [← same] at present ⊢
  by_cases this : other = number
  · subst this
    rw [withSession_self present] at found
    cases found
    exact ⟨session, present, moves⟩
  · rw [withSession_other this] at found
    exact ⟨after, found, .stays⟩

/-- What is found in a list that has grown by one was there before, or is the last. -/
theorem getElem?_concat_cases {sessions : List Session} {last found : Session} {number : Nat}
    (listed : (sessions ++ [last])[number]? = some found) :
    sessions[number]? = some found ∨ number = sessions.length ∧ found = last := by
  rcases Nat.lt_or_ge number sessions.length with earlier | later
  · exact Or.inl ((List.getElem?_append_left earlier).symm.trans listed)
  · rw [List.getElem?_append_right later, List.getElem?_singleton] at listed
    rcases Option.ite_none_right_eq_some.mp listed with ⟨place, same⟩
    exact Or.inr ⟨by omega, (Option.some.inj same).symm⟩

/-- A session after an operation was there before and has made a move, or it has
just begun. -/
theorem Performed.session_cases {hall later : Hall} {operation : Operation}
    {answer : Except Failure Answer} (performed : hall.Performed operation later answer)
    {number : Nat} {after : Session} (found : later.sessions[number]? = some after) :
    (Exists fun before => hall.sessions[number]? = some before ∧ before.Moves after) ∨
      Exists fun user => Exists fun count => Session.Begins user (hall.service.drawn count)
        hall.service.bank.sampleText hall.service.duration (.real hall.clock) after := by
  cases performed with
  | refused spares => exact Or.inl ⟨after, spares.sessions_eq ▸ found, .stays⟩
  | aside spares => exact Or.inl ⟨after, spares.sessions_eq ▸ found, .stays⟩
  | @started name count session named begins =>
      rcases getElem?_concat_cases found with before | ⟨_, rfl⟩
      · exact Or.inl ⟨after, before, .stays⟩
      · exact Or.inr ⟨_, count, begins⟩
  | submitted present input =>
      exact Or.inl (moves_of_withSession rfl present (.submits _ _ input) found)
  | left present => exact Or.inl (moves_of_withSession rfl present (.finishes _) found)
  | finishedAgain present => exact Or.inl (moves_of_withSession rfl present (.finishes _) found)
  | finishedFirst present => exact Or.inl (moves_of_withSession rfl present (.finishes _) found)
  | recorded => exact Or.inl ⟨after, found, .stays⟩

/-! ## Runs -/

theorem run_append (hall : Hall) (operations later : List Operation) :
    hall.run (operations ++ later) = (hall.run operations).run later :=
  List.foldl_append

theorem run_cons (hall : Hall) (operation : Operation) (rest : List Operation) :
    hall.run (operation :: rest) = (hall.perform operation).1.run rest :=
  rfl

end Hall
end ModalDrill
