import ModalDrill.Service.Basic

namespace ModalDrill

/-!
# How a session starts

A session starts with its counters at zero, nothing recorded, and a fresh
buffer.  A service that starts one changes nothing of itself but the register,
which is empty afterwards, whatever it held.  The circumstances in which a start
succeeds are said here as well: a name, a question to put, and a deadline.
-/

namespace Session

/-- A session as it is when it has just started. -/
structure Begins (user : CodeText) (questions : List Question) (sampleText : List Line)
    (duration now : Seconds) (session : Session) : Prop where
  user_eq : session.user = user
  questions_eq : session.questions = questions
  sampleText_eq : session.sampleText = sampleText
  deadline_eq : now.plus? duration = some session.deadline
  index_eq : session.index = 0
  score_eq : session.score = 0
  answered_eq : session.answered = 0
  hintUsed_eq : session.hintUsed = false
  finished_eq : session.finished = false
  stats_eq : session.stats = none
  buffer_eq : session.buffer = Buffer.fresh sampleText

variable {user : CodeText} {questions : List Question} {sampleText : List Line}
  {duration now : Seconds} {session : Session}

theorem begins_of_start (started : start user questions sampleText duration now = .ok session) :
    Begins user questions sampleText duration now session := by
  unfold start at started
  split at started
  · split at started
    · cases started
    · next deadline instant =>
        cases started
        exact ⟨rfl, rfl, rfl, instant, rfl, rfl, rfl, rfl, rfl, rfl, rfl⟩
  · cases started

/-- With a question and a deadline there is a session. -/
theorem exists_start (user : CodeText) (sampleText : List Line) (filled : questions ≠ [])
    {deadline : Seconds} (instant : now.plus? duration = some deadline) :
    Exists fun session => start user questions sampleText duration now = .ok session := by
  unfold start
  rw [dif_pos (List.length_pos_iff.mpr filled), instant]
  exact ⟨_, rfl⟩

end Session

namespace Service

/-- A start, also one that fails, touches nothing of the service but the register. -/
theorem start_service (service : Service) (now : Seconds) (username : CodeText)
    (count : Option Int) :
    Exists fun register => (service.start now username count).1 =
      { service with register := register } := by
  unfold start
  dsimp only
  split
  · exact ⟨service.register, rfl⟩
  · split
    · exact ⟨none, rfl⟩
    · exact ⟨service.register, rfl⟩
    · exact ⟨none, rfl⟩

/-- What a start comes from and what it leaves when it succeeds. -/
theorem start_eq_ok {service later : Service} {now : Seconds} {username : CodeText}
    {count : Option Int} {session : Session}
    (started : service.start now username count = (later, .ok session)) :
    later = { service with register := none } ∧ Text.strip username.toString ≠ "" ∧
      Session.start username.strip (service.drawn count) service.bank.sampleText
        service.duration now = .ok session := by
  unfold start at started
  dsimp only at started
  split at started
  · cases started
  · next named =>
      split at started
      · cases started
      · cases started
      · next session' begun =>
          cases started
          exact ⟨rfl, named, begun⟩

theorem exists_start {service : Service} {now : Seconds} {username : CodeText}
    {count : Option Int} (named : Text.strip username.toString ≠ "")
    (filled : service.drawn count ≠ []) {deadline : Seconds}
    (instant : now.plus? service.duration = some deadline) :
    Exists fun session => service.start now username count =
      ({ service with register := none }, .ok session) := by
  rcases Session.exists_start username.strip service.bank.sampleText filled instant with
    ⟨session, started⟩
  unfold start
  dsimp only
  rw [if_neg named, started]
  exact ⟨session, rfl⟩

end Service
end ModalDrill
