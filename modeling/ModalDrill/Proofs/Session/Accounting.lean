import ModalDrill.Proofs.Session.History
import ModalDrill.Proofs.Session.Submission

namespace ModalDrill
namespace Round

/-!
# Accounts of a round

The counters of a session are functions of its history, whatever the clock
does, whoever overwrites the register and whenever the session is finished.
The accounts hold at the start of a round, every event keeps them, and so they
hold after every list of events.
-/

/-- The counters of a session tell its history. -/
structure Accounts (questions : List Question) (events : List Event) (outcomes : List Outcome)
    (session : Session) : Prop where
  questions_eq : session.questions = questions
  answered_eq : session.answered = outcomes.countP Outcome.isCorrect
  index_eq : session.index = session.answered % questions.length
  hintUsed_eq : session.hintUsed = Outcome.hintPending outcomes
  score_eq : session.score = Outcome.unaided outcomes
  finished_iff : session.finished = true ↔
    .finish ∈ events ∨ Exists fun outcome => outcome ∈ outcomes ∧ outcome.isTimeout = true

namespace Accounts

variable {questions : List Question} {events : List Event} {outcomes : List Outcome}
  {session : Session}

/-- An event that is not the early end and has no outcome leaves the accounts as they are. -/
theorem quiet (accounts : Accounts questions events outcomes session) {event : Event}
    (noEnd : event ≠ .finish) : Accounts questions (events ++ [event]) outcomes session :=
  { accounts with
    finished_iff := by
      rw [accounts.finished_iff, List.mem_append, List.mem_singleton]
      have other : ¬ Event.finish = event := fun same => noEnd same.symm
      simp only [other, or_false] }

theorem finish (accounts : Accounts questions events outcomes session) :
    Accounts questions (events ++ [.finish]) outcomes session.finish :=
  { accounts with
    finished_iff := by
      simp only [Session.finish, List.mem_append, List.mem_singleton, or_true, true_or] }

/-- An outcome that is neither a correct answer, nor a hint, nor late. -/
theorem plain (accounts : Accounts questions events outcomes session) {outcome : Outcome}
    (incorrect : outcome.isCorrect = false) (noHint : outcome.isHint = false)
    (inTime : outcome.isTimeout = false) :
    Accounts questions events (outcomes ++ [outcome]) session where
  questions_eq := accounts.questions_eq
  answered_eq := by
    rw [accounts.answered_eq, List.countP_append, List.countP_singleton, incorrect]
    rfl
  index_eq := accounts.index_eq
  hintUsed_eq := by
    rw [accounts.hintUsed_eq, Outcome.hintPending_append, incorrect, noHint]
    rfl
  score_eq := by
    rw [accounts.score_eq, Outcome.unaided_append, incorrect]
    rfl
  finished_iff := by
    rw [accounts.finished_iff]
    simp only [List.mem_append, List.mem_singleton, or_and_right, exists_or, exists_eq_left,
      inTime, Bool.false_eq_true, or_false]

theorem timeout (accounts : Accounts questions events outcomes session) (typed : String) :
    Accounts questions events (outcomes ++ [.timeout typed]) session.finish where
  questions_eq := accounts.questions_eq
  answered_eq := by
    rw [List.countP_append]
    exact accounts.answered_eq
  index_eq := accounts.index_eq
  hintUsed_eq := by
    rw [Outcome.hintPending_append]
    exact accounts.hintUsed_eq
  score_eq := by
    rw [Outcome.unaided_append]
    exact accounts.score_eq
  finished_iff := by
    refine iff_of_true rfl (Or.inr ⟨.timeout typed, ?_, rfl⟩)
    exact List.mem_append_right _ (List.mem_singleton_self _)

theorem hint (accounts : Accounts questions events outcomes session) (answer : String) :
    Accounts questions events (outcomes ++ [.hint answer]) session.hinted where
  questions_eq := accounts.questions_eq
  answered_eq := by
    rw [List.countP_append]
    exact accounts.answered_eq
  index_eq := accounts.index_eq
  hintUsed_eq := by
    rw [Outcome.hintPending_append]
    rfl
  score_eq := by
    rw [Outcome.unaided_append]
    exact accounts.score_eq
  finished_iff := by
    simp only [List.mem_append, List.mem_singleton, or_and_right, exists_or, exists_eq_left,
      Outcome.isTimeout, Bool.false_eq_true, or_false]
    exact accounts.finished_iff

/-- Neither the buffer nor the command of a session is in its accounts. -/
theorem applied (accounts : Accounts questions events outcomes session) (register : Option Line)
    (typed : String) : Accounts questions events outcomes (session.applied register typed) where
  questions_eq := by
    rw [Session.applied_questions]
    exact accounts.questions_eq
  answered_eq := by
    rw [Session.applied_answered]
    exact accounts.answered_eq
  index_eq := by
    rw [Session.applied_index, Session.applied_answered]
    exact accounts.index_eq
  hintUsed_eq := by
    rw [Session.applied_hintUsed]
    exact accounts.hintUsed_eq
  score_eq := by
    rw [Session.applied_score]
    exact accounts.score_eq
  finished_iff := by
    rw [Session.applied_finished]
    exact accounts.finished_iff

/-- A correct answer scores unless a hint is pending, and goes on to the next
question around the list. -/
theorem correct (accounts : Accounts questions events outcomes session) (command : String)
    (points : Nat) :
    Accounts questions events (outcomes ++ [.correct command points]) session.credit.advance where
  questions_eq := accounts.questions_eq
  answered_eq := by
    rw [List.countP_append]
    exact congrArg (· + 1) accounts.answered_eq
  index_eq := by
    change (session.index + 1) % session.questions.length = (session.answered + 1) % _
    rw [accounts.questions_eq, accounts.index_eq, Nat.mod_add_mod]
  hintUsed_eq := by
    rw [Outcome.hintPending_append]
    rfl
  score_eq := by
    rw [Outcome.unaided_append, ← accounts.hintUsed_eq, ← accounts.score_eq]
    change session.score + pointsFor true session.hintUsed = _
    cases session.hintUsed <;> rfl
  finished_iff := by
    simp only [List.mem_append, List.mem_singleton, or_and_right, exists_or, exists_eq_left,
      Outcome.isTimeout, Bool.false_eq_true, or_false]
    exact accounts.finished_iff

end Accounts

/-- The accounts of a session after one submission. -/
theorem Accounts.submitted {questions : List Question} {events : List Event}
    {outcomes : List Outcome} {session : Session} {register : Option Line} {now : Seconds}
    {typed : String} {submission : Submission}
    (accounts : Accounts questions events outcomes session)
    (answerable : forall question, question ∈ questions -> question.expected ≠ [])
    (submitted : session.Submitted register now typed submission) :
    Accounts questions events
      (outcomes ++ (submission.result.toOption.map Verdict.outcome).toList) submission.session := by
  cases submitted with
  | refused =>
      rw [← List.append_nil outcomes] at accounts
      exact accounts
  | unclocked =>
      rw [← List.append_nil outcomes] at accounts
      exact accounts
  | timeout => exact accounts.timeout typed
  | ignored => exact accounts.plain rfl rfl rfl
  | unanswerable taking asked noAnswer =>
      have listed := session.question_mem
      rw [accounts.questions_eq] at listed
      exact absurd noAnswer (answerable session.question listed)
  | hint taking asked answer => exact accounts.hint answer
  | wrong => exact (accounts.applied register typed).plain rfl rfl rfl
  | correct => exact (accounts.applied register typed).correct _ _

/-! ## Whole rounds -/

theorem Accounts.start {user : CodeText} {questions : List Question} {sampleText : List Line}
    {duration now : Seconds} {round : Round}
    (started : Round.start user questions sampleText duration now = .ok round) :
    Accounts questions [] [] round.session := by
  unfold Round.start Session.start at started
  split at started
  · cases deadline : now.plus? duration with
    | none =>
        rw [deadline] at started
        cases started
    | some instant =>
        rw [deadline] at started
        cases started
        refine ⟨rfl, rfl, (Nat.zero_mod _).symm, rfl, rfl, ?_⟩
        simp only [Bool.false_eq_true, List.not_mem_nil, false_and, exists_false, or_self]
  · cases started

theorem Accounts.after {questions : List Question} {events : List Event} {outcomes : List Outcome}
    {round : Round} (accounts : Accounts questions events outcomes round.session)
    (answerable : forall question, question ∈ questions -> question.expected ≠ [])
    (event : Event) :
    Accounts questions (events ++ [event]) (outcomes ++ round.outcomes [event])
      (round.after event).session := by
  rw [outcomes_singleton]
  cases event with
  | submit input =>
      rw [verdict?_submit]
      have submitted := round.session.submit_submitted round.register round.clock input
      exact (accounts.submitted answerable submitted).quiet (by rintro ⟨⟩)
  | wait seconds =>
      rw [verdict?_wait, Option.map_none, Option.toList_none, List.append_nil]
      exact accounts.quiet (by rintro ⟨⟩)
  | finish =>
      rw [← List.append_nil outcomes] at accounts
      exact accounts.finish
  | setRegister line =>
      rw [← List.append_nil outcomes] at accounts
      exact accounts.quiet (by rintro ⟨⟩)

theorem Accounts.run {questions : List Question} {round : Round}
    (accounts : Accounts questions [] [] round.session)
    (answerable : forall question, question ∈ questions -> question.expected ≠ [])
    (events : List Event) :
    Accounts questions events (round.outcomes events) (round.run events).session := by
  induction events using List.reverseRecOn with
  | nil => exact accounts
  | append_singleton events event inductionHypothesis =>
      rw [outcomes_append, run_append]
      exact inductionHypothesis.after answerable event

/-- What has finished a round stays in its history. -/
theorem Accounts.finished_later {questions : List Question} {events later : List Event}
    {outcomes more : List Outcome} {session session' : Session}
    (accounts : Accounts questions events outcomes session)
    (accounts' : Accounts questions (events ++ later) (outcomes ++ more) session')
    (finished : session.finished = true) : session'.finished = true := by
  rw [accounts'.finished_iff]
  rcases accounts.finished_iff.mp finished with ended | ⟨outcome, listed, late⟩
  · exact Or.inl (List.mem_append_left _ ended)
  · exact Or.inr ⟨outcome, List.mem_append_left _ listed, late⟩

theorem after_submit_of_finished {round : Round} (finished : round.session.finished = true)
    (input : String) :
    round.answer (.submit input) = .error (.submit .alreadyFinished) ∧
      round.after (.submit input) = round := by
  dsimp only [answer, after]
  rw [Session.submit_of_finished finished]
  exact ⟨rfl, rfl⟩

theorem answer_eq_verdict {round : Round} {event : Event} {verdict : Verdict}
    (answer : round.answer event = .ok (some verdict)) :
    verdict.question = round.session.question ∧
      (round.after event).session.score = round.session.score + verdict.outcome.points := by
  cases event with
  | submit input =>
      have submitted := round.session.submit_submitted round.register round.clock input
      dsimp only [Round.answer] at answer
      split at answer
      · cases answer
      · next judged result =>
          cases answer
          exact ⟨submitted.question_eq result, submitted.score_eq result⟩
  | wait seconds =>
      dsimp only [Round.answer] at answer
      split at answer <;> cases answer
  | finish => cases answer
  | setRegister line => cases answer

/-- After every list of events the counters of a session tell its history.  Each
verdict names the question that was put before it, and its points are what its
input adds to the score.  From the end of a round on, whatever happens, an input
is refused and changes nothing. -/
theorem run_tells_history {user : CodeText} {questions : List Question} {sampleText : List Line}
    {duration now : Seconds} {round : Round}
    (started : Round.start user questions sampleText duration now = .ok round)
    (answerable : forall question, question ∈ questions -> question.expected ≠ [])
    (events : List Event) :
    Accounts questions events (round.outcomes events) (round.run events).session ∧
      (forall event verdict, (round.run events).answer event = .ok (some verdict) ->
        questions[(round.run events).session.index]? = some verdict.question ∧
          ((round.run events).after event).session.score =
            (round.run events).session.score + verdict.outcome.points) ∧
      ((round.run events).session.finished = true -> forall later input,
        (round.run (events ++ later)).answer (.submit input) =
            .error (.submit .alreadyFinished) ∧
          (round.run (events ++ later)).after (.submit input) = round.run (events ++ later)) := by
  have accounts := (Accounts.start started).run answerable
  refine ⟨accounts events, ?_, ?_⟩
  · intro event verdict answer
    rcases answer_eq_verdict answer with ⟨question, score⟩
    refine ⟨?_, score⟩
    rw [question, ← (accounts events).questions_eq]
    exact (round.run events).session.getElem?_index
  · intro finished later input
    have accounts' := accounts (events ++ later)
    rw [outcomes_append] at accounts'
    exact after_submit_of_finished ((accounts events).finished_later accounts' finished) input

/-- Two questions, put in turn. -/
def twoQuestions : List Question :=
  [⟨"down", "", ["j"]⟩, ⟨"up", "", ["k"]⟩]

/-- A round in which the second question is answered after a hint, and whose
last input comes too late. -/
def hintedEvents : List Event :=
  [.submit "j", .submit "@@", .submit "x", .submit "k", .wait (.whole 60), .submit "j"]

theorem run_tells_history_hinted :
    Exists fun round => Round.start "player" twoQuestions [['a']] (.whole 60) (.whole 0) = .ok round ∧
      (forall question, question ∈ twoQuestions -> question.expected ≠ []) ∧
      Accounts twoQuestions hintedEvents (round.outcomes hintedEvents)
        (round.run hintedEvents).session := by
  have answerable : forall question, question ∈ twoQuestions -> question.expected ≠ [] := by
    decide
  have started : Round.start "player" twoQuestions [['a']] (.whole 60) (.whole 0) = .ok _ := rfl
  exact ⟨_, started, answerable, (run_tells_history started answerable hintedEvents).1⟩

end Round
end ModalDrill
