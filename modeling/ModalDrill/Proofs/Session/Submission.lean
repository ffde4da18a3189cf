import ModalDrill.Session.Basic

namespace ModalDrill
namespace Session

/-!
# What a submission can come to

One input to a session has eight ways to end.  They are the constructors of
`Submitted`, each with the circumstances in which it comes about and with
everything that it leaves behind.  What is true of every submission is shown
by cases on them, and no later proof opens `submit`.
-/

/-- The editor of a session after a command. -/
def edited (session : Session) (register : Option Line) (typed : String) : Editor :=
  Editor.type ⟨session.buffer, register⟩ typed

/-- A session whose command has been applied and not been judged yet. -/
def applied (session : Session) (register : Option Line) (typed : String) : Session :=
  { session with buffer := (session.edited register typed).buffer }

/-- A session that remembers that a hint was asked for. -/
def hinted (session : Session) : Session :=
  { session with hintUsed := true }

@[simp] theorem applied_user (session : Session) (register : Option Line) (typed : String) :
    (session.applied register typed).user = session.user := by
  rw [applied]

@[simp] theorem applied_stats (session : Session) (register : Option Line) (typed : String) :
    (session.applied register typed).stats = session.stats := by
  rw [applied]

@[simp] theorem applied_buffer (session : Session) (register : Option Line) (typed : String) :
    (session.applied register typed).buffer = (session.edited register typed).buffer := by
  rw [applied]

@[simp] theorem applied_sampleText (session : Session) (register : Option Line) (typed : String) :
    (session.applied register typed).sampleText = session.sampleText := by
  rw [applied]

@[simp] theorem applied_deadline (session : Session) (register : Option Line) (typed : String) :
    (session.applied register typed).deadline = session.deadline := by
  rw [applied]

@[simp] theorem applied_questions (session : Session) (register : Option Line) (typed : String) :
    (session.applied register typed).questions = session.questions := by
  rw [applied]

@[simp] theorem applied_index (session : Session) (register : Option Line) (typed : String) :
    (session.applied register typed).index = session.index := by
  rw [applied]

@[simp] theorem applied_score (session : Session) (register : Option Line) (typed : String) :
    (session.applied register typed).score = session.score := by
  rw [applied]

@[simp] theorem applied_answered (session : Session) (register : Option Line) (typed : String) :
    (session.applied register typed).answered = session.answered := by
  rw [applied]

@[simp] theorem applied_hintUsed (session : Session) (register : Option Line) (typed : String) :
    (session.applied register typed).hintUsed = session.hintUsed := by
  rw [applied]

@[simp] theorem applied_finished (session : Session) (register : Option Line) (typed : String) :
    (session.applied register typed).finished = session.finished := by
  rw [applied]

@[simp] theorem applied_question (session : Session) (register : Option Line) (typed : String) :
    (session.applied register typed).question = session.question := by
  rw [applied, question, question]

@[simp] theorem verdict_buffer (session : Session) (outcome : Outcome) :
    (session.verdict outcome).buffer = session.buffer :=
  rfl

/-- Is a command an answer to the question, as it was typed or by its canonical text? -/
def answeredBy (session : Session) (typed : String) : Bool :=
  session.question.accepts (Command.parse typed).text || session.question.accepts typed

/-- An input is taken: the session is not finished and its deadline lies ahead. -/
structure Taking (session : Session) (now : Seconds) : Prop where
  unfinished : session.finished = false
  early : session.timedOut? now = some false

/-- An input is a command: it is not blank and asks for no hint. -/
structure IsCommand (typed : String) : Prop where
  filled : typed ≠ ""
  noHint : typed ≠ hintCommand

/-- The ways in which the submission of an input ends, the input being stripped. -/
inductive Submitted (session : Session) (register : Option Line) (now : Seconds)
    (typed : String) : Submission -> Prop
  | refused (finished : session.finished = true) :
      Submitted session register now typed ⟨session, register, .error .alreadyFinished⟩
  | unclocked (unfinished : session.finished = false) (noClock : session.timedOut? now = none) :
      Submitted session register now typed ⟨session, register, .error .clockOutOfRange⟩
  | timeout (unfinished : session.finished = false) (late : session.timedOut? now = some true) :
      Submitted session register now typed
        ⟨session.finish, register, .ok (session.verdict (.timeout typed))⟩
  | ignored (taking : session.Taking now) (blank : typed = "") :
      Submitted session register now typed ⟨session, register, .ok (session.verdict .ignored)⟩
  | unanswerable (taking : session.Taking now) (asked : typed = hintCommand)
      (noAnswer : session.question.expected = []) :
      Submitted session register now typed ⟨session.hinted, register, .error .nothingToHint⟩
  | hint (taking : session.Taking now) (asked : typed = hintCommand) (answer : String)
      (others : List String) (first : session.question.expected = answer :: others) :
      Submitted session register now typed
        ⟨session.hinted, register, .ok (session.hinted.verdict (.hint answer))⟩
  | wrong (taking : session.Taking now) (isCommand : IsCommand typed)
      (rejected : session.answeredBy typed = false) :
      Submitted session register now typed
        ⟨session.applied register typed, (session.edited register typed).register,
          .ok ((session.applied register typed).verdict (.wrong (Command.parse typed).text))⟩
  | correct (taking : session.Taking now) (isCommand : IsCommand typed)
      (accepted : session.answeredBy typed = true) :
      Submitted session register now typed
        ⟨(session.applied register typed).credit.advance,
          (session.edited register typed).register,
          .ok ((session.applied register typed).verdict
            (.correct (Command.parse typed).text (pointsFor true session.hintUsed)))⟩

private theorem takeHint_submitted {session : Session} {now : Seconds} (taking : session.Taking now)
    (register : Option Line) {typed : String} (asked : typed = hintCommand) :
    Submitted session register now typed (session.takeHint register) := by
  unfold takeHint
  cases answers : session.question.expected with
  | nil => exact .unanswerable taking asked answers
  | cons answer others => exact .hint taking asked answer others answers

theorem attempt_of_accepted {session : Session} (register : Option Line) {typed : String}
    (accepted : session.answeredBy typed = true) :
    session.attempt register typed =
      ⟨(session.applied register typed).credit.advance, (session.edited register typed).register,
        .ok ((session.applied register typed).verdict
          (.correct (Command.parse typed).text (pointsFor true session.hintUsed)))⟩ :=
  if_pos accepted

theorem attempt_of_rejected {session : Session} (register : Option Line) {typed : String}
    (rejected : session.answeredBy typed = false) :
    session.attempt register typed =
      ⟨session.applied register typed, (session.edited register typed).register,
        .ok ((session.applied register typed).verdict (.wrong (Command.parse typed).text))⟩ :=
  if_neg (Bool.eq_false_iff.mp rejected)

private theorem attempt_submitted {session : Session} {now : Seconds} (taking : session.Taking now)
    (register : Option Line) {typed : String} (isCommand : IsCommand typed) :
    Submitted session register now typed (session.attempt register typed) := by
  cases accepted : session.answeredBy typed with
  | true =>
      rw [attempt_of_accepted register accepted]
      exact .correct taking isCommand accepted
  | false =>
      rw [attempt_of_rejected register accepted]
      exact .wrong taking isCommand accepted

/-- Every submission ends in one of the ways. -/
theorem submit_submitted (session : Session) (register : Option Line) (now : Seconds)
    (input : String) :
    Submitted session register now (Text.strip input) (session.submit register now input) := by
  unfold submit
  cases finished : session.finished with
  | true => exact .refused finished
  | false =>
      rw [if_neg Bool.false_ne_true]
      cases late : session.timedOut? now with
      | none => exact .unclocked finished late
      | some late' =>
          cases late' with
          | true => exact .timeout finished late
          | false =>
              have taking : session.Taking now := ⟨finished, late⟩
              dsimp only [respond]
              by_cases blank : Text.strip input = ""
              · rw [if_pos blank]
                exact .ignored taking blank
              · rw [if_neg blank]
                by_cases asked : Text.strip input = hintCommand
                · rw [if_pos asked]
                  exact takeHint_submitted taking register asked
                · rw [if_neg asked]
                  exact attempt_submitted taking register ⟨blank, asked⟩

/-! ## Every submission -/

theorem question_mem (session : Session) : session.question ∈ session.questions :=
  List.get_mem _ _

theorem getElem?_index (session : Session) :
    session.questions[session.index]? = some session.question :=
  List.getElem?_eq_getElem session.index_lt

/-- A finished session takes no input. -/
theorem submit_of_finished {session : Session} (finished : session.finished = true)
    (register : Option Line) (now : Seconds) (input : String) :
    session.submit register now input = ⟨session, register, .error .alreadyFinished⟩ :=
  if_pos finished

/-- A verdict is on the question before the submission. -/
theorem Submitted.question_eq {session : Session} {register : Option Line} {now : Seconds}
    {typed : String} {submission : Submission} {verdict : Verdict}
    (submitted : Submitted session register now typed submission)
    (answer : submission.result = .ok verdict) : verdict.question = session.question := by
  cases submitted with
  | refused => cases answer
  | unclocked => cases answer
  | unanswerable => cases answer
  | timeout => cases answer; rfl
  | ignored => cases answer; rfl
  | hint => cases answer; rfl
  | wrong => cases answer; exact applied_question session register typed
  | correct => cases answer; exact applied_question session register typed

/-- The points of a verdict are what the submission adds to the score. -/
theorem Submitted.score_eq {session : Session} {register : Option Line} {now : Seconds}
    {typed : String} {submission : Submission} {verdict : Verdict}
    (submitted : Submitted session register now typed submission)
    (answer : submission.result = .ok verdict) :
    submission.session.score = session.score + verdict.outcome.points := by
  cases submitted with
  | refused => cases answer
  | unclocked => cases answer
  | unanswerable => cases answer
  | timeout => cases answer; rfl
  | ignored => cases answer; rfl
  | hint => cases answer; rfl
  | wrong => cases answer; exact applied_score session register typed
  | correct =>
      cases answer
      simp only [advance, credit, applied_score, applied_hintUsed, verdict, Outcome.points]

/-- No answer is worth more than one point. -/
theorem Submitted.points_le {session : Session} {register : Option Line} {now : Seconds}
    {typed : String} {submission : Submission} {verdict : Verdict}
    (submitted : Submitted session register now typed submission)
    (answer : submission.result = .ok verdict) : verdict.outcome.points ≤ 1 := by
  cases submitted with
  | refused => cases answer
  | unclocked => cases answer
  | unanswerable => cases answer
  | timeout => cases answer; exact Nat.zero_le 1
  | ignored => cases answer; exact Nat.zero_le 1
  | hint => cases answer; exact Nat.zero_le 1
  | wrong => cases answer; exact Nat.zero_le 1
  | correct =>
      cases answer
      change pointsFor true session.hintUsed ≤ 1
      cases session.hintUsed <;> decide

/-- A submission adds at most one point, whether it is answered or not. -/
theorem Submitted.score_le {session : Session} {register : Option Line} {now : Seconds}
    {typed : String} {submission : Submission}
    (submitted : Submitted session register now typed submission) :
    submission.session.score ≤ session.score + 1 := by
  cases answer : submission.result with
  | ok verdict =>
      rw [submitted.score_eq answer]
      exact Nat.add_le_add_left (submitted.points_le answer) _
  | error cause =>
      cases submitted with
      | refused => exact Nat.le_succ _
      | unclocked => exact Nat.le_succ _
      | unanswerable => exact Nat.le_succ _
      | _ => cases answer

/-- A submission leaves a session to its player, and records nothing of it. -/
theorem Submitted.owner_eq {session : Session} {register : Option Line} {now : Seconds}
    {typed : String} {submission : Submission}
    (submitted : Submitted session register now typed submission) :
    submission.session.user = session.user ∧ submission.session.stats = session.stats := by
  cases submitted with
  | refused => exact ⟨rfl, rfl⟩
  | unclocked => exact ⟨rfl, rfl⟩
  | timeout => exact ⟨rfl, rfl⟩
  | ignored => exact ⟨rfl, rfl⟩
  | unanswerable => exact ⟨rfl, rfl⟩
  | hint => exact ⟨rfl, rfl⟩
  | wrong => exact ⟨applied_user session register typed, applied_stats session register typed⟩
  | correct => simp only [advance, credit, applied_user, applied_stats, and_self]

/-- What a session was started with stays. -/
theorem Submitted.terms_eq {session : Session} {register : Option Line} {now : Seconds}
    {typed : String} {submission : Submission}
    (submitted : Submitted session register now typed submission) :
    submission.session.questions = session.questions ∧
      submission.session.sampleText = session.sampleText ∧
      submission.session.deadline = session.deadline := by
  cases submitted with
  | wrong => exact ⟨applied_questions _ _ _, applied_sampleText _ _ _, applied_deadline _ _ _⟩
  | correct =>
      simp only [advance, credit, applied_questions, applied_sampleText, applied_deadline, and_self]
  | _ => exact ⟨rfl, rfl, rfl⟩

end Session
end ModalDrill
