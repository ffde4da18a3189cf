import ModalDrill.Proofs.Command.Outline
import ModalDrill.Proofs.Session.Submission

namespace ModalDrill

/-!
# Sessions that stand alike

Two sessions stand alike if they differ at most in the text of their buffers, in
the column of the cursor, in the player and in what is recorded of them.  The
judgement of an input looks at none of these, and a command changes the outline
of a buffer in the same way whatever the text and the register hold.  So sessions
that stand alike give the same verdicts up to the text, and go on standing alike,
even if the registers at hand are not the same.
-/

/-- A verdict without the text of its buffer. -/
structure Verdict.Gist where
  question : Question
  outcome : Outcome
  outline : Outline
deriving DecidableEq

def Verdict.gist (verdict : Verdict) : Verdict.Gist :=
  ⟨verdict.question, verdict.outcome, verdict.buffer.outline⟩

namespace Session

/-- The counters of a session and the outline of its buffer. -/
structure Standing where
  index : Nat
  score : Nat
  answered : Nat
  hintUsed : Bool
  finished : Bool
  outline : Outline
deriving DecidableEq

def standing (session : Session) : Standing :=
  ⟨session.index, session.score, session.answered, session.hintUsed, session.finished,
    session.buffer.outline⟩

structure Alike (first second : Session) : Prop where
  questions_eq : first.questions = second.questions
  sampleText_eq : first.sampleText = second.sampleText
  deadline_eq : first.deadline = second.deadline
  index_eq : first.index = second.index
  score_eq : first.score = second.score
  answered_eq : first.answered = second.answered
  hintUsed_eq : first.hintUsed = second.hintUsed
  finished_eq : first.finished = second.finished
  outline_eq : first.buffer.outline = second.buffer.outline

namespace Alike

variable {first second : Session}

theorem refl (session : Session) : session.Alike session :=
  ⟨rfl, rfl, rfl, rfl, rfl, rfl, rfl, rfl, rfl⟩

theorem standing_eq (alike : first.Alike second) : first.standing = second.standing := by
  unfold standing
  rw [alike.index_eq, alike.score_eq, alike.answered_eq, alike.hintUsed_eq, alike.finished_eq,
    alike.outline_eq]

theorem question_eq (alike : first.Alike second) : first.question = second.question := by
  have found := first.getElem?_index
  rw [alike.questions_eq, alike.index_eq, second.getElem?_index] at found
  exact (Option.some.inj found).symm

theorem gist_eq (alike : first.Alike second) (outcome : Outcome) :
    (first.verdict outcome).gist = (second.verdict outcome).gist := by
  unfold verdict Verdict.gist
  rw [alike.question_eq, alike.outline_eq]

theorem finish (alike : first.Alike second) : first.finish.Alike second.finish :=
  { alike with finished_eq := rfl }

theorem hinted (alike : first.Alike second) : first.hinted.Alike second.hinted :=
  { alike with hintUsed_eq := rfl }

/-- The register does not matter: it may fill the line that a command pastes,
and that is text. -/
theorem applied (alike : first.Alike second) (register register' : Option Line) (typed : String) :
    (first.applied register typed).Alike (second.applied register' typed) where
  questions_eq := by rw [applied_questions, applied_questions, alike.questions_eq]
  sampleText_eq := by rw [Session.applied, Session.applied, alike.sampleText_eq]
  deadline_eq := by rw [Session.applied, Session.applied, alike.deadline_eq]
  index_eq := by rw [applied_index, applied_index, alike.index_eq]
  score_eq := by rw [applied_score, applied_score, alike.score_eq]
  answered_eq := by rw [applied_answered, applied_answered, alike.answered_eq]
  hintUsed_eq := by rw [applied_hintUsed, applied_hintUsed, alike.hintUsed_eq]
  finished_eq := by rw [applied_finished, applied_finished, alike.finished_eq]
  outline_eq := by
    rw [Session.applied, Session.applied, edited, edited, Editor.type_outline, Editor.type_outline,
      alike.outline_eq]

theorem credit (alike : first.Alike second) : first.credit.Alike second.credit :=
  { alike with
    score_eq := by
      unfold Session.credit
      rw [alike.score_eq, alike.hintUsed_eq]
    answered_eq := congrArg (· + 1) alike.answered_eq }

/-- The next question starts on the sample text, whatever the buffer was. -/
theorem advance (alike : first.Alike second) : first.advance.Alike second.advance :=
  { alike with
    index_eq := by
      change (first.index + 1) % first.questions.length = (second.index + 1) % _
      rw [alike.index_eq, alike.questions_eq]
    hintUsed_eq := rfl
    outline_eq := congrArg (fun text => (Buffer.fresh text).outline) alike.sampleText_eq }

theorem answeredBy_eq (alike : first.Alike second) (typed : String) :
    first.answeredBy typed = second.answeredBy typed := by
  unfold answeredBy
  rw [alike.question_eq]

end Alike
end Session

/-! ## Submissions -/

/-- Two submissions leave sessions that stand alike, and are answered alike. -/
structure Submission.Alike (first second : Submission) : Prop where
  session : first.session.Alike second.session
  gist_eq : first.result.map Verdict.gist = second.result.map Verdict.gist

namespace Session.Alike

variable {first second : Session}

theorem takeHint (alike : first.Alike second) (register register' : Option Line) :
    (first.takeHint register).Alike (second.takeHint register') := by
  unfold Session.takeHint
  rw [alike.question_eq]
  cases second.question.expected with
  | nil => exact ⟨alike.hinted, rfl⟩
  | cons answer others => exact ⟨alike.hinted, congrArg Except.ok (alike.hinted.gist_eq _)⟩

theorem attempt (alike : first.Alike second) (register register' : Option Line) (typed : String) :
    (first.attempt register typed).Alike (second.attempt register' typed) := by
  have applied := alike.applied register register' typed
  have judged := alike.answeredBy_eq typed
  cases accepted : second.answeredBy typed with
  | true =>
      rw [accepted] at judged
      rw [attempt_of_accepted register judged, attempt_of_accepted register' accepted,
        alike.hintUsed_eq]
      exact ⟨applied.credit.advance, congrArg Except.ok (applied.gist_eq _)⟩
  | false =>
      rw [accepted] at judged
      rw [attempt_of_rejected register judged, attempt_of_rejected register' accepted]
      exact ⟨applied, congrArg Except.ok (applied.gist_eq _)⟩

theorem respond (alike : first.Alike second) (register register' : Option Line) (typed : String) :
    (first.respond register typed).Alike (second.respond register' typed) := by
  unfold Session.respond
  split
  · exact ⟨alike, congrArg Except.ok (alike.gist_eq _)⟩
  · split
    · exact alike.takeHint register register'
    · exact alike.attempt register register' typed

/-- Sessions that stand alike answer an input alike, at the same reading of the
clock and whatever the registers hold. -/
theorem submit (alike : first.Alike second) (register register' : Option Line) (now : Seconds)
    (input : String) :
    (first.submit register now input).Alike (second.submit register' now input) := by
  unfold Session.submit timedOut?
  rw [alike.finished_eq, alike.deadline_eq]
  dsimp only
  split
  · exact ⟨alike, rfl⟩
  · split
    · exact ⟨alike, rfl⟩
    · exact ⟨alike.finish, congrArg Except.ok (alike.gist_eq _)⟩
    · exact alike.respond register register' _

end Session.Alike
end ModalDrill
