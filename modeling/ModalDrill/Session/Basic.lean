import ModalDrill.Bank.Basic
import ModalDrill.Command.Basic
import ModalDrill.Seconds
import ModalDrill.Store.Tables

namespace ModalDrill

/-!
# Sessions

A session puts its questions in turn, around and around, until its deadline.
Each question starts on a fresh buffer; the register is shared with the other
sessions of a service and so is not part of a session.  An input that comes
late is neither applied nor judged, and a finished session takes none at all.
-/

structure Session where
  user : CodeText
  questions : List Question
  sampleText : List Line
  duration : Seconds
  deadline : Seconds
  index : Nat
  score : Nat
  answered : Nat
  hintUsed : Bool
  finished : Bool
  stats : Option PlayerStats
  buffer : Buffer
  index_lt : index < questions.length
deriving DecidableEq

/-- What came of one input. -/
inductive Outcome
  | timeout (typed : String)
  | ignored
  | hint (answer : String)
  | wrong (command : String)
  | correct (command : String) (points : Nat)
deriving DecidableEq, Repr

/-- The outcome of an input, with the question that it was for and the buffer
after it. -/
structure Verdict where
  question : Question
  outcome : Outcome
  buffer : Buffer
deriving DecidableEq

/-- Why a session cannot start. -/
inductive StartError
  | usernameRequired
  | noQuestions
  | deadlineOutOfRange
deriving DecidableEq, Repr

def StartError.message : StartError -> String
  | usernameRequired => "Username is required."
  | noQuestions => "A session needs at least one question."
  | deadlineOutOfRange => "The deadline is out of range."

/-- Why an input gets no verdict. -/
inductive SubmitError
  | alreadyFinished
  | nothingToHint
  | clockOutOfRange
deriving DecidableEq, Repr

def SubmitError.message : SubmitError -> String
  | alreadyFinished => "Session is already finished."
  | nothingToHint => "The question has no answer to show."
  | clockOutOfRange => "The clock is out of range."

/-- The input that asks for a hint. -/
def hintCommand : String := "@@"

/-- The points of an answer: one if it is correct and no hint was used. -/
def pointsFor (correct usedHint : Bool) : Nat :=
  if correct && !usedHint then 1 else 0

namespace Outcome

/-- The text under which an input was judged. -/
def command : Outcome -> String
  | timeout typed => typed
  | ignored => ""
  | hint _ => hintCommand
  | wrong command => command
  | correct command _ => command

def points : Outcome -> Nat
  | correct _ points => points
  | _ => 0

/-- The answer that a hint shows. -/
def hintText : Outcome -> String
  | hint answer => answer
  | _ => ""

end Outcome

namespace Session

/-- A new session, which needs a question and a deadline. -/
def start (user : CodeText) (questions : List Question) (sampleText : List Line)
    (duration now : Seconds) : Except StartError Session :=
  if nonempty : 0 < questions.length then
    match now.plus? duration with
    | none => .error .deadlineOutOfRange
    | some deadline =>
        .ok
          { user := user
            questions := questions
            sampleText := sampleText
            duration := duration
            deadline := deadline
            index := 0
            score := 0
            answered := 0
            hintUsed := false
            finished := false
            stats := none
            buffer := Buffer.fresh sampleText
            index_lt := nonempty }
  else .error .noQuestions

/-- The question that is put now. -/
def question (session : Session) : Question :=
  session.questions.get ⟨session.index, session.index_lt⟩

def timeLeft? (session : Session) (now : Seconds) : Option Seconds :=
  session.deadline.left? now

def timedOut? (session : Session) (now : Seconds) : Option Bool :=
  session.deadline.reached? now

def finish (session : Session) : Session :=
  { session with finished := true }

/-- Go on to the next question, from the last to the first, on a fresh buffer. -/
def advance (session : Session) : Session :=
  { session with
    index := (session.index + 1) % session.questions.length
    hintUsed := false
    buffer := Buffer.fresh session.sampleText
    index_lt := Nat.mod_lt _ (Nat.lt_of_le_of_lt (Nat.zero_le _) session.index_lt) }

/-- Credit an answer to the question that is put now. -/
def credit (session : Session) : Session :=
  { session with
    score := session.score + pointsFor true session.hintUsed
    answered := session.answered + 1 }

/-- A verdict on the question and the buffer of this moment. -/
def verdict (session : Session) (outcome : Outcome) : Verdict :=
  ⟨session.question, outcome, session.buffer⟩

end Session

/-- What an input leaves behind: the session, the register, and its verdict. -/
structure Submission where
  session : Session
  register : Option Line
  result : Except SubmitError Verdict

namespace Session

/-- Show an answer of the question.  The hint counts as used even if there is
none to show. -/
def takeHint (session : Session) (register : Option Line) : Submission :=
  let hinted := { session with hintUsed := true }
  match session.question.expected with
  | [] => ⟨hinted, register, .error .nothingToHint⟩
  | answer :: _ => ⟨hinted, register, .ok (hinted.verdict (.hint answer))⟩

/-- Apply a command and judge it, both as it was typed and by its canonical
text.  The buffer of a correct verdict is the one before the next question. -/
def attempt (session : Session) (register : Option Line) (typed : String) : Submission :=
  let edited := Editor.type ⟨session.buffer, register⟩ typed
  let command := (Command.parse typed).text
  let applied := { session with buffer := edited.buffer }
  if session.question.accepts command || session.question.accepts typed then
    let outcome := .correct command (pointsFor true session.hintUsed)
    ⟨applied.credit.advance, edited.register, .ok (applied.verdict outcome)⟩
  else ⟨applied, edited.register, .ok (applied.verdict (.wrong command))⟩

/-- Take an input that is in time. -/
def respond (session : Session) (register : Option Line) (typed : String) : Submission :=
  if typed = "" then ⟨session, register, .ok (session.verdict .ignored)⟩
  else if typed = hintCommand then session.takeHint register
  else session.attempt register typed

/-- Take one input for the current question. -/
def submit (session : Session) (register : Option Line) (now : Seconds) (input : String) :
    Submission :=
  let typed := Text.strip input
  if session.finished then ⟨session, register, .error .alreadyFinished⟩
  else
    match session.timedOut? now with
    | none => ⟨session, register, .error .clockOutOfRange⟩
    | some true => ⟨session.finish, register, .ok (session.verdict (.timeout typed))⟩
    | some false => session.respond register typed

end Session
end ModalDrill
