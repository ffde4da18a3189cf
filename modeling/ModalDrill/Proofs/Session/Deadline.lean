import ModalDrill.Proofs.Session.History
import ModalDrill.Proofs.Session.Submission

namespace ModalDrill

/-!
# Late inputs

An input counts only if the clock is before the deadline; at the very instant of
the deadline it is late.  If the clock never goes back, the late inputs of a run
are its end.  The first of them finishes the session and changes nothing else, and
the others are refused, so that the run without them comes to the same.

Times are compared as the numbers that they are.  This holds for whole numbers of
any size, and for those that a floating number holds without loss.
-/

namespace Seconds

/-- The number that a time is, if it is one. -/
def exactly? : Seconds -> Option Rat
  | whole amount => some amount
  | real number => number.toRat?

/-- A time that a floating number holds without loss. -/
def Held (seconds : Seconds) : Prop :=
  seconds.toBinary64?.bind Binary64.toRat? = seconds.exactly?

instance (seconds : Seconds) : Decidable seconds.Held :=
  inferInstanceAs (Decidable (_ = _))

/-- Two times that are compared without rounding one of them. -/
inductive Commensurable : Seconds -> Seconds -> Prop
  | whole (first second : Int) : Commensurable (whole first) (whole second)
  | held {first second : Seconds} (first_held : first.Held) (second_held : second.Held) :
      Commensurable first second

end Seconds

theorem Binary64.precedes_of_toRat? {first second : Binary64} {less more : Rat}
    (first_eq : first.toRat? = some less) (second_eq : second.toRat? = some more) :
    first.precedes second = decide (less < more) := by
  cases first with
  | finite =>
      cases second with
      | finite =>
          cases first_eq
          cases second_eq
          rfl
      | infinite => cases second_eq
      | nan => cases second_eq
  | infinite => cases first_eq
  | nan => cases first_eq

namespace Seconds

theorem precedes?_of_toBinary64? {first second : Seconds} {less more : Binary64}
    (first_eq : first.toBinary64? = some less) (second_eq : second.toBinary64? = some more)
    (mixed : forall small large, ¬ (first = whole small ∧ second = whole large)) :
    first.precedes? second = some (less.precedes more) := by
  cases first with
  | whole small =>
      cases second with
      | whole large => exact absurd ⟨rfl, rfl⟩ (mixed small large)
      | real large =>
          change (do let first <- (whole small).toBinary64?; return first.precedes large) = _
          rw [first_eq]
          cases second_eq
          rfl
  | real small =>
      change (do let second <- second.toBinary64?; return small.precedes second) = _
      rw [second_eq]
      cases first_eq
      rfl

private theorem reached?_exactly_whole {deadline now : Int} {closing moment : Rat}
    (closing_eq : (whole deadline).exactly? = some closing)
    (moment_eq : (whole now).exactly? = some moment) :
    (whole deadline).reached? (whole now) = some (decide (closing ≤ moment)) := by
  cases closing_eq
  cases moment_eq
  rw [reached?_whole]
  congr 1
  exact decide_eq_decide.mpr Rat.intCast_le_intCast.symm

/-- A time that is held is held as a floating number of the same value. -/
theorem Held.toBinary64?_eq {seconds : Seconds} (held : seconds.Held) {moment : Rat}
    (moment_eq : seconds.exactly? = some moment) :
    Exists fun number => seconds.toBinary64? = some number ∧ number.toRat? = some moment :=
  Option.bind_eq_some_iff.mp (Eq.trans held moment_eq)

/-- A deadline is reached from the instant on that it names. -/
theorem reached?_exactly {deadline now : Seconds} (commensurable : deadline.Commensurable now)
    {closing moment : Rat} (closing_eq : deadline.exactly? = some closing)
    (moment_eq : now.exactly? = some moment) :
    deadline.reached? now = some (decide (closing ≤ moment)) := by
  cases commensurable with
  | whole deadline now => exact reached?_exactly_whole closing_eq moment_eq
  | held deadline_held now_held =>
      by_cases mixed : forall small large, ¬ (now = whole small ∧ deadline = whole large)
      · rcases deadline_held.toBinary64?_eq closing_eq with ⟨instant, instant_eq, instant_value⟩
        rcases now_held.toBinary64?_eq moment_eq with ⟨reading, reading_eq, reading_value⟩
        rw [reached?, precedes?_of_toBinary64? reading_eq instant_eq mixed,
          Binary64.precedes_of_toRat? reading_value instant_value, Option.map_some, ← decide_not]
        congr 1
        exact decide_eq_decide.mpr Rat.not_lt
      · push Not at mixed
        rcases mixed with ⟨small, large, rfl, rfl⟩
        exact reached?_exactly_whole closing_eq moment_eq

end Seconds

/-- A time that is a number. -/
structure Instant where
  reading : Seconds
  moment : Rat
  moment_eq : reading.exactly? = some moment

/-- An input and the instant at which it is typed. -/
structure TimedInput where
  instant : Instant
  input : String

/-- Is the verdict of a submission that the input was late? -/
def Submission.isTimeout (submission : Submission) : Bool :=
  submission.result.toOption.any fun verdict => verdict.outcome.isTimeout

/-- Was the input of a submission processed, and neither late nor refused? -/
structure Submission.Processes (submission : Submission) : Prop where
  inTime : submission.isTimeout = false
  taken : submission.result ≠ .error .alreadyFinished

namespace Session

/-- What each of a list of inputs leaves behind. -/
def submissions (session : Session) (register : Option Line) : List TimedInput -> List Submission
  | [] => []
  | timed :: rest =>
      let submission := session.submit register timed.instant.reading timed.input
      submission :: submission.session.submissions submission.register rest

/-- The session and the register after a list of inputs. -/
def submitAll (session : Session) (register : Option Line) :
    List TimedInput -> Session × Option Line
  | [] => (session, register)
  | timed :: rest =>
      let submission := session.submit register timed.instant.reading timed.input
      submission.session.submitAll submission.register rest

/-- A session that is open for a length of time from an instant on, and inputs to it
on a clock that never goes back. -/
structure Schedule (session : Session) (opened length : Instant) (inputs : List TimedInput) :
    Prop where
  deadline : opened.reading.plus? length.reading = some session.deadline
  exact : session.deadline.exactly? = some (opened.moment + length.moment)
  compared : forall timed, timed ∈ inputs ->
    session.deadline.Commensurable timed.instant.reading
  forward : inputs.Pairwise fun earlier later => earlier.instant.moment ≤ later.instant.moment

section
variable {session : Session} {opened length : Instant} {inputs : List TimedInput}

/-- Is an input in time? -/
def inTime (opened length : Instant) (timed : TimedInput) : Bool :=
  decide (timed.instant.moment < opened.moment + length.moment)

namespace Schedule

theorem timedOut? {timed : TimedInput} {rest : List TimedInput}
    (schedule : session.Schedule opened length (timed :: rest)) :
    session.timedOut? timed.instant.reading = some (!inTime opened length timed) := by
  have compared := schedule.compared timed List.mem_cons_self
  rw [Session.timedOut?,
    Seconds.reached?_exactly compared schedule.exact timed.instant.moment_eq, inTime, ← decide_not]
  congr 1
  exact decide_eq_decide.mpr Rat.not_lt.symm

/-- A submission leaves the schedule of the inputs that follow. -/
theorem tail {timed : TimedInput} {rest : List TimedInput}
    (schedule : session.Schedule opened length (timed :: rest)) {later : Session}
    (deadline : later.deadline = session.deadline) : later.Schedule opened length rest where
  deadline := deadline ▸ schedule.deadline
  exact := deadline ▸ schedule.exact
  compared := by
    intro timed listed
    rw [deadline]
    exact schedule.compared timed (List.mem_cons_of_mem _ listed)
  forward := schedule.forward.of_cons

/-- Behind a late input there are late inputs only. -/
theorem late_of_head {timed : TimedInput} {rest : List TimedInput}
    (schedule : session.Schedule opened length (timed :: rest))
    (late : inTime opened length timed = false) :
    forall later, later ∈ timed :: rest -> inTime opened length later = false := by
  rw [inTime, decide_eq_false_iff_not, Rat.not_lt] at late
  rintro later listed
  rw [inTime, decide_eq_false_iff_not, Rat.not_lt]
  rcases List.mem_cons.mp listed with rfl | behind
  · exact late
  · exact Rat.le_trans late ((List.pairwise_cons.mp schedule.forward).1 later behind)

theorem filter_eq_nil {timed : TimedInput} {rest : List TimedInput}
    (schedule : session.Schedule opened length (timed :: rest))
    (late : inTime opened length timed = false) :
    (timed :: rest).filter (inTime opened length) = [] := by
  refine List.filter_eq_nil_iff.mpr fun later listed => ?_
  exact Bool.eq_false_iff.mp (schedule.late_of_head late later listed)

end Schedule

/-! ## One input -/

theorem finish_of_finished (finished : session.finished = true) : session.finish = session := by
  unfold finish
  rw [← finished]

/-- A late input finishes the session and leaves nothing else behind. -/
theorem submit_of_late {now : Seconds} (late : session.timedOut? now = some true)
    (register : Option Line) (input : String) :
    session.submit register now input =
      ⟨session.finish, register,
        if session.finished then .error .alreadyFinished
        else .ok (session.verdict (.timeout (Text.strip input)))⟩ := by
  cases finished : session.finished with
  | true => rw [submit_of_finished finished, finish_of_finished finished, if_pos rfl]
  | false =>
      dsimp only [submit]
      rw [if_neg (Bool.eq_false_iff.mp finished), late, if_neg Bool.false_ne_true]

theorem not_processes_of_late {now : Seconds} (late : session.timedOut? now = some true)
    (register : Option Line) (input : String) :
    ¬ (session.submit register now input).Processes := by
  rintro ⟨inTime, taken⟩
  rw [submit_of_late late] at inTime taken
  cases finished : session.finished with
  | true =>
      rw [finished] at taken
      exact taken rfl
  | false =>
      rw [finished] at inTime
      cases inTime

/-- No input that is in time finishes a session. -/
theorem Submitted.finished_of_early {register : Option Line} {now : Seconds} {typed : String}
    {submission : Submission} (submitted : Submitted session register now typed submission)
    (early : session.timedOut? now = some false) :
    submission.session.finished = session.finished := by
  cases submitted with
  | timeout _ late =>
      rw [early] at late
      cases late
  | wrong => exact applied_finished session register typed
  | correct => simp only [advance, credit, applied_finished]
  | _ => rfl

theorem Submitted.finished_of_isTimeout {register : Option Line} {now : Seconds} {typed : String}
    {submission : Submission} (submitted : Submitted session register now typed submission)
    (isTimeout : submission.isTimeout = true) : submission.session.finished = true := by
  cases submitted with
  | timeout => rfl
  | _ => cases isTimeout

/-! ## Many inputs -/

theorem length_submissions (session : Session) (register : Option Line)
    (inputs : List TimedInput) : (session.submissions register inputs).length = inputs.length := by
  induction inputs generalizing session register with
  | nil => rfl
  | cons timed rest inductionHypothesis => exact congrArg Nat.succ (inductionHypothesis _ _)

theorem submissions_of_finished (finished : session.finished = true) (register : Option Line)
    (inputs : List TimedInput) :
    forall submission, submission ∈ session.submissions register inputs ->
      submission.result = .error .alreadyFinished := by
  induction inputs with
  | nil =>
      rintro submission ⟨⟩
  | cons timed rest inductionHypothesis =>
      rw [submissions, submit_of_finished finished, List.forall_mem_cons]
      exact ⟨rfl, inductionHypothesis⟩

/-- Behind an input that was told to be late all are refused, on any clock. -/
theorem submissions_of_isTimeout {register : Option Line} {now : Seconds} {typed : String}
    {submission : Submission} (submitted : Submitted session register now typed submission)
    (isTimeout : submission.isTimeout = true) (rest : List TimedInput) :
    forall later, later ∈ submission.session.submissions submission.register rest ->
      later.result = .error .alreadyFinished :=
  submissions_of_finished (submitted.finished_of_isTimeout isTimeout) submission.register rest

/-- The same anywhere in a run: what comes behind the first late answer is not looked at. -/
theorem refused_of_timeout (register : Option Line) {inputs : List TimedInput}
    {earlier later : List Submission} {submission : Submission}
    (run : session.submissions register inputs = earlier ++ submission :: later)
    (isTimeout : submission.isTimeout = true) :
    forall after, after ∈ later -> after.result = .error .alreadyFinished := by
  induction inputs generalizing session register earlier with
  | nil => exact absurd run.symm (List.append_ne_nil_of_right_ne_nil _ (List.cons_ne_nil _ _))
  | cons timed rest inductionHypothesis =>
      rw [submissions] at run
      cases earlier with
      | nil =>
          rcases List.cons.inj run with ⟨rfl, rfl⟩
          have submitted := session.submit_submitted register timed.instant.reading timed.input
          exact submissions_of_isTimeout submitted isTimeout rest
      | cons first others => exact inductionHypothesis _ (List.cons.inj run).2

theorem countP_isTimeout_le (session : Session) (register : Option Line)
    (inputs : List TimedInput) :
    (session.submissions register inputs).countP Submission.isTimeout ≤ 1 := by
  induction inputs generalizing session register with
  | nil => exact Nat.zero_le 1
  | cons timed rest inductionHypothesis =>
      have submitted := session.submit_submitted register timed.instant.reading timed.input
      rw [submissions]
      generalize session.submit register timed.instant.reading timed.input = submission at *
      rw [List.countP_cons]
      split
      · next isTimeout =>
          have none : (submission.session.submissions submission.register rest).countP
              Submission.isTimeout = 0 := by
            rw [List.countP_eq_zero]
            intro later listed
            rw [Submission.isTimeout, submissions_of_isTimeout submitted isTimeout rest later listed]
            exact Bool.false_ne_true
          exact Nat.le_of_eq (congrArg Nat.succ none)
      · exact inductionHypothesis _ _

/-- A run of late inputs finishes the session, if there is one, and does nothing else. -/
theorem submitAll_of_late (schedule : session.Schedule opened length inputs)
    (register : Option Line)
    (late : forall timed, timed ∈ inputs -> inTime opened length timed = false) :
    session.submitAll register inputs =
      ({ session with finished := (session.submitAll register inputs).1.finished }, register) := by
  induction inputs generalizing session with
  | nil => rfl
  | cons timed rest inductionHypothesis =>
      have reached := schedule.timedOut?
      rw [late timed List.mem_cons_self] at reached
      rw [submitAll, submit_of_late reached]
      exact inductionHypothesis (schedule.tail rfl)
        fun timed listed => late timed (List.mem_cons_of_mem _ listed)

/-- What is processed was typed before the deadline. -/
theorem early_of_processes (schedule : session.Schedule opened length inputs)
    (register : Option Line) :
    forall pair, pair ∈ inputs.zip (session.submissions register inputs) ->
      pair.2.Processes -> inTime opened length pair.1 = true := by
  induction inputs generalizing session register with
  | nil =>
      rintro pair ⟨⟩
  | cons timed rest inductionHypothesis =>
      have terms :=
        (session.submit_submitted register timed.instant.reading timed.input).terms_eq
      rw [submissions, List.zip_cons_cons, List.forall_mem_cons]
      refine ⟨?_, inductionHypothesis (schedule.tail terms.2.2) _⟩
      intro processes
      by_contra late
      have reached := schedule.timedOut?
      rw [Bool.eq_false_iff.mpr late] at reached
      exact not_processes_of_late reached register timed.input processes

/-- The results of the inputs that are in time are those of a run of them alone. -/
theorem submissions_of_early (schedule : session.Schedule opened length inputs)
    (register : Option Line) :
    ((inputs.zip (session.submissions register inputs)).filter fun pair =>
        inTime opened length pair.1).map Prod.snd =
      session.submissions register (inputs.filter (inTime opened length)) := by
  induction inputs generalizing session register with
  | nil => rfl
  | cons timed rest inductionHypothesis =>
      cases early : inTime opened length timed with
      | true =>
          have terms :=
            (session.submit_submitted register timed.instant.reading timed.input).terms_eq
          rw [List.filter_cons_of_pos early, submissions, submissions, List.zip_cons_cons,
            List.filter_cons, if_pos early, List.map_cons]
          exact congrArg (List.cons _) (inductionHypothesis (schedule.tail terms.2.2) _)
      | false =>
          have late := schedule.late_of_head early
          rw [schedule.filter_eq_nil early, List.map_eq_nil_iff.mpr]
          · rfl
          · refine List.filter_eq_nil_iff.mpr fun pair listed => ?_
            exact Bool.eq_false_iff.mp (late pair.1 (List.of_mem_zip listed).1)

/-- All the late inputs together finish the session at most. -/
theorem submitAll_of_early (schedule : session.Schedule opened length inputs)
    (register : Option Line) :
    let whole := session.submitAll register inputs
    let punctual := session.submitAll register (inputs.filter (inTime opened length))
    whole = ({ punctual.1 with finished := whole.1.finished }, punctual.2) ∧
      punctual.1.finished = session.finished := by
  induction inputs generalizing session register with
  | nil => exact ⟨rfl, rfl⟩
  | cons timed rest inductionHypothesis =>
      cases early : inTime opened length timed with
      | true =>
          have submitted := session.submit_submitted register timed.instant.reading timed.input
          have reached := schedule.timedOut?
          rw [early] at reached
          rcases inductionHypothesis (schedule.tail submitted.terms_eq.2.2)
            (session.submit register timed.instant.reading timed.input).register with
            ⟨same, unfinished⟩
          rw [List.filter_cons_of_pos early, submitAll, submitAll]
          exact ⟨same, unfinished.trans (submitted.finished_of_early reached)⟩
      | false =>
          rw [schedule.filter_eq_nil early]
          exact ⟨submitAll_of_late schedule register (schedule.late_of_head early), rfl⟩

/-- On a clock that never goes back, late input never counts.  What is processed was
typed before the deadline.  Without the inputs that were typed at the deadline or
after it, the run comes to the same session, but for its mark of being finished, to
the same register, and the results of the other inputs are the same.  At most one
input is told that it was late, and all behind it are refused. -/
theorem late_inputs_never_count (schedule : session.Schedule opened length inputs)
    (register : Option Line) :
    let closing := opened.moment + length.moment
    let early := inputs.filter fun timed => timed.instant.moment < closing
    let run := session.submissions register inputs
    let whole := session.submitAll register inputs
    let punctual := session.submitAll register early
    run.length = inputs.length ∧
      (forall pair, pair ∈ inputs.zip run -> pair.2.Processes ->
        pair.1.instant.moment < closing) ∧
      (whole = ({ punctual.1 with finished := whole.1.finished }, punctual.2) ∧
        punctual.1.finished = session.finished) ∧
      ((inputs.zip run).filter fun pair => pair.1.instant.moment < closing).map Prod.snd =
        session.submissions register early ∧
      run.countP Submission.isTimeout ≤ 1 ∧
      forall (earlier later : List Submission) (submission : Submission),
        run = earlier ++ submission :: later -> submission.isTimeout = true ->
          forall after, after ∈ later -> after.result = .error .alreadyFinished := by
  intro closing early run whole punctual
  refine ⟨length_submissions session register inputs, ?_, submitAll_of_early schedule register,
    submissions_of_early schedule register, countP_isTimeout_le session register inputs, ?_⟩
  · intro pair listed processes
    exact of_decide_eq_true (early_of_processes schedule register pair listed processes)
  · intro earlier later submission run isTimeout
    exact refused_of_timeout register run isTimeout

/-- A session of a minute on a clock that shows whole seconds, and then a floating
number. -/
def minute : Session :=
  ⟨"ann", [⟨"q", "Delete the line.", ["dd"]⟩], [['a'], ['b']], .whole 60, .whole 60, 0, 0, 0,
    false, false, none, Buffer.fresh [['a'], ['b']], Nat.one_pos⟩

/-- The second of the inputs comes at the very instant of the deadline. -/
def untilLate : List TimedInput :=
  [⟨⟨.whole 59, 59, rfl⟩, "dd"⟩,
    ⟨⟨.real (.finite false 8444249301319680 (-47)), 60, by decide +kernel⟩, "dd"⟩,
    ⟨⟨.whole 60, 60, rfl⟩, "p"⟩]

/-- An answer one second before the deadline counts, one at the deadline does not. -/
theorem late_inputs_never_count_at_deadline :
    let opened : Instant := ⟨.whole 0, 0, rfl⟩
    let length : Instant := ⟨.whole 60, 60, rfl⟩
    minute.Schedule opened length untilLate ∧
      (minute.submissions none untilLate).countP Submission.isTimeout ≤ 1 ∧
      (minute.submitAll none untilLate).1.score = 1 := by
  intro opened length
  have held : (Seconds.whole 60).Held := by decide +kernel
  have schedule : minute.Schedule opened length untilLate := by
    refine ⟨rfl, by decide +kernel, ?_, ?_⟩
    · intro timed listed
      rcases List.mem_cons.mp listed with rfl | listed
      · exact .whole _ _
      rcases List.mem_cons.mp listed with rfl | listed
      · exact .held held rfl
      rw [List.mem_singleton.mp listed]
      exact .whole _ _
    · decide +kernel
  have never := late_inputs_never_count schedule none
  exact ⟨schedule, never.2.2.2.2.1, by decide +kernel⟩

end

end Session
end ModalDrill
