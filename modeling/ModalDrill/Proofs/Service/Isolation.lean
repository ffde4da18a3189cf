import ModalDrill.Proofs.Service.Operation
import ModalDrill.Proofs.Session.Likeness

namespace ModalDrill

/-!
# A session does not depend on its hall

All sessions of a hall share one register, so what another session yanks can
come up in a paste of this one.  Nothing else can: a session goes through a hall
as it would alone with an empty register, up to the text of its buffers and the
column.  Two halls in which the same is done to a session, at the same readings
of the clock, therefore show the same of it, whatever else is done in them.
-/

namespace Session

/-- What can be done to one session. -/
inductive Touch
  | submit (input : String)
  | leave
  | finish
deriving DecidableEq, Repr

/-- What shows of a session when it has been touched: the result of an input,
and the standing. -/
structure View where
  result : Option (Except SubmitError Verdict.Gist)
  standing : Option Standing

/-- A session that is touched while it is alone, with an empty register, and the
result if it was an input. -/
def touched (session : Session) (now : Seconds) :
    Touch -> Session × Option (Except SubmitError Verdict.Gist)
  | .submit input =>
      let submission := session.submit none now input
      (submission.session, some (submission.result.map Verdict.gist))
  | .leave => (session.finish, none)
  | .finish => (session.finish, none)

/-- What shows of a session that is alone, touch by touch. -/
def solo (session : Session) : List (Binary64 × Touch) -> List View
  | [] => []
  | (clock, touch) :: rest =>
      let after := session.touched (.real clock) touch
      ⟨after.2, some after.1.standing⟩ :: after.1.solo rest

/-- Sessions that begin at one time, with the same questions and the same text,
stand alike. -/
theorem Begins.alike {user user' : CodeText} {questions questions' : List Question}
    {sampleText : List Line} {duration now : Seconds} {first second : Session}
    (begins : Begins user questions sampleText duration now first)
    (begins' : Begins user' questions' sampleText duration now second)
    (questions_eq : first.questions = second.questions) : first.Alike second where
  questions_eq := questions_eq
  sampleText_eq := begins.sampleText_eq.trans begins'.sampleText_eq.symm
  deadline_eq := Option.some.inj (begins.deadline_eq.symm.trans begins'.deadline_eq)
  index_eq := begins.index_eq.trans begins'.index_eq.symm
  score_eq := begins.score_eq.trans begins'.score_eq.symm
  answered_eq := begins.answered_eq.trans begins'.answered_eq.symm
  hintUsed_eq := begins.hintUsed_eq.trans begins'.hintUsed_eq.symm
  finished_eq := begins.finished_eq.trans begins'.finished_eq.symm
  outline_eq := congrArg Buffer.outline (begins.buffer_eq.trans begins'.buffer_eq.symm)

end Session

namespace Hall

open Session (Touch View)

/-- What an operation does to the session of a number, if it touches it. -/
def touch? (number : Nat) : Operation -> Option Touch
  | .submit other input => if other = number then some (.submit input) else none
  | .leave other => if other = number then some .leave else none
  | .finish other => if other = number then some .finish else none
  | _ => none

/-- The result of an input in an answer, without the text.  What a finished
session is told of its player's record is no such result. -/
def gist? : Except Failure Answer -> Option (Except SubmitError Verdict.Gist)
  | .ok (.submitted verdict _) => some (.ok verdict.gist)
  | .error (.submit cause) => some (.error cause)
  | _ => none

/-- What is done to the session of a number, and when. -/
def visits (hall : Hall) (number : Nat) : List Operation -> List (Binary64 × Touch)
  | [] => []
  | operation :: rest =>
      ((touch? number operation).map fun touch => (hall.clock, touch)).toList ++
        (hall.perform operation).1.visits number rest

/-- What shows of the session of a number whenever it has been touched. -/
def views (hall : Hall) (number : Nat) : List Operation -> List View
  | [] => []
  | operation :: rest =>
      let later := (hall.perform operation).1
      let view : View :=
        ⟨gist? (hall.perform operation).2, later.sessions[number]?.map Session.standing⟩
      ((touch? number operation).map fun _ => view).toList ++ later.views number rest

/-! ## One operation -/

section
variable {hall : Hall} {number : Nat} {session : Session}

private theorem ne_of_untouched {other : Nat} {touch : Touch}
    (untouched : (if other = number then some touch else none) = none) : other ≠ number := by
  intro same
  rw [if_pos same] at untouched
  cases untouched

/-- An operation that does not touch a session leaves it as it is. -/
theorem Performed.untouched {operation : Operation} {later : Hall} {answer : Except Failure Answer}
    (performed : hall.Performed operation later answer)
    (untouched : touch? number operation = none) (present : hall.sessions[number]? = some session) :
    later.sessions[number]? = some session := by
  cases performed with
  | refused spares =>
      rw [spares.sessions_eq]
      exact present
  | aside spares =>
      rw [spares.sessions_eq]
      exact present
  | started =>
      have inside : number < hall.sessions.length := (List.getElem?_eq_some_iff.mp present).1
      exact (List.getElem?_append_left inside).trans present
  | submitted =>
      exact (withSession_other (ne_of_untouched untouched) _ _).trans present
  | left => exact (withSession_other (ne_of_untouched untouched) _ _).trans present
  | finishedAgain => exact (withSession_other (ne_of_untouched untouched) _ _).trans present
  | finishedFirst => exact (withSession_other (ne_of_untouched untouched) _ _).trans present
  | recorded => exact present

private theorem submit_touched (present : hall.sessions[number]? = some session)
    {alone : Session} (alike : session.Alike alone) (input : String) :
    Exists fun after => (hall.perform (.submit number input)).1.sessions[number]? = some after ∧
      after.Alike (alone.touched (.real hall.clock) (.submit input)).1 ∧
      gist? (hall.perform (.submit number input)).2 =
        (alone.touched (.real hall.clock) (.submit input)).2 := by
  have submitted := alike.submit hall.service.register none (.real hall.clock) input
  rw [perform_submit present]
  refine ⟨_, withSession_self present _, submitted.session, ?_⟩
  unfold submit Session.touched
  dsimp only
  rw [← submitted.gist_eq]
  cases (session.submit hall.service.register (.real hall.clock) input).result <;> rfl

private theorem finish_touched (present : hall.sessions[number]? = some session)
    {alone : Session} (alike : session.Alike alone) :
    Exists fun after => (hall.perform (.finish number)).1.sessions[number]? = some after ∧
      after.Alike (alone.touched (.real hall.clock) .finish).1 ∧
      gist? (hall.perform (.finish number)).2 =
        (alone.touched (.real hall.clock) .finish).2 := by
  cases known : session.stats with
  | some stats =>
      rw [perform_finish_of_known present known]
      exact ⟨_, withSession_self present _, alike.finish, rfl⟩
  | none =>
      generalize recorded : hall.service.store.record (.text session.user)
        (.integer session.score) = result
      rcases result with ⟨store, answer⟩
      rw [perform_finish_of_unknown present known recorded]
      refine ⟨_, withSession_self present _, { alike.finish with }, ?_⟩
      cases answer <;> rfl

/-- An operation that touches a session does with it what it would do with one
that stands alike and is alone. -/
theorem perform_touched (present : hall.sessions[number]? = some session) {alone : Session}
    (alike : session.Alike alone) {operation : Operation} {touch : Touch}
    (touches : touch? number operation = some touch) :
    Exists fun after => (hall.perform operation).1.sessions[number]? = some after ∧
      after.Alike (alone.touched (.real hall.clock) touch).1 ∧
      gist? (hall.perform operation).2 = (alone.touched (.real hall.clock) touch).2 := by
  cases operation with
  | submit other input =>
      rcases Option.ite_none_right_eq_some.mp touches with ⟨rfl, ⟨⟩⟩
      exact submit_touched present alike input
  | leave other =>
      rcases Option.ite_none_right_eq_some.mp touches with ⟨rfl, ⟨⟩⟩
      rw [perform_leave present]
      exact ⟨_, withSession_self present _, alike.finish, rfl⟩
  | finish other =>
      rcases Option.ite_none_right_eq_some.mp touches with ⟨rfl, ⟨⟩⟩
      exact finish_touched present alike
  | _ => cases touches

end

/-! ## Whole runs -/

/-- A session goes through a hall as it would alone, with what is done to it. -/
theorem views_eq_solo {hall : Hall} {number : Nat} {session alone : Session}
    (present : hall.sessions[number]? = some session) (alike : session.Alike alone)
    (operations : List Operation) :
    hall.views number operations = alone.solo (hall.visits number operations) := by
  -- What the session and the one alone have in common is kept by either kind of operation.
  induction operations generalizing hall session alone with
  | nil => rfl
  | cons operation rest inductionHypothesis =>
      cases touches : touch? number operation with
      | none =>
          have kept := (hall.perform_performed operation).untouched touches present
          simp only [views, visits, touches, Option.map_none, Option.toList_none, List.nil_append]
          exact inductionHypothesis kept alike
      | some touch =>
          rcases perform_touched present alike touches with ⟨after, present', alike', gist_eq⟩
          simp only [views, visits, touches, Option.map_some, Option.toList_some,
            List.singleton_append, Session.solo, gist_eq, present', alike'.standing_eq]
          exact congrArg _ (inductionHypothesis present' alike')

/-- A session that has just started is the last of its hall. -/
theorem start_present {hall later : Hall} {username : Json} {count : Option Int} {number : Nat}
    {session : Session}
    (started : hall.perform (.start username count) = (later, .ok (.started number session))) :
    later.sessions[number]? = some session ∧
      Exists fun user => Session.Begins user (hall.service.drawn count)
        hall.service.bank.sampleText hall.service.duration (.real hall.clock) session := by
  have performed := hall.perform_performed (.start username count)
  rw [started] at performed
  cases performed with
  | aside _ isAside => cases isAside
  | started _ begins => exact ⟨List.getElem?_concat_length, _, begins⟩

/-- The game of a session does not depend on the register or on other sessions.
Take two halls in any state with the same sample text, duration and reading of
the clock, start in each a session with the same questions, and go on with any
operations among which the same inputs, leavings and finishes of that session
come in the same order and at the same readings of the clock.  Then both show the
same of it: every result up to the text and the column of its buffer, and after
every touch the counters, the number of lines and the row of the cursor. -/
theorem views_independent {first second first' second' : Hall} {username username' : Json}
    {count count' : Option Int} {number number' : Nat} {session session' : Session}
    {operations operations' : List Operation}
    (sampleText_eq : first.service.bank.sampleText = second.service.bank.sampleText)
    (duration_eq : first.service.duration = second.service.duration)
    (clock_eq : first.clock = second.clock)
    (started : first.perform (.start username count) = (first', .ok (.started number session)))
    (started' : second.perform (.start username' count') =
      (second', .ok (.started number' session')))
    (questions_eq : session.questions = session'.questions)
    (visits_eq : first'.visits number operations = second'.visits number' operations') :
    session.standing = session'.standing ∧
      first'.views number operations = second'.views number' operations' := by
  rcases start_present started with ⟨present, _, begins⟩
  rcases start_present started' with ⟨present', _, begins'⟩
  rw [← sampleText_eq, ← duration_eq, ← clock_eq] at begins'
  have alike : session.Alike session' := begins.alike begins' questions_eq
  refine ⟨alike.standing_eq, ?_⟩
  rw [views_eq_solo present alike, views_eq_solo present' (Session.Alike.refl session'), visits_eq]

/-- In the second hall another session has yanked a line before this one pastes.
The pasted text is another one, and all that counts is the same. -/
theorem views_independent_of_yank :
    let service : Service :=
      ⟨⟨["one".toList], [⟨"q", "Cut a character.", ["x"]⟩]⟩, 60, Sampler.rotation 0, none,
        ⟨Database.blank, false, true, true⟩⟩
    let hall := Hall.new service
    let begun := (hall.perform (.start (.text (CodeText.ofString "ann")) none)).1
    let alone : List Operation := [.submit 0 "p", .wait 1, .submit 0 "j"]
    let among : List Operation :=
      [.start (.text (CodeText.ofString "bob")) none, .submit 1 "yy", .submit 0 "p", .wait 1,
        .submit 0 "j"]
    begun.visits 0 alone = begun.visits 0 among ∧
      begun.views 0 alone = begun.views 0 among ∧
      (begun.run alone).sessions[0]?.map (fun session => session.buffer.lines) =
        some ["one".toList, []] ∧
      (begun.run among).sessions[0]?.map (fun session => session.buffer.lines) =
        some ["one".toList, "one".toList] := by
  intro service hall begun alone among
  have visits_eq : begun.visits 0 alone = begun.visits 0 among := by decide +kernel
  have started : Exists fun session =>
      hall.perform (.start (.text (CodeText.ofString "ann")) none) =
        (begun, .ok (.started 0 session)) := by
    have named : Text.strip (CodeText.ofString "ann").toString ≠ "" := by decide +kernel
    have filled : hall.service.drawn none ≠ [] := by decide +kernel
    have instant : ((Seconds.real hall.clock).plus? hall.service.duration).isSome = true := by
      decide +kernel
    rcases exists_started named filled instant with ⟨session, started⟩
    refine ⟨session, Prod.ext rfl ?_⟩
    rw [started]
    rfl
  rcases started with ⟨session, started⟩
  have views_eq := (views_independent rfl rfl rfl started started rfl visits_eq).2
  exact ⟨visits_eq, views_eq, by decide +kernel, by decide +kernel⟩

end Hall
end ModalDrill
