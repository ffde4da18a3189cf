import Mathlib.Data.List.Rotate
import ModalDrill.Proofs.Bank.Draws
import ModalDrill.Proofs.Service.Isolation
import ModalDrill.Proofs.Service.Playable
import ModalDrill.Proofs.Session.History

namespace ModalDrill

/-!
# Questions come round

A start draws the questions of a session, and their order stays.  A correct answer,
and nothing else, goes on to the next place, and from the last to the first.  So in
any stretch of as many correct answers as there are questions every place has its
turn once, and what comes that many answers later is the same place again, whatever
is typed in between and whatever is done to other sessions.

A start that fails for want of a name or of a question leaves the hall as it is.
-/

/-! ## Going around -/

/-- As many places as are counted, from a first one on around a circle. -/
def inTurn (size first count : Nat) : List Nat :=
  (List.range count).map fun offset => (first + offset) % size

theorem inTurn_succ {size first : Nat} (inside : first < size) (count : Nat) :
    inTurn size first (count + 1) = first :: inTurn size ((first + 1) % size) count := by
  unfold inTurn
  rw [List.range_succ_eq_map, List.map_cons, List.map_map, Nat.add_zero, Nat.mod_eq_of_lt inside]
  refine congrArg (List.cons first) (List.map_congr_left fun offset _ => ?_)
  rw [Nat.mod_add_mod, Function.comp_apply, Nat.succ_eq_add_one, Nat.add_right_comm, Nat.add_assoc]

/-- Places come round: in every stretch of their number each place has one turn, and each
comes again when it is over. -/
structure ComesRound (size : Nat) (places : List Nat) : Prop where
  once : forall start, start + size ≤ places.length ->
    ((places.drop start).take size).Perm (List.range size)
  again : forall turn, turn + size < places.length -> places[turn + size]? = places[turn]?

/-- A stretch of a whole round is the round itself, turned to where the stretch starts. -/
theorem take_drop_inTurn {size count start : Nat} (within : start + size ≤ count) :
    ((inTurn size 0 count).drop start).take size = (List.range size).rotate start := by
  refine List.ext_getElem ?_ ?_
  · simp only [inTurn, List.length_take, List.length_drop, List.length_map, List.length_range,
      List.length_rotate]
    omega
  · intro place _ _
    simp only [inTurn, List.getElem_take, List.getElem_drop, List.getElem_map, List.getElem_range,
      List.getElem_rotate, List.length_range]
    rw [Nat.zero_add, Nat.add_comm]

theorem comesRound_inTurn (size count : Nat) : ComesRound size (inTurn size 0 count) where
  once := by
    intro start within
    rw [inTurn, List.length_map, List.length_range] at within
    rw [take_drop_inTurn within]
    exact List.rotate_perm _ start
  again := by
    intro turn within
    rw [inTurn, List.length_map, List.length_range] at within
    have earlier : turn < count := by omega
    simp only [inTurn, List.getElem?_map, List.getElem?_range within, List.getElem?_range earlier,
      Option.map_some, Nat.zero_add, Nat.add_mod_right]

/-! ## One input -/

/-- A correct answer goes on to the next place; nothing else moves a session. -/
theorem Session.Submitted.index_cases {session : Session} {register : Option Line}
    {now : Seconds} {typed : String} {submission : Submission}
    (submitted : session.Submitted register now typed submission) :
    (submission.session.index = session.index ∧ forall verdict,
      submission.result = .ok verdict -> verdict.outcome.isCorrect = false) ∨
    submission.session.index = (session.index + 1) % session.questions.length ∧
      Exists fun verdict => submission.result = .ok verdict ∧ verdict.outcome.isCorrect = true ∧
        verdict.question = session.question := by
  cases submitted with
  | refused => exact Or.inl ⟨rfl, by rintro verdict ⟨⟩⟩
  | unclocked => exact Or.inl ⟨rfl, by rintro verdict ⟨⟩⟩
  | unanswerable => exact Or.inl ⟨rfl, by rintro verdict ⟨⟩⟩
  | timeout => exact Or.inl ⟨rfl, by rintro verdict ⟨⟩; rfl⟩
  | ignored => exact Or.inl ⟨rfl, by rintro verdict ⟨⟩; rfl⟩
  | hint => exact Or.inl ⟨rfl, by rintro verdict ⟨⟩; rfl⟩
  | wrong => exact Or.inl ⟨applied_index session register typed, by rintro verdict ⟨⟩; rfl⟩
  | correct =>
      refine Or.inr ⟨?_, _, rfl, rfl, applied_question session register typed⟩
      simp only [advance, credit, applied_index, applied_questions]

/-! ## Starts -/

namespace Service

variable {service : Service} {now : Seconds} {username : CodeText} {count : Option Int}

/-- Without a name nothing is started and nothing is touched. -/
theorem start_of_unnamed (unnamed : Text.strip username.toString = "") :
    service.start now username count = (service, .error .usernameRequired) :=
  if_pos unnamed

/-- Without a question nothing is started either, and the register is left alone. -/
theorem start_of_nothing_drawn (named : Text.strip username.toString ≠ "")
    (nothing : service.drawn count = []) :
    service.start now username count = (service, .error .noQuestions) := by
  unfold start
  rw [if_neg named, nothing]
  rfl

/-- Without a deadline there is no session, but the register has been emptied. -/
theorem start_of_no_deadline (named : Text.strip username.toString ≠ "")
    (filled : service.drawn count ≠ [])
    (noDeadline : now.plus? service.duration = none) :
    service.start now username count =
      ({ service with register := none }, .error .deadlineOutOfRange) := by
  unfold start Session.start
  dsimp only
  rw [if_neg named, dif_pos (List.length_pos_iff.mpr filled), noDeadline]

end Service

namespace Hall

theorem perform_start_of_error {hall : Hall} {name : CodeText} {count : Option Int}
    {service : Service} {cause : StartError}
    (refused : hall.service.start (.real hall.clock) name count = (service, .error cause)) :
    hall.perform (.start (.text name) count) =
      ({ hall with service := service }, .error (.start cause)) := by
  dsimp only [perform, start]
  rw [refused]

/-- A start fails exactly if it lacks a name, a question or a deadline. -/
theorem start_fails_iff (hall : Hall) (name : CodeText) (count : Option Int) :
    (Exists fun cause => (hall.perform (.start (.text name) count)).2 = .error cause) ↔
      Text.strip name.toString = "" ∨ hall.service.drawn count = [] ∨
        (Seconds.real hall.clock).plus? hall.service.duration = none := by
  by_cases named : Text.strip name.toString = ""
  · have refused : hall.service.start (.real hall.clock) name count =
        (hall.service, .error .usernameRequired) := Service.start_of_unnamed named
    exact iff_of_true ⟨_, congrArg Prod.snd (perform_start_of_error refused)⟩ (Or.inl named)
  · by_cases nothing : hall.service.drawn count = []
    · have refused : hall.service.start (.real hall.clock) name count =
          (hall.service, .error .noQuestions) := Service.start_of_nothing_drawn named nothing
      exact iff_of_true ⟨_, congrArg Prod.snd (perform_start_of_error refused)⟩
        (Or.inr (Or.inl nothing))
    · cases deadline : (Seconds.real hall.clock).plus? hall.service.duration with
      | none =>
          have refused := perform_start_of_error
            (Service.start_of_no_deadline named nothing deadline)
          exact iff_of_true ⟨_, congrArg Prod.snd refused⟩ (Or.inr (Or.inr rfl))
      | some instant =>
          rcases exists_started named nothing (Option.isSome_of_eq_some deadline) with
            ⟨session, started⟩
          rw [started]
          refine iff_of_false (by rintro ⟨cause, ⟨⟩⟩) ?_
          rintro (same | same | impossible)
          · exact named same
          · exact nothing same
          · cases impossible

/-- A start that lacks a name or a question changes nothing. -/
theorem start_without (hall : Hall) {name : CodeText} {count : Option Int}
    (lacks : Text.strip name.toString = "" ∨ hall.service.drawn count = []) :
    (hall.perform (.start (.text name) count)).1 = hall := by
  by_cases named : Text.strip name.toString = ""
  · rw [perform_start_of_error (Service.start_of_unnamed named)]
  · have nothing := lacks.resolve_left named
    rw [perform_start_of_error (Service.start_of_nothing_drawn named nothing)]

/-! ## One operation -/

/-- The verdict on an input to the session of a number, if it is correct. -/
def correct? (number : Nat) : Operation -> Except Failure Answer -> Option Verdict
  | .submit other _, .ok (.submitted verdict _) =>
      if other = number ∧ verdict.outcome.isCorrect = true then some verdict else none
  | _, _ => none

/-- The place in a session of the question that an operation answers correctly, and the
verdict. -/
def turn? (hall : Hall) (number : Nat) (operation : Operation) : Option (Nat × Verdict) := do
  let session <- hall.sessions[number]?
  let verdict <- correct? number operation (hall.perform operation).2
  return (session.index, verdict)

/-- The places in a session whose questions are answered correctly during some operations,
in order, each with its verdict. -/
def turns (hall : Hall) (number : Nat) : List Operation -> List (Nat × Verdict)
  | [] => []
  | operation :: rest =>
      (hall.turn? number operation).toList ++ (hall.perform operation).1.turns number rest

variable {hall : Hall} {number : Nat} {session : Session}

theorem correct?_of_untouched {operation : Operation} (untouched : touch? number operation = none)
    (answer : Except Failure Answer) : correct? number operation answer = none := by
  cases operation with
  | submit other input =>
      have different : other ≠ number := by
        intro same
        rw [touch?, if_pos same] at untouched
        cases untouched
      rcases answer with cause | answer
      · rfl
      · cases answer with
        | submitted verdict session => exact if_neg fun both => different both.1
        | _ => rfl
  | _ => rfl

/-- The answer to an input is correct if its verdict is. -/
theorem correct?_submit (present : hall.sessions[number]? = some session) (input : String) :
    correct? number (.submit number input) (hall.perform (.submit number input)).2 =
      (session.submit hall.service.register (.real hall.clock) input).result.toOption.filter
        fun verdict => verdict.outcome.isCorrect := by
  rw [perform_submit present, submit]
  dsimp only
  cases (session.submit hall.service.register (.real hall.clock) input).result with
  | error cause => rfl
  | ok verdict =>
      dsimp only [correct?, Except.toOption, Option.filter]
      simp only [true_and]

theorem turn?_of_present (present : hall.sessions[number]? = some session)
    (operation : Operation) :
    hall.turn? number operation =
      (correct? number operation (hall.perform operation).2).map fun verdict =>
        (session.index, verdict) := by
  unfold turn?
  rw [present]
  cases correct? number operation (hall.perform operation).2 <;> rfl

/-- What an operation makes of a session: the session stays at its place, or the question
there is answered correctly and the next place follows. -/
structure Turned (hall : Hall) (number : Nat) (session : Session) (operation : Operation)
    (after : Session) : Prop where
  present : (hall.perform operation).1.sessions[number]? = some after
  questions_eq : after.questions = session.questions
  turn : (after.index = session.index ∧ hall.turn? number operation = none) ∨
    after.index = (session.index + 1) % session.questions.length ∧
      Exists fun verdict => hall.turn? number operation = some (session.index, verdict) ∧
        verdict.question = session.question

private theorem submit_turned (present : hall.sessions[number]? = some session) (input : String) :
    Exists (hall.Turned number session (.submit number input)) := by
  have submitted := session.submit_submitted hall.service.register (.real hall.clock) input
  refine ⟨_, ?_, submitted.terms_eq.1, ?_⟩
  · rw [perform_submit present, submit_hall]
    exact withSession_self present _
  · rw [turn?_of_present present, correct?_submit present]
    rcases submitted.index_cases with ⟨stays, incorrect⟩ | ⟨moves, verdict, result, correct, put⟩
    · refine Or.inl ⟨stays, ?_⟩
      cases result : (session.submit hall.service.register (.real hall.clock) input).result with
      | error cause => rfl
      | ok verdict =>
          rw [Except.toOption, Option.filter_some, incorrect verdict result]
          rfl
    · refine Or.inr ⟨moves, verdict, ?_, put⟩
      rw [result, Except.toOption, Option.filter_some, correct]
      rfl

/-- A session that is not answered correctly stays at its place. -/
private theorem stay_turned {operation : Operation} {after : Session}
    (present : hall.sessions[number]? = some session)
    (found : (hall.perform operation).1.sessions[number]? = some after)
    (questions_eq : after.questions = session.questions) (index_eq : after.index = session.index)
    (incorrect : correct? number operation (hall.perform operation).2 = none) :
    Exists (hall.Turned number session operation) := by
  refine ⟨after, found, questions_eq, Or.inl ⟨index_eq, ?_⟩⟩
  rw [turn?_of_present present, incorrect]
  rfl

private theorem finish_turned (present : hall.sessions[number]? = some session) :
    Exists (hall.Turned number session (.finish number)) := by
  cases known : session.stats with
  | some stats =>
      have found : (hall.perform (.finish number)).1.sessions[number]? = some session.finish := by
        rw [perform_finish_of_known present known]
        exact withSession_self present _
      exact stay_turned present found rfl rfl rfl
  | none =>
      generalize recorded : hall.service.store.record (.text session.user)
        (.integer session.score) = result
      rcases result with ⟨store, answer⟩
      have found : (hall.perform (.finish number)).1.sessions[number]? =
          some { session.finish with stats := answer.toOption } := by
        rw [perform_finish_of_unknown present known recorded]
        exact withSession_self present _
      exact stay_turned present found rfl rfl rfl

theorem exists_turned (present : hall.sessions[number]? = some session) (operation : Operation) :
    Exists (hall.Turned number session operation) := by
  cases touches : touch? number operation with
  | none =>
      have kept := (hall.perform_performed operation).untouched touches present
      exact stay_turned present kept rfl rfl (correct?_of_untouched touches _)
  | some touch =>
      cases operation with
      | submit other input =>
          rcases Option.ite_none_right_eq_some.mp touches with ⟨rfl, _⟩
          exact submit_turned present input
      | leave other =>
          rcases Option.ite_none_right_eq_some.mp touches with ⟨rfl, _⟩
          have found : (hall.perform (.leave other)).1.sessions[other]? = some session.finish := by
            rw [perform_leave present]
            exact withSession_self present _
          exact stay_turned present found rfl rfl rfl
      | finish other =>
          rcases Option.ite_none_right_eq_some.mp touches with ⟨rfl, _⟩
          exact finish_turned present
      | _ => cases touches

/-! ## Whole runs -/

/-- The places of a session have their turns one after the other, from its own on, and each
verdict is on the question at its place. -/
theorem turns_inTurn (present : hall.sessions[number]? = some session)
    (operations : List Operation) :
    (hall.turns number operations).map Prod.fst =
        inTurn session.questions.length session.index (hall.turns number operations).length ∧
      forall turn, turn ∈ hall.turns number operations ->
        session.questions[turn.1]? = some turn.2.question := by
  -- the place of the session is always the place of the turn that comes next
  induction operations generalizing hall session with
  | nil => exact ⟨rfl, by rintro turn ⟨⟩⟩
  | cons operation rest inductionHypothesis =>
      rcases exists_turned present operation with ⟨after, found, questions_eq, turn⟩
      rcases inductionHypothesis found with ⟨places, questions⟩
      rw [questions_eq] at places questions
      rw [turns]
      rcases turn with ⟨stays, none⟩ | ⟨moves, verdict, some, put⟩
      · rw [none, Option.toList_none, List.nil_append, places, stays]
        exact ⟨rfl, questions⟩
      · rw [some, Option.toList_some, List.singleton_append, List.map_cons, List.length_cons,
          inTurn_succ session.index_lt, places, moves]
        refine ⟨rfl, List.forall_mem_cons.mpr ⟨?_, questions⟩⟩
        rw [put]
        exact session.getElem?_index

/-- What is drawn from a pool for a session: questions at different places of the pool, as
many as are asked for as far as they go, and all of them if no number is named. -/
structure Draws (pool : List Question) (count : Option Int) (places : List (Fin pool.length))
    (drawn : List Question) : Prop where
  drawn_eq : drawn = places.map pool.get
  different : places.Nodup
  length_eq : (places.length : Int) =
    match count with
    | none => (pool.length : Int)
    | some wanted => max 0 (min wanted pool.length)
  shuffled : count = none -> drawn.Perm pool

/-- Take a service whose draws are fair, in any hall.  A start draws questions at different
places of the pool, as many as it is asked for, as far as they go.  It fails exactly if the
name is blank, nothing is drawn, or the duration is an integer that no floating number can
hold.  In the first two cases the hall stays as it is, with the register, the store and
the other sessions.  A session that starts has the drawn questions, in their order.
During any operations thereafter its correct answers come round: among as many in a row as
there are questions each drawn place has one turn, and the place of an answer is that of
the one as many answers later. -/
theorem questions_come_round {hall : Hall} (fair : hall.service.sampler.Fair) (name : CodeText)
    (count : Option Int) :
    let pool := hall.service.bank.questions
    let places := hall.service.sampler.places pool.length count
    let start : Operation := .start (.text name) count
    Draws pool count places (hall.service.drawn count) ∧
    ((Exists fun cause => (hall.perform start).2 = .error cause) ↔
      Text.strip name.toString = "" ∨ places.length = 0 ∨
        hall.service.duration.toBinary64? = none) ∧
    (Text.strip name.toString = "" ∨ places.length = 0 -> (hall.perform start).1 = hall) ∧
    forall later number session, hall.perform start = (later, .ok (.started number session)) ->
      session.questions = places.map pool.get ∧
      forall operations,
        ComesRound places.length ((later.turns number operations).map Prod.fst) ∧
        forall turn, turn ∈ later.turns number operations ->
          places[turn.1]?.map pool.get = some turn.2.question := by
  intro pool places start
  have drawn_eq : hall.service.drawn count = places.map pool.get := draw_eq _ pool count
  have nothing_iff : hall.service.drawn count = [] ↔ places.length = 0 := by
    rw [drawn_eq, List.map_eq_nil_iff, List.length_eq_zero_iff]
  have noDeadline_iff : (Seconds.real hall.clock).plus? hall.service.duration = none ↔
      hall.service.duration.toBinary64? = none := by
    rw [Seconds.plus?_of_real, Option.map_eq_none_iff]
  refine ⟨⟨drawn_eq, fair.nodup_places _ count, fair.length_places _ count, ?_⟩, ?_, ?_, ?_⟩
  · rintro rfl
    exact draw_perm fair pool
  · rw [hall.start_fails_iff name count, nothing_iff, noDeadline_iff]
  · rw [← nothing_iff]
    exact hall.start_without
  · intro later number session started
    rcases start_present started with ⟨present, user, begins⟩
    have questions_eq : session.questions = places.map pool.get :=
      begins.questions_eq.trans drawn_eq
    refine ⟨questions_eq, fun operations => ?_⟩
    rcases turns_inTurn present operations with ⟨inTurn_eq, questions⟩
    rw [begins.index_eq, questions_eq, List.length_map] at inTurn_eq
    rw [inTurn_eq]
    refine ⟨comesRound_inTurn _ _, fun turn listed => ?_⟩
    rw [← List.getElem?_map, ← questions_eq]
    exact questions turn listed

/-- Two questions are asked for by a number that is too large.  A wrong answer, a hint and an
answer in another session come in between. -/
theorem questions_come_round_interrupted :
    let pool : List Question := [⟨"down", "", ["j"]⟩, ⟨"up", "", ["k"]⟩]
    let service : Service :=
      ⟨⟨[['a']], pool⟩, 60, Sampler.rotation 1, none, ⟨Database.blank, false, true, true⟩⟩
    let start : Operation := .start (.text (CodeText.ofString " ann ")) (some 7)
    let later := ((Hall.new service).perform start).1
    let operations : List Operation :=
      [.submit 0 "k", .submit 0 "x", .start (.text (CodeText.ofString "bob")) none, .submit 0 "@@",
        .submit 1 "k", .submit 0 "j", .submit 0 "k"]
    service.sampler.Fair ∧ (later.turns 0 operations).map Prod.fst = [0, 1, 0] ∧
      ComesRound 2 ((later.turns 0 operations).map Prod.fst) := by
  intro pool service start later operations
  have fair : service.sampler.Fair := Sampler.rotation_fair 1
  have started : Exists fun session =>
      (Hall.new service).perform start = (later, .ok (.started 0 session)) := by
    have named : Text.strip (CodeText.ofString " ann ").toString ≠ "" := by decide +kernel
    have filled : (Hall.new service).service.drawn (some 7) ≠ [] := by decide +kernel
    have instant :
        ((Seconds.real (Hall.new service).clock).plus? service.duration).isSome = true := by
      decide +kernel
    rcases exists_started named filled instant with ⟨session, started⟩
    refine ⟨session, Prod.ext rfl ?_⟩
    rw [started]
    rfl
  rcases started with ⟨session, started⟩
  have round := (@questions_come_round (Hall.new service) fair
    (CodeText.ofString " ann ") (some 7)).2.2.2 later 0 session started
  exact ⟨fair, by decide +kernel, (round.2 operations).1⟩

end Hall
end ModalDrill
