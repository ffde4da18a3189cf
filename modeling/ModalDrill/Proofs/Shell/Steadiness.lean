import ModalDrill.Proofs.Service.Playable
import ModalDrill.Proofs.Session.Deadline
import ModalDrill.Proofs.Shell.Line

namespace ModalDrill

/-!
# A shell that goes on

At a desk that works, with questions that have answers and a clock that can make
its moves, the shell breaks off in two places only: where the aggregate of a name
without a form in bytes is asked for, and where a round is to last so long that no
clock shows its end.  A session is only asked while it is not finished, its score is
saved or said not to be saved, and a round without questions leads back to the menu.
-/

/-- The prompt that an entry puts, if it puts one. -/
def Entry.prompt? : Entry -> Option Prompt
  | .asked prompt => some prompt
  | _ => none

/-- The prompts that were put, in order. -/
def Desk.prompts (desk : Desk) : List Prompt :=
  desk.entries.filterMap Entry.prompt?

/-- Does a message say that a score could not be saved? -/
def Message.isNotSaved : Message -> Bool
  | .notSaved _ => true
  | _ => false

theorem Desk.prompts_add (desk : Desk) (entry : Entry) :
    (desk.add entry).prompts = desk.prompts ++ entry.prompt?.toList := by
  rw [prompts, add, List.filterMap_append, prompts]
  cases entry <;> rfl

namespace Shell

/-- What rounds need so that they go on: an answer to every question, and a clock that
can make the moves of everything that is printed. -/
structure Smooth (service : Service) (delay : Delay) : Prop where
  answered : forall question, question ∈ service.bank.questions -> question.expected ≠ []
  passes : forall message, delay.Passes message

/-- A desk that works.  Its service has the questions and the duration of the one of the
start, its store is connected and can be written, these prompts were put, and no score
was said not to be saved unless the name of the player is to blame. -/
structure Works (origin : Service) (player : CodeText) (prompts : List Prompt) (desk : Desk) :
    Prop where
  bank_eq : desk.service.bank = origin.bank
  duration_eq : desk.service.duration = origin.duration
  connected : Exists fun tables => desk.service.store.tables = .ok tables
  writable : desk.service.store.writable = true
  prompts_eq : desk.prompts = prompts
  saved : forall message, .printed message ∈ desk.entries -> message.isNotSaved = true ->
    message ∈ notices player

/-- The session of a round that goes on. -/
structure Running (origin : Service) (player : CodeText) (session : Session) : Prop where
  fits : session.Fits origin.bank
  unfinished : session.finished = false
  unrecorded : session.stats = none
  user_eq : session.user = player

/-- What holds at a prompt with the lines still to be read. -/
inductive Steady (origin : Service) (player : CodeText) (remaining : List Input) : Phase -> Prop
  | naming (named : playerOf remaining = player) (few : (remaining.length : Int) < integerBound) :
      Steady origin player remaining .naming
  | menu (isName : IsName player) (few : (remaining.length : Int) < integerBound) :
      Steady origin player remaining (.menu player)
  | command {session : Session} (isName : IsName player) (running : Running origin player session)
      (few : (session.score : Int) + remaining.length < integerBound) :
      Steady origin player remaining (.command player session)

/-- What it takes for the shell to break off at the menu. -/
inductive Breaks (origin : Service) (player : CodeText) (typed : String) : Failure -> Prop
  | stats (asked : folded typed = "3") (halves : player.isEncodable = false) :
      Breaks origin player typed (.store (.unencodable player))
  | play (asked : folded typed = "1") (filled : origin.bank.questions ≠ [])
      (endless : origin.duration.toBinary64? = none) :
      Breaks origin player typed .clockOutOfRange

variable {origin : Service} {player : CodeText} {prompts : List Prompt} {desk : Desk}
  {delay : Delay} {session : Session} {remaining : List Input}

/-! ## Printing -/

theorem Works.add (works : Works origin player prompts desk) (entry : Entry)
    (saved : forall message, entry = .printed message -> message.isNotSaved = true ->
      message ∈ notices player) :
    Works origin player (prompts ++ entry.prompt?.toList) (desk.add entry) where
  bank_eq := works.bank_eq
  duration_eq := works.duration_eq
  connected := works.connected
  writable := works.writable
  prompts_eq := by
    rw [desk.prompts_add, works.prompts_eq]
  saved := by
    intro message listed
    rcases List.mem_append.mp listed with before | now
    · exact works.saved message before
    · exact saved message (List.mem_singleton.mp now).symm

/-- What puts no prompt leaves the prompts as they are. -/
theorem Works.addQuiet (works : Works origin player prompts desk) {entry : Entry}
    (quiet : entry.prompt? = none)
    (saved : forall message, entry = .printed message -> message.isNotSaved = true ->
      message ∈ notices player) : Works origin player prompts (desk.add entry) := by
  have added := works.add entry saved
  rw [quiet, Option.toList_none, List.append_nil] at added
  exact added

theorem Works.note (works : Works origin player prompts desk) (note : Note) :
    Works origin player prompts (desk.add (.noted note)) :=
  works.addQuiet rfl fun _ contrary => nomatch contrary

/-- Neither the clock nor the register nor the draws matter to a desk that works. -/
theorem Works.adjust (works : Works origin player prompts desk) (clock : Binary64)
    (sampler : Sampler) (register : Option Line) :
    Works origin player prompts
      { desk with
        clock := clock
        service := { desk.service with sampler := sampler, register := register } } :=
  ⟨works.bank_eq, works.duration_eq, works.connected, works.writable, works.prompts_eq,
    works.saved⟩

theorem Works.wait (works : Works origin player prompts desk) {seconds : Seconds}
    (held : seconds.toBinary64? ≠ none) :
    Leads (Shell.wait seconds) desk (fun _ => Works origin player prompts) Never := by
  unfold Shell.wait
  cases passed : seconds.toBinary64? with
  | none => exact absurd passed held
  | some amount =>
      refine (leads_modify _ desk _).imp ?_
      rintro _ later rfl
      exact works.adjust (desk.clock.add amount) desk.service.sampler desk.service.register

private theorem Works.waits (works : Works origin player prompts desk) {times : List Seconds}
    (held : forall seconds, seconds ∈ times -> seconds.toBinary64? ≠ none) :
    Leads (times.forM Shell.wait) desk (fun _ => Works origin player prompts) Never := by
  induction times generalizing desk with
  | nil => exact leads_pure works
  | cons seconds rest inductionHypothesis =>
      refine (works.wait (held seconds List.mem_cons_self)).bind ?_
      intro _ between works'
      exact inductionHypothesis works' fun other listed =>
        held other (List.mem_cons_of_mem seconds listed)

theorem Works.print (works : Works origin player prompts desk)
    (passes : forall message, delay.Passes message) {message : Message}
    (saved : message.isNotSaved = true -> message ∈ notices player) :
    Leads (Shell.print delay message) desk (fun _ => Works origin player prompts) Never := by
  refine (leads_say (.printed message) desk _).bind ?_
  rintro _ _ rfl
  have works' : Works origin player prompts (desk.add (.printed message)) :=
    works.addQuiet rfl fun _ same => Entry.printed.inj same ▸ saved
  refine leads_get ?_
  exact works'.waits (passes message desk.entries)

/-- None of the messages says that a score could not be saved. -/
def AllSaved (messages : List Message) : Prop :=
  forall message, message ∈ messages -> message.isNotSaved = false

theorem Works.printAll (works : Works origin player prompts desk)
    (passes : forall message, delay.Passes message) {messages : List Message}
    (saved : AllSaved messages) :
    Leads (Shell.printAll delay messages) desk (fun _ => Works origin player prompts) Never := by
  induction messages generalizing desk with
  | nil => exact leads_pure works
  | cons message rest inductionHypothesis =>
      have silent := Bool.eq_false_iff.mp (saved message List.mem_cons_self)
      refine (works.print passes fun told => absurd told silent).bind ?_
      intro _ between works'
      exact inductionHypothesis works' fun other listed =>
        saved other (List.mem_cons_of_mem message listed)

private theorem allSaved_map {Value : Type} {make : Value -> Message} (values : List Value)
    (saved : forall value, (make value).isNotSaved = false) : AllSaved (values.map make) := by
  intro message listed
  rcases List.mem_map.mp listed with ⟨value, _, rfl⟩
  exact saved value

theorem allSaved_menuMessages (player : CodeText) : AllSaved (menuMessages player) := by
  unfold AllSaved menuMessages
  simp only [List.forall_mem_cons, List.not_mem_nil, IsEmpty.forall_iff, implies_true, and_true]
  exact ⟨rfl, rfl, rfl, rfl, rfl, rfl⟩

theorem allSaved_bufferMessages (buffer : Buffer) : AllSaved (bufferMessages buffer) :=
  allSaved_map buffer.render fun _ => rfl

theorem allSaved_statsMessages (stats : PlayerStats) : AllSaved (statsMessages stats) := by
  unfold AllSaved statsMessages
  rw [List.forall_mem_cons, List.forall_mem_singleton]
  exact ⟨rfl, rfl⟩

theorem allSaved_leaderboardMessages (players : List PlayerStats) :
    AllSaved (leaderboardMessages players) := by
  unfold AllSaved leaderboardMessages
  rw [List.forall_mem_cons]
  refine ⟨rfl, ?_⟩
  split
  · rw [List.forall_mem_singleton]
    rfl
  · exact allSaved_map (Leaderboard.table players) fun _ => rfl

theorem allSaved_verdictMessages (verdict : Verdict) : AllSaved (verdictMessages verdict) := by
  unfold AllSaved verdictMessages
  cases verdict.outcome with
  | correct command points =>
      rw [List.forall_mem_cons]
      exact ⟨rfl, allSaved_bufferMessages verdict.buffer⟩
  | ignored => exact fun _ listed => absurd listed List.not_mem_nil
  | timeout typed => rw [List.forall_mem_singleton]; rfl
  | hint answer => rw [List.forall_mem_singleton]; rfl
  | wrong command => rw [List.forall_mem_singleton]; rfl

/-! ## Back to the menu -/

/-- An action that ends at the menu. -/
def EndsAtMenu (origin : Service) (player : CodeText) (prompts : List Prompt) (act : Act Next)
    (desk : Desk) : Prop :=
  Leads act desk
    (fun next later => next = .await (.menu player) ∧ Works origin player prompts later) Never

theorem Works.toMenu (works : Works origin player prompts desk)
    (passes : forall message, delay.Passes message) :
    EndsAtMenu origin player prompts (Shell.toMenu delay player) desk := by
  refine (works.printAll passes (allSaved_menuMessages player)).bind ?_
  intro _ _ works'
  exact leads_pure ⟨rfl, works'⟩

/-- A message that says nothing about saving goes before the menu. -/
theorem Works.printToMenu (works : Works origin player prompts desk)
    (passes : forall message, delay.Passes message) {message : Message}
    (saved : message.isNotSaved = true -> message ∈ notices player) :
    EndsAtMenu origin player prompts
      (Shell.print delay message >>= fun _ => Shell.toMenu delay player) desk := by
  refine (works.print passes saved).bind ?_
  intro _ _ works'
  exact works'.toMenu passes

theorem Works.showLeaderboard (works : Works origin player prompts desk)
    (passes : forall message, delay.Passes message) :
    Leads (Shell.showLeaderboard delay) desk (fun _ => Works origin player prompts) Never := by
  rcases works.connected with ⟨tables, connected⟩
  have small : (10 : Int) < integerBound := by decide
  rcases Store.limit_resolves small with ⟨checked, resolved⟩
  have shown : desk.service.leaderboard defaultLimit = .ok (tables.top 10) := by
    unfold Service.leaderboard Store.top defaultLimit
    rw [checked, connected]
    dsimp only [bind, Except.bind]
    rw [resolved]
    rfl
  unfold Shell.showLeaderboard
  refine leads_get ?_
  rw [shown]
  exact works.printAll passes (allSaved_leaderboardMessages _)

/-- The aggregate of a name is shown, unless the name has no form in bytes. -/
theorem Works.showStats (works : Works origin player prompts desk)
    (passes : forall message, delay.Passes message) (isName : IsName player) :
    Leads (Shell.showStats delay player) desk
      (fun _ later => Works origin player prompts later ∧ player.isEncodable = true)
      (fun cause later => Works origin player prompts later ∧
        cause = .store (.unencodable player) ∧ player.isEncodable = false) := by
  unfold Shell.showStats
  refine (works.print passes (by rintro ⟨⟩)).unbroken.bind ?_
  intro _ between works'
  rcases works'.connected with ⟨tables, connected⟩
  have asked : between.service.stats? player =
      if player.isEncodable = true then .ok (tables.player? player.toString)
      else .error (.unencodable player) := by
    rw [Service.stats?, Store.player?_eq connected, isName.strip_toString, isName.stripped]
  refine leads_get ?_
  rw [asked]
  cases encodable : player.isEncodable with
  | false => exact leads_throw ⟨works', rfl, rfl⟩
  | true =>
      rw [if_pos rfl]
      have shown : forall act : Act Unit,
          Leads act between (fun _ => Works origin player prompts) Never ->
          Leads act between (fun _ later => Works origin player prompts later ∧ true = true)
            (fun cause later => Works origin player prompts later ∧
              cause = .store (.unencodable player) ∧ true = false) := by
        intro act leads
        exact leads.unbroken.imp fun _ _ told => ⟨told, rfl⟩
      cases tables.player? player.toString with
      | none => exact shown _ (works'.print passes (by rintro ⟨⟩))
      | some stats => exact shown _ (works'.printAll passes (allSaved_statsMessages stats))

/-! ## The end of a round -/

/-- A score that can be stored is saved, or its player has no name to save it under. -/
theorem Works.finishSession (works : Works origin player prompts desk)
    (unrecorded : session.stats = none) (isName : IsName session.user)
    (fits : storable session.score = true) :
    Leads (Shell.finishSession session) desk
      (fun answer later => Works origin player prompts later ∧
        ((Exists fun stats => answer = .ok stats) ∨
          answer = .error (.unencodable session.user) ∧ session.user.isEncodable = false))
      Never := by
  unfold Shell.finishSession
  rw [unrecorded]
  refine (leads_say _ desk _).bind ?_
  rintro _ _ rfl
  have noted := works.note (.sessionFinished session.user session.score)
  refine leads_get ?_
  rcases noted.connected with ⟨tables, connected⟩
  rcases finish_settles _ connected noted.writable unrecorded isName fits with
    ⟨answer, after, session', finished, settles⟩
  rw [finished]
  refine (leads_modify _ _ _).bind ?_
  rintro _ ended rfl
  have works' : Works origin player prompts
      { desk.add (.noted (.sessionFinished session.user session.score)) with
        service := { desk.service with store := desk.service.store.withTables after } } :=
    ⟨noted.bank_eq, noted.duration_eq, ⟨_, Store.withTables_tables connected _⟩, noted.writable,
      noted.prompts_eq, noted.saved⟩
  cases settles with
  | refused halves => exact leads_pure ⟨works', Or.inr ⟨rfl, halves⟩⟩
  | recorded encodable stats =>
      refine (leads_say _ _ _).bind ?_
      rintro _ _ rfl
      exact leads_pure ⟨works'.note _, Or.inl ⟨stats, rfl⟩⟩

theorem Works.closeRound (works : Works origin player prompts desk)
    (passes : forall message, delay.Passes message) (isName : IsName player)
    (user_eq : session.user = player) (unrecorded : session.stats = none)
    (few : (session.score : Int) < integerBound) :
    EndsAtMenu origin player prompts (Shell.closeRound delay player session) desk := by
  have saved : AllSaved [.timesUp, .finalScore session.score] := by
    unfold AllSaved
    rw [List.forall_mem_cons, List.forall_mem_singleton]
    exact ⟨rfl, rfl⟩
  have fits := storable_natCast few
  refine (works.printAll passes saved).bind ?_
  intro _ _ told
  refine (told.finishSession unrecorded (user_eq.symm ▸ isName) fits).bind ?_
  rw [user_eq]
  rintro _ _ ⟨ended, ⟨stats, rfl⟩ | ⟨rfl, halves⟩⟩
  · refine (ended.printAll passes (allSaved_statsMessages stats)).bind ?_
    intro _ _ shown
    exact shown.toMenu passes
  · refine ended.printToMenu passes fun _ => ?_
    rw [notices, if_neg (Bool.eq_false_iff.mp halves)]
    exact List.mem_singleton_self _

/-! ## The middle of a round -/

/-- An answer in a round leads to the menu or to the next command. -/
def GoesOn (origin : Service) (player : CodeText) (prompts : List Prompt)
    (remaining : List Input) (next : Next) (later : Desk) : Prop :=
  Works origin player prompts later ∧
    (next = .await (.menu player) ∨
      Exists fun session => next = .await (.command player session) ∧
        Running origin player session ∧
        (session.score : Int) + remaining.length < integerBound)

theorem EndsAtMenu.goesOn {act : Act Next} (ends : EndsAtMenu origin player prompts act desk)
    (remaining : List Input) : Leads act desk (GoesOn origin player prompts remaining) Never :=
  ends.imp fun _ _ ended => ⟨ended.2, Or.inl ended.1⟩

theorem Works.continueRound (works : Works origin player prompts desk)
    (passes : forall message, delay.Passes message) (isName : IsName player)
    (running : Running origin player session)
    (few : (session.score : Int) + remaining.length < integerBound) :
    Leads (Shell.continueRound delay player session) desk
      (GoesOn origin player prompts remaining) Never := by
  rcases running.fits.floating with ⟨deadline, floating⟩
  unfold Shell.continueRound
  refine leads_get ?_
  dsimp only
  rw [Session.timedOut?, Session.timeLeft?, floating, Seconds.reached?_real, Seconds.left?_real,
    Option.bind_some, Seconds.toBinary64?_real]
  cases desk.clock.precedes deadline with
  | true =>
      refine (works.printAll passes (fun message listed => ?_)).bind ?_
      · rcases List.mem_cons.mp listed with rfl | listed
        · rfl
        rcases List.mem_cons.mp listed with rfl | listed
        · rfl
        exact allSaved_bufferMessages session.buffer message listed
      · intro _ _ works'
        exact leads_pure ⟨works', Or.inr ⟨session, rfl, running, few⟩⟩
  | false =>
      exact (works.closeRound passes isName running.user_eq running.unrecorded (by omega)).goesOn _

/-- A running session with answers to its questions has a verdict on every input, and
it goes on unless the input was late. -/
private theorem Running.verdict (running : Running origin player session)
    (answered : forall question, question ∈ origin.bank.questions -> question.expected ≠ [])
    {register : Option Line} {clock : Binary64} {typed : String} {submission : Submission}
    (submitted : session.Submitted register (.real clock) typed submission) :
    Exists fun verdict => submission.result = .ok verdict ∧
      ((Exists fun typed => verdict.outcome = .timeout typed) ∨
        submission.session.finished = false) := by
  have goesOn : forall taking : session.Taking (.real clock), submission.session.finished = false :=
    fun taking => (submitted.finished_of_early taking.early).trans running.unfinished
  cases submitted with
  | refused finished =>
      rw [running.unfinished] at finished
      cases finished
  | unclocked _ noClock =>
      rcases running.fits.floating with ⟨deadline, floating⟩
      rw [Session.timedOut?, floating, Seconds.reached?_real] at noClock
      cases noClock
  | unanswerable _ _ noAnswer =>
      exact absurd noAnswer (answered _ (running.fits.questions _ session.question_mem))
  | timeout => exact ⟨_, rfl, Or.inl ⟨_, rfl⟩⟩
  | ignored taking => exact ⟨_, rfl, Or.inr (goesOn taking)⟩
  | hint taking => exact ⟨_, rfl, Or.inr (goesOn taking)⟩
  | wrong taking => exact ⟨_, rfl, Or.inr (goesOn taking)⟩
  | correct taking => exact ⟨_, rfl, Or.inr (goesOn taking)⟩

/-- A submission leaves a session to its bank, its player and its floating deadline. -/
private theorem Running.submitted (running : Running origin player session)
    {register : Option Line} {clock : Binary64} {typed : String} {submission : Submission}
    (submitted : session.Submitted register (.real clock) typed submission)
    (unfinished : submission.session.finished = false) :
    Running origin player submission.session := by
  rcases submitted.terms_eq with ⟨questions, _, deadline⟩
  rcases submitted.owner_eq with ⟨user, stats⟩
  exact
    { fits := ⟨questions ▸ running.fits.questions, deadline ▸ running.fits.floating⟩
      unfinished := unfinished
      unrecorded := stats.trans running.unrecorded
      user_eq := user.trans running.user_eq }

/-- The session of a round is not finished, so that submitting to it does not fail. -/
private theorem Works.submitInput (works : Works origin player prompts desk)
    (answered : forall question, question ∈ origin.bank.questions -> question.expected ≠ [])
    (running : Running origin player session) (typed : String) :
    Leads (Shell.submitInput session typed) desk
      (fun taken later => Works origin player prompts later ∧
        taken.1.score ≤ session.score + 1 ∧ taken.1.user = player ∧ taken.1.stats = none ∧
        ((Exists fun typed => taken.2.outcome = .timeout typed) ∨ Running origin player taken.1))
      Never := by
  have submitted := session.submit_submitted desk.service.register (.real desk.clock) typed
  rcases running.verdict answered submitted with ⟨verdict, answer, ending⟩
  unfold Shell.submitInput
  refine leads_get ?_
  refine (leads_set _ desk _).bind ?_
  rintro _ _ rfl
  rw [answer]
  exact leads_pure ⟨works.adjust desk.clock desk.service.sampler _, submitted.score_le,
    submitted.owner_eq.1.trans running.user_eq, submitted.owner_eq.2.trans running.unrecorded,
    ending.imp_right (running.submitted submitted)⟩

/-- A command in a round leads to the menu or to the next command. -/
theorem Works.answerCommand (works : Works origin player prompts desk)
    (smooth : Smooth origin delay)
    (isName : IsName player) (running : Running origin player session) (typed : String)
    (few : (session.score : Int) + (remaining.length + 1 : Nat) < integerBound) :
    Leads (Shell.answerCommand delay player session typed) desk
      (GoesOn origin player prompts remaining) Never := by
  unfold Shell.answerCommand
  split
  · exact (works.printToMenu smooth.passes (by rintro ⟨⟩)).goesOn remaining
  · refine (works.submitInput smooth.answered running typed).bind ?_
    rintro ⟨after, verdict⟩ _ ⟨works', score, user_eq, unrecorded, ending⟩
    dsimp only at score user_eq unrecorded ending
    refine (works'.printAll smooth.passes (allSaved_verdictMessages verdict)).bind ?_
    intro _ _ told
    split
    · exact (told.closeRound smooth.passes isName user_eq unrecorded (by omega)).goesOn remaining
    · next inTime =>
        rcases ending with ⟨late, timeout⟩ | running'
        · exact absurd timeout (inTime late)
        · exact told.continueRound smooth.passes isName running' (by omega)

/-! ## The beginning of a round -/

private theorem duration_of_start {user : CodeText} {questions : List Question}
    {sampleText : List Line} {duration now : Seconds}
    (started : Session.start user questions sampleText duration now = .ok session) :
    session.duration = duration := by
  unfold Session.start at started
  split at started
  · split at started
    · cases started
    · cases started
      rfl
  · cases started

/-- What comes of starting a session.  Without a question to draw there is none, and
there is no end for it if its duration is none that a clock can show. -/
inductive Starts (origin : Service) (player : CodeText) : Except StartError Session -> Prop
  | empty : Starts origin player (.error .noQuestions)
  | endless (filled : origin.bank.questions ≠ []) (tooLong : origin.duration.toBinary64? = none) :
      Starts origin player (.error .deadlineOutOfRange)
  | begun {session : Session} (filled : origin.bank.questions ≠ [])
      (running : Running origin player session) (fresh : session.score = 0)
      (lasting : session.duration.toBinary64? ≠ none) : Starts origin player (.ok session)

theorem drawn_eq_nil {service : Service} (empty : service.bank.questions = [])
    (count : Option Int) : service.drawn count = [] := by
  rw [Service.drawn, draw, empty, List.map_eq_nil_iff, List.eq_nil_iff_forall_not_mem]
  exact fun place _ => place.elim0

private theorem Works.start (works : Works origin player prompts desk) (isName : IsName player) :
    Exists fun register => Exists fun answer =>
      desk.shuffled.start (.real desk.clock) player none =
          ({ desk.shuffled with register := register }, answer) ∧
        Starts origin player answer := by
  have named : Text.strip player.toString ≠ "" := isName.strip_toString.symm ▸ isName.filled
  have filled_of_drawn : desk.shuffled.drawn none ≠ [] -> origin.bank.questions ≠ [] := by
    intro filled empty
    have none_left : desk.shuffled.bank.questions = [] :=
      (congrArg QuestionBank.questions works.bank_eq).trans empty
    exact filled (drawn_eq_nil none_left none)
  by_cases empty : desk.shuffled.drawn none = []
  · refine ⟨desk.service.register, _, ?_, .empty⟩
    rw [Service.start, if_neg named, empty]
    rfl
  have instant := Seconds.plus?_of_real desk.clock desk.shuffled.duration
  have duration_eq : desk.shuffled.duration = origin.duration := works.duration_eq
  cases length_eq : origin.duration.toBinary64? with
  | none =>
      rw [← duration_eq] at length_eq
      rw [length_eq] at instant
      refine ⟨none, _, ?_, .endless (filled_of_drawn empty) (duration_eq ▸ length_eq)⟩
      rw [Service.start, if_neg named, Session.start, dif_pos (List.length_pos_iff.mpr empty),
        instant]
      rfl
  | some length =>
      rw [← duration_eq] at length_eq
      rw [length_eq] at instant
      rcases Service.exists_start named empty instant with ⟨session, started⟩
      have begun := (Service.start_eq_ok started).2.2
      have begins := Session.begins_of_start begun
      have fits : session.Fits desk.service.bank := begins.fits
      refine ⟨none, _, started, .begun (filled_of_drawn empty) ?_ begins.score_eq ?_⟩
      · exact ⟨works.bank_eq ▸ fits, begins.finished_eq, begins.stats_eq,
          begins.user_eq.trans isName.stripped⟩
      · rw [duration_of_start begun, length_eq]
        exact Option.some_ne_none length

private theorem Works.startSession (works : Works origin player prompts desk)
    (isName : IsName player) :
    Leads (Shell.startSession player) desk
      (fun answer later => Works origin player prompts later ∧ Starts origin player answer)
      Never := by
  have named : Text.strip player.toString ≠ "" := isName.strip_toString.symm ▸ isName.filled
  rcases works.start isName with ⟨register, answer, started, starts⟩
  unfold Shell.startSession
  refine leads_get ?_
  dsimp only
  rw [if_pos named, started]
  refine (leads_say _ desk _).bind ?_
  rintro _ _ rfl
  refine (leads_modify _ _ _).bind ?_
  rintro _ _ rfl
  have noted := works.note (.sessionStarting player.strip (desk.shuffled.drawn none).length)
  exact leads_pure ⟨noted.adjust desk.clock (desk.draws desk.entries) register, starts⟩

/-- A round that cannot start leads back to the menu, unless it is too long for the clock. -/
theorem Works.startRound (works : Works origin player prompts desk) (smooth : Smooth origin delay)
    (isName : IsName player) (few : (remaining.length : Int) < integerBound) :
    Leads (Shell.startRound delay player) desk
      (fun next later => GoesOn origin player prompts remaining next later ∧
        (origin.bank.questions = [] -> next = .await (.menu player)))
      (fun cause later => Works origin player prompts later ∧ cause = .clockOutOfRange ∧
        origin.bank.questions ≠ [] ∧ origin.duration.toBinary64? = none) := by
  unfold Shell.startRound
  refine (works.startSession isName).unbroken.bind ?_
  rintro answer _ ⟨works', starts⟩
  cases starts with
  | empty =>
      refine (works'.printToMenu smooth.passes (by rintro ⟨⟩)).unbroken.imp ?_
      rintro _ _ ⟨rfl, shown⟩
      exact ⟨⟨shown, Or.inl rfl⟩, fun _ => rfl⟩
  | endless filled tooLong => exact leads_throw ⟨works', rfl, filled, tooLong⟩
  | @begun session filled running fresh lasting =>
      rcases Option.ne_none_iff_exists'.mp lasting with ⟨duration, duration_eq⟩
      have saved : AllSaved [.roundLength duration, .roundRules] := by
        unfold AllSaved
        rw [List.forall_mem_cons, List.forall_mem_singleton]
        exact ⟨rfl, rfl⟩
      dsimp only
      rw [duration_eq]
      refine (works'.printAll smooth.passes saved).unbroken.bind ?_
      intro _ _ announced
      have few' : (session.score : Int) + remaining.length < integerBound := by
        rw [fresh]
        omega
      refine (announced.continueRound smooth.passes isName running few').unbroken.imp ?_
      exact fun _ _ goesOn => ⟨goesOn, fun empty => absurd empty filled⟩

/-! ## Answers -/

/-- What a line leads to: out of the shell exactly for the word for it at the menu, and
to the menu if a round was asked for and there is no question.  No line leads on that asks
for the aggregate of a name without a form in bytes. -/
structure Answers (origin : Service) (player : CodeText) (remaining : List Input)
    (prompt : Prompt) (typed : String) (next : Next) : Prop where
  quits : next = .quit ↔ prompt = .choice ∧ folded typed = "q"
  steady : forall phase, next = .await phase -> Steady origin player remaining phase
  returns : prompt = .choice -> folded typed = "1" -> origin.bank.questions = [] ->
    next = .await (.menu player)
  encodable : prompt = .choice -> folded typed = "3" -> player.isEncodable = true

/-- At other prompts than the menu a line only has to lead to another prompt. -/
theorem Answers.of_await {prompt : Prompt} {typed : String} {phase : Phase}
    (away : prompt ≠ .choice) (steady : Steady origin player remaining phase) :
    Answers origin player remaining prompt typed (.await phase) where
  quits := ⟨(fun contrary => nomatch contrary), fun asked => absurd asked.1 away⟩
  steady := by
    rintro _ ⟨rfl⟩
    exact steady
  returns := fun asked => absurd asked away
  encodable := fun asked => absurd asked away

theorem GoesOn.steady {next : Next} {later : Desk}
    (goesOn : GoesOn origin player prompts remaining next later) (isName : IsName player)
    (few : (remaining.length : Int) < integerBound) :
    Exists fun phase => next = .await phase ∧ Steady origin player remaining phase := by
  rcases goesOn with ⟨_, rfl | ⟨session, rfl, running, few'⟩⟩
  · exact ⟨_, rfl, .menu isName few⟩
  · exact ⟨_, rfl, .command isName running few'⟩

/-- At the menu every line but one leads to another prompt. -/
theorem GoesOn.answers {typed : String} {next : Next} {later : Desk}
    (goesOn : GoesOn origin player prompts remaining next later) (isName : IsName player)
    (few : (remaining.length : Int) < integerBound) (noQuit : folded typed ≠ "q")
    (returns : folded typed = "1" -> origin.bank.questions = [] -> next = .await (.menu player))
    (encodable : folded typed = "3" -> player.isEncodable = true) :
    Works origin player prompts later ∧ Answers origin player remaining .choice typed next := by
  rcases goesOn.steady isName few with ⟨phase, rfl, steady⟩
  refine ⟨goesOn.1, ?_, ?_, fun _ => returns, fun _ => encodable⟩
  · exact ⟨(fun contrary => nomatch contrary), fun asked => absurd asked.2 noQuit⟩
  · rintro _ ⟨rfl⟩
    exact steady

/-- What only shows something answers a line that asks for nothing else. -/
theorem EndsAtMenu.answers {act : Act Next} (ends : EndsAtMenu origin player prompts act desk)
    (isName : IsName player) (few : (remaining.length : Int) < integerBound) {typed : String}
    (noQuit : folded typed ≠ "q") (noPlay : folded typed ≠ "1") (noStats : folded typed ≠ "3") :
    Leads act desk
      (fun next later => Works origin player prompts later ∧
        Answers origin player remaining .choice typed next)
      (fun cause later => Works origin player prompts later ∧
        Breaks origin player typed cause) := by
  refine (ends.goesOn remaining).unbroken.imp ?_
  intro _ _ goesOn
  exact goesOn.answers isName few noQuit (fun asked => absurd asked noPlay)
    fun asked => absurd asked noStats

/-- At the menu a word leads out of the shell, and everything else stays in it or breaks
off for one of two reasons. -/
theorem Works.answerChoice (works : Works origin player prompts desk)
    (smooth : Smooth origin delay) (isName : IsName player) (typed : String)
    (few : (remaining.length : Int) < integerBound) :
    Leads (Shell.answerChoice delay player typed) desk
      (fun next later => Works origin player prompts later ∧
        Answers origin player remaining .choice typed next)
      (fun cause later => Works origin player prompts later ∧
        Breaks origin player typed cause) := by
  unfold Shell.answerChoice
  by_cases play : folded typed = "1"
  · rw [if_pos play]
    refine (works.startRound smooth isName few).weaken ?_ ?_
    · rintro next later ⟨goesOn, returns⟩
      exact goesOn.answers isName few (play ▸ by decide) (fun _ => returns)
        fun asked => absurd (play.symm.trans asked) (by decide)
    · rintro _ later ⟨works', rfl, filled, endless⟩
      exact ⟨works', .play play filled endless⟩
  rw [if_neg play]
  by_cases leaderboard : folded typed = "2"
  · rw [if_pos leaderboard]
    have shown := (works.showLeaderboard smooth.passes).bind
      fun _ _ works' => works'.toMenu smooth.passes
    exact EndsAtMenu.answers shown isName few (leaderboard ▸ by decide) play
      (leaderboard ▸ by decide)
  rw [if_neg leaderboard]
  by_cases stats : folded typed = "3"
  · rw [if_pos stats]
    refine (works.showStats smooth.passes isName).andThen ?_ ?_
    · rintro _ later ⟨works', rfl, halves⟩
      exact ⟨works', .stats stats halves⟩
    · rintro _ _ ⟨works', encodable⟩
      refine ((works'.toMenu smooth.passes).goesOn remaining).unbroken.imp ?_
      intro _ _ goesOn
      exact goesOn.answers isName few (stats ▸ by decide) (fun asked => absurd asked play)
        fun _ => encodable
  rw [if_neg stats]
  by_cases quit : folded typed = "q"
  · rw [if_pos quit]
    refine leads_pure ⟨works, ⟨fun _ => ⟨rfl, quit⟩, fun _ => rfl⟩, ?_, ?_, ?_⟩
    · rintro _ ⟨⟩
    · exact fun _ asked => absurd asked play
    · exact fun _ asked => absurd asked stats
  · rw [if_neg quit]
    exact (works.printToMenu smooth.passes (by rintro ⟨⟩)).answers isName few quit play stats

theorem Works.answerName {input : Input} (works : Works origin player prompts desk)
    (passes : forall message, delay.Passes message)
    (named : playerOf (input :: remaining) = player)
    (few : (remaining.length : Int) < integerBound) :
    Leads (Shell.answerName delay input.text) desk
      (fun next later => Works origin player prompts later ∧
        Answers origin player remaining .playerName input.text.toString next) Never := by
  rw [playerOf_cons] at named
  unfold Shell.answerName
  by_cases blank : Text.strip input.text.toString = ""
  · rw [if_pos blank] at named ⊢
    refine (works.print passes (by rintro ⟨⟩)).bind ?_
    intro _ _ works'
    exact leads_pure ⟨works', .of_await (fun away => nomatch away) (.naming named few)⟩
  · rw [if_neg blank] at named ⊢
    rw [named]
    refine (works.toMenu passes).imp ?_
    rintro _ _ ⟨rfl, works'⟩
    exact ⟨works', .of_await (fun away => nomatch away) (.menu (named ▸ isName_strip blank) few)⟩

/-! ## A line -/

/-- Every line is taken at a prompt of its own, and leads on or breaks off at the menu. -/
theorem Works.takeLine (works : Works origin player prompts desk) (smooth : Smooth origin delay)
    {phase : Phase} {input : Input} (pause : input.pause.toBinary64? ≠ none)
    (steady : Steady origin player (input :: remaining) phase) :
    Leads (Shell.takeLine delay phase input) desk
      (fun next later => Works origin player (prompts ++ [phase.prompt]) later ∧
        Answers origin player remaining phase.prompt input.text.toString next)
      (fun cause later => Works origin player (prompts ++ [phase.prompt]) later ∧
        phase.prompt = .choice ∧ Breaks origin player input.text.toString cause) := by
  refine (leads_say _ desk _).bind ?_
  rintro _ _ rfl
  have asked : Works origin player (prompts ++ [phase.prompt]) (desk.add (.asked phase.prompt)) :=
    works.add (.asked phase.prompt) fun _ contrary => nomatch contrary
  refine (asked.wait pause).unbroken.bind ?_
  intro _ between works'
  cases steady with
  | naming named few =>
      rw [List.length_cons] at few
      exact (works'.answerName smooth.passes named (by omega)).unbroken
  | menu isName few =>
      rw [List.length_cons] at few
      refine (works'.answerChoice smooth isName input.text.toString (by omega)).weaken
        (fun _ _ done => done) ?_
      rintro cause later ⟨works'', breaks⟩
      exact ⟨works'', rfl, breaks⟩
  | command isName running few =>
      rw [List.length_cons] at few
      refine (works'.answerCommand smooth isName running input.text.toString few).unbroken.imp ?_
      intro next later goesOn
      rcases goesOn.steady isName (by omega) with ⟨phase, rfl, steady⟩
      exact ⟨goesOn.1, .of_await (fun away => nomatch away) steady⟩

end Shell
end ModalDrill
