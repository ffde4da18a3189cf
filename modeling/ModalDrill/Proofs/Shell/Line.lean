import ModalDrill.Proofs.Session.Submission
import ModalDrill.Proofs.Shell.Records

namespace ModalDrill
namespace Shell

/-!
# One typed line

Each part of the shell is followed from a desk that keeps its records to the
next prompt, or to where it breaks off.  The one moment in which a round is
announced as over and not yet recorded lies inside `closeRound`.
-/

variable {games : List GameRecord} {player : CodeText} {settled : List (Option Nat)} {desk : Desk}
  {session : Session} {remaining : List Input} {delay : Delay}

/-- What holds after an answer: the next prompt is ready, or the play is over. -/
def Reaches (games : List GameRecord) (player : CodeText) (settled : List (Option Nat))
    (remaining : List Input) (next : Next) (desk : Desk) : Prop :=
  match next with
  | .await phase => Ready games player settled remaining desk phase
  | .quit => Records games player settled desk

/-! ## Messages in groups -/

private theorem asides_map {Value : Type} {make : Value -> Message} (values : List Value)
    (aside : forall value, (make value).isAside = true) : Asides (values.map make) := by
  intro message listed
  rcases List.mem_map.mp listed with ⟨value, _, rfl⟩
  exact aside value

theorem asides_menuMessages (player : CodeText) : Asides (menuMessages player) := by
  unfold Asides menuMessages
  simp only [List.forall_mem_cons, List.not_mem_nil, IsEmpty.forall_iff, implies_true, and_true]
  exact ⟨rfl, rfl, rfl, rfl, rfl, rfl⟩

theorem asides_bufferMessages (buffer : Buffer) : Asides (bufferMessages buffer) :=
  asides_map buffer.render fun _ => rfl

theorem asides_statsMessages (stats : PlayerStats) : Asides (statsMessages stats) := by
  unfold Asides statsMessages
  simp only [List.forall_mem_cons, List.not_mem_nil, IsEmpty.forall_iff, implies_true, and_true]
  exact ⟨rfl, rfl⟩

theorem asides_leaderboardMessages (players : List PlayerStats) :
    Asides (leaderboardMessages players) := by
  unfold Asides leaderboardMessages
  rw [List.forall_mem_cons]
  refine ⟨rfl, ?_⟩
  split
  · rw [List.forall_mem_singleton]
    rfl
  · exact asides_map (Leaderboard.table players) fun _ => rfl

/-- What is said about a verdict tells the points of it. -/
theorem verdictMessages_inside (verdict : Verdict) : Inside (verdictMessages verdict) := by
  unfold Inside verdictMessages
  cases verdict.outcome with
  | correct command points =>
      rw [List.forall_mem_cons]
      exact ⟨rfl, (asides_bufferMessages verdict.buffer).inside⟩
  | ignored => exact fun _ listed => absurd listed List.not_mem_nil
  | timeout typed => rw [List.forall_mem_singleton]; rfl
  | hint answer => rw [List.forall_mem_singleton]; rfl
  | wrong command => rw [List.forall_mem_singleton]; rfl

theorem won_verdictMessages {verdict : Verdict} (small : verdict.outcome.points ≤ 1) :
    won (verdictMessages verdict) = verdict.outcome.points := by
  unfold verdictMessages
  cases outcome : verdict.outcome with
  | correct command points =>
      rw [outcome] at small
      change points ≤ 1 at small
      have rows : won (bufferMessages verdict.buffer) = 0 :=
        (asides_bufferMessages verdict.buffer).won_eq
      unfold won at rows ⊢
      rw [List.count_cons, rows]
      rcases Nat.le_one_iff_eq_zero_or_eq_one.mp small with none | one
      · rw [none]
        rfl
      · rw [one]
        rfl
  | ignored => rfl
  | timeout typed => rfl
  | hint answer => rfl
  | wrong command => rfl

/-! ## Parts that only drift -/

/-- An action that says nothing but asides on its way back to the menu. -/
def GoesBack (player : CodeText) (act : Act Next) (desk : Desk) : Prop :=
  Leads act desk (fun next later => next = .await (.menu player) ∧ desk.Drifts later)
    fun _ => desk.Drifts

/-- What has drifted before goes back all the same. -/
theorem GoesBack.after {act : Act Next} {between : Desk} (back : GoesBack player act between)
    (drifts : desk.Drifts between) :
    Leads act between (fun next later => next = .await (.menu player) ∧ desk.Drifts later)
      fun _ => desk.Drifts := by
  refine back.weaken ?_ fun _ _ drifts' => drifts.trans drifts'
  rintro _ later ⟨rfl, drifts'⟩
  exact ⟨rfl, drifts.trans drifts'⟩

theorem toMenu_goesBack (delay : Delay) (player : CodeText) (desk : Desk) :
    GoesBack player (toMenu delay player) desk := by
  refine (leads_printAll_asides delay (asides_menuMessages player) desk).bind ?_
  intro _ later drifts
  exact leads_pure ⟨rfl, drifts⟩

theorem leads_showQuestion (delay : Delay) (session : Session) (left : Binary64) (desk : Desk) :
    Leads (showQuestion delay session left) desk (fun _ => desk.Drifts)
      fun _ => desk.Drifts := by
  refine leads_printAll_asides delay ?_ desk
  unfold Asides
  rw [List.forall_mem_cons, List.forall_mem_cons]
  exact ⟨rfl, rfl, asides_bufferMessages session.buffer⟩

theorem leads_showLeaderboard (delay : Delay) (desk : Desk) :
    Leads (showLeaderboard delay) desk (fun _ => desk.Drifts)
      fun _ => desk.Drifts := by
  unfold showLeaderboard
  refine leads_get ?_
  split
  · exact leads_throw (Desk.Drifts.refl desk)
  · exact leads_printAll_asides delay (asides_leaderboardMessages _) desk

theorem leads_showStats (delay : Delay) (player : CodeText) (desk : Desk) :
    Leads (showStats delay player) desk (fun _ => desk.Drifts)
      fun _ => desk.Drifts := by
  refine (leads_print_aside delay rfl desk).bind ?_
  intro _ between drifts
  refine leads_get ?_
  split
  · exact leads_throw drifts
  · exact (leads_print_aside delay rfl between).weaken (fun _ _ drifts' => drifts.trans drifts')
      fun _ _ drifts' => drifts.trans drifts'
  · exact (leads_printAll_asides delay (asides_statsMessages _) between).weaken
      (fun _ _ drifts' => drifts.trans drifts') fun _ _ drifts' => drifts.trans drifts'

/-! ## Parts that keep the records -/

theorem Records.sayAsides (records : Records games player settled desk) (delay : Delay)
    {messages : List Message} (asides : Asides messages) :
    Leads (printAll delay messages) desk (fun _ => Records games player settled)
      (fun _ => Records games player settled) :=
  (leads_printAll_asides delay asides desk).weaken (fun _ _ drifts => records.drift drifts)
    fun _ _ drifts => records.drift drifts

theorem Records.sayAside (records : Records games player settled desk) (delay : Delay)
    {message : Message} (aside : message.isAside = true) :
    Leads (print delay message) desk (fun _ => Records games player settled)
      (fun _ => Records games player settled) :=
  (leads_print_aside delay aside desk).weaken (fun _ _ drifts => records.drift drifts)
    fun _ _ drifts => records.drift drifts

/-- The way back to the menu keeps the records. -/
theorem Records.goBack (records : Records games player settled desk) (isName : IsName player)
    (few : (remaining.length : Int) < integerBound) {act : Act Next}
    (back : GoesBack player act desk) :
    Leads act desk (Reaches games player settled remaining)
      (fun _ => Records games player settled) := by
  refine back.weaken ?_ fun _ _ drifts => records.drift drifts
  rintro _ later ⟨rfl, drifts⟩
  exact Ready.menu (records.drift drifts) isName few

theorem Records.toMenu (records : Records games player settled desk) (isName : IsName player)
    (few : (remaining.length : Int) < integerBound) (delay : Delay) :
    Leads (Shell.toMenu delay player) desk (Reaches games player settled remaining)
      (fun _ => Records games player settled) :=
  records.goBack isName few (toMenu_goesBack delay player desk)

/-! ## The end of a round -/

/-- The clock can make the moves that the end of a round causes. -/
structure Closes (delay : Delay) : Prop where
  timesUp : delay.Passes .timesUp
  finalScore : forall score, delay.Passes (.finalScore score)

/-- Then the end is announced to its last word. -/
theorem Closes.leads_printAll (closes : Closes delay) (score : Nat) (desk : Desk) :
    Leads (printAll delay [.timesUp, .finalScore score]) desk
      (fun _ later => desk.Said [.timesUp, .finalScore score] later) Never := by
  refine (Shell.leads_printAll delay _ desk).weaken (fun _ _ said => said) ?_
  rintro _ later ⟨_, _, _, message, listed, stops⟩
  rcases List.mem_cons.mp listed with rfl | listed
  · exact stops closes.timesUp
  · cases List.mem_singleton.mp listed
    exact stops (closes.finalScore score)

/-- What comes of finishing a session that is not recorded yet: it is recorded under its
player, or refused for the name. -/
inductive Settles (tables : Tables) (session : Session) :
    Except StoreError PlayerStats -> Tables -> Prop
  | recorded (encodable : session.user.isEncodable = true) (stats : PlayerStats) :
      Settles tables session (.ok stats) (tables.added session.user.toString session.score)
  | refused (halves : session.user.isEncodable = false) :
      Settles tables session (.error (.unencodable session.user)) tables

/-- A session adds to the games what its score is worth under the name of its player. -/
theorem Settles.games_eq {tables after : Tables} {answer : Except StoreError PlayerStats}
    (settles : Settles tables session answer after) :
    after.games = tables.games ++ gamesOf session.user [some session.score] := by
  cases settles with
  | recorded encodable stats =>
      rw [gamesOf, if_pos encodable]
      rfl
  | refused halves =>
      rw [gamesOf, if_neg (Bool.eq_false_iff.mp halves), List.append_nil]

theorem finish_settles (service : Service) {tables : Tables}
    (connected : service.store.tables = .ok tables) (writable : service.store.writable = true)
    (unrecorded : session.stats = none) (isName : IsName session.user)
    (fits : storable session.score = true) :
    Exists fun answer => Exists fun after => Exists fun session' =>
      service.finish session =
        ({ service with store := service.store.withTables after }, session', answer) ∧
      Settles tables session answer after := by
  have named : Text.strip session.user.toString ≠ "" :=
    isName.strip_toString.symm ▸ isName.filled
  have unrecorded' : session.finish.stats = none := unrecorded
  have score_eq : session.finish.score = session.score := rfl
  have user_eq : session.finish.user = session.user := rfl
  unfold Service.finish
  dsimp only
  rw [unrecorded']
  dsimp only
  rw [user_eq, score_eq]
  cases encodable : session.user.isEncodable with
  | true =>
      rw [Store.record_of_valid connected writable encodable named fits, isName.strip_toString]
      exact ⟨_, _, _, rfl, .recorded encodable _⟩
  | false =>
      have same : service.store.withTables tables = service.store :=
        Store.withTables_of_tables (Store.isOpen_of_tables connected).2
      rw [Store.record_of_unencodable connected encodable named, isName.stripped]
      exact ⟨_, tables, _, congrArg (fun store => ({ service with store := store }, _)) same.symm,
        .refused encodable⟩

theorem leads_finishSession {tables : Tables} (connected : desk.service.store.tables = .ok tables)
    (writable : desk.service.store.writable = true) (unrecorded : session.stats = none)
    (isName : IsName session.user) (fits : storable session.score = true) :
    Leads (finishSession session) desk
      (fun answer later => later.messages = desk.messages ∧ Exists fun after =>
        Settles tables session answer after ∧
          later.service.store = desk.service.store.withTables after)
      Never := by
  unfold finishSession
  rw [unrecorded]
  refine (leads_say _ desk _).bind ?_
  intro _ between noted
  have said : desk.Said [] between := noted ▸ desk.said_noted _
  rw [← said.service_eq] at connected writable ⊢
  refine leads_get ?_
  rcases finish_settles between.service connected writable unrecorded isName fits with
    ⟨answer, after, session', finished, settles⟩
  rw [finished]
  refine (leads_modify _ between _).bind ?_
  intro _ recorded changed
  have silent : recorded.messages = desk.messages := by
    rw [changed]
    exact said.stays.messages_eq
  have stored : recorded.service.store = between.service.store.withTables after := by
    rw [changed]
  cases settles with
  | refused halves => exact leads_pure ⟨silent, _, .refused halves, stored⟩
  | recorded encodable stats =>
      refine (leads_say _ recorded _).bind ?_
      rintro _ later rfl
      have said' := recorded.said_noted (.gameRecorded session.user session.score stats)
      exact leads_pure ⟨said'.stays.messages_eq.trans silent, _, .recorded encodable stats,
        said'.stays.store_eq.trans stored⟩

/-- A round under way that is closed becomes one more record, or a notice. -/
theorem Plays.closeRound (plays : Plays games player settled session desk)
    (isName : IsName player) (closes : Closes delay)
    (fits : (session.score : Int) < integerBound) (few : (remaining.length : Int) < integerBound) :
    Leads (Shell.closeRound delay player session) desk (Reaches games player settled remaining)
      (fun _ => Records games player settled) := by
  refine (closes.leads_printAll session.score desk).unbroken.bind ?_
  intro _ told said
  rcases plays.records.games_eq with ⟨tables, connected, _⟩
  have connected' : told.service.store.tables = .ok tables := by
    rw [said.service_eq, connected]
  have writable : told.service.store.writable = true := by
    rw [said.service_eq, plays.records.writable]
  refine (leads_finishSession connected' writable plays.unrecorded
    (plays.user_eq.symm ▸ isName) (storable_natCast fits)).unbroken.bind ?_
  rintro answer ended ⟨messages_eq, after, settles, stored⟩
  rw [said.service_eq] at stored
  have added := settles.games_eq
  rw [plays.user_eq] at added
  -- the round is closed at the desk on which its notices have been given as well
  have close : forall later, ended.Said (notices player) later ->
      Records games player settled later := by
    intro later noticed
    have told_eq : later.messages =
        desk.messages ++ (.timesUp :: .finalScore session.score :: notices player) := by
      rw [noticed.messages_eq, messages_eq, said.messages_eq, List.append_assoc]
      rfl
    exact plays.close connected told_eq
      ((congrArg Service.store noticed.service_eq).trans stored) added
  cases settles with
  | recorded encodable stats =>
      rw [plays.user_eq] at encodable
      have records : Records games player settled ended := by
        have none : notices player = [] := if_pos encodable
        exact close ended (none ▸ Desk.Said.refl ended)
      refine (records.sayAsides delay (asides_statsMessages stats)).bind ?_
      intro _ _ records'
      exact records'.toMenu isName few delay
  | refused halves =>
      rw [plays.user_eq] at halves ⊢
      have one : notices player = [.notSaved (.unencodable player)] :=
        if_neg (Bool.eq_false_iff.mp halves)
      rw [one] at close
      refine (leads_print delay _ ended).andThen
        (fun _ later stopped => close later stopped.1) ?_
      intro _ later noticed
      exact (close later noticed).toMenu isName few delay

/-- A round under way goes on with its next prompt, or is closed. -/
theorem Plays.continueRound (plays : Plays games player settled session desk)
    (isName : IsName player) (closes : Closes delay)
    (few : (session.score : Int) + remaining.length < integerBound) :
    Leads (Shell.continueRound delay player session) desk (Reaches games player settled remaining)
      (fun _ => Records games player settled) := by
  unfold Shell.continueRound
  refine leads_get ?_
  dsimp only
  split
  · exact plays.closeRound isName closes (by omega) (by omega)
  · next left _ _ =>
      refine (leads_showQuestion delay session left desk).andThen
        (fun _ _ drifts => plays.records.drift drifts) ?_
      intro _ _ drifts
      exact leads_pure (Ready.command session (plays.drift drifts) isName few)
  · exact leads_throw plays.records

/-! ## The beginning of a round -/

/-- A session that is started belongs to the player, and has no score yet. -/
theorem start_cases (service : Service) (now : Seconds) (username : CodeText)
    (count : Option Int) :
    (service.start now username count).1.store = service.store ∧
      forall session, (service.start now username count).2 = .ok session ->
        session.user = username.strip ∧ session.stats = none ∧ session.score = 0 := by
  unfold Service.start
  dsimp only
  split
  · exact ⟨rfl, fun _ contrary => nomatch contrary⟩
  · split
    · exact ⟨rfl, fun _ contrary => nomatch contrary⟩
    · exact ⟨rfl, fun _ contrary => nomatch contrary⟩
    · next session started =>
        refine ⟨rfl, ?_⟩
        rintro _ ⟨rfl⟩
        unfold Session.start at started
        split at started
        · split at started
          · cases started
          · cases started
            exact ⟨rfl, rfl, rfl⟩
        · cases started

theorem leads_startSession (player : CodeText) (desk : Desk) (broken : Failure -> Desk -> Prop) :
    Leads (startSession player) desk
      (fun answer later => desk.Stays later ∧ forall session, answer = .ok session ->
        session.user = player.strip ∧ session.stats = none ∧ session.score = 0) broken := by
  have started := start_cases desk.shuffled (.real desk.clock) player none
  unfold startSession
  refine leads_get ?_
  dsimp only
  generalize desk.shuffled.start (.real desk.clock) player none = result at started ⊢
  rcases result with ⟨service, answer⟩
  dsimp only at started ⊢
  split
  · refine (leads_say _ desk _).bind ?_
    intro _ between noted
    refine (leads_modify _ between _).bind ?_
    rintro _ _ rfl
    refine leads_pure ⟨⟨started.1, ?_⟩, started.2⟩
    rw [noted]
    exact (desk.said_noted _).stays.messages_eq
  · refine (leads_modify _ desk _).bind ?_
    rintro _ _ rfl
    exact leads_pure ⟨⟨started.1, rfl⟩, started.2⟩

/-- The announcement of a round is what makes it one, wherever the clock stops. -/
theorem Records.announce (records : Records games player settled desk) (fresh : session.score = 0)
    (user_eq : session.user = player) (unrecorded : session.stats = none) (delay : Delay)
    (duration : Binary64) :
    Leads (printAll delay [.roundLength duration, .roundRules]) desk
      (fun _ later => Plays games player settled session later)
      (fun _ => Records games player settled) := by
  change Leads (print delay (.roundLength duration) >>= fun _ => printAll delay [.roundRules]) _ _ _
  have opened : forall later, desk.Said [.roundLength duration] later ->
      Plays games player settled session later :=
    fun _ said => records.open rfl said fresh user_eq unrecorded
  refine (leads_print delay _ desk).andThen
    (fun _ later stopped => (opened later stopped.1).records) ?_
  intro _ between said
  have plays := opened between said
  have asides : Asides [.roundRules] := fun _ listed => List.mem_singleton.mp listed ▸ rfl
  exact (leads_printAll_asides delay asides between).weaken (fun _ _ drifts => plays.drift drifts)
    fun _ _ drifts => plays.records.drift drifts

theorem Records.startRound (records : Records games player settled desk) (isName : IsName player)
    (closes : Closes delay) (few : (remaining.length : Int) < integerBound) :
    Leads (Shell.startRound delay player) desk (Reaches games player settled remaining)
      (fun _ => Records games player settled) := by
  refine (leads_startSession player desk _).bind ?_
  rintro answer between ⟨stays, fresh⟩
  have records' := records.stay stays
  split
  · exact leads_throw records'
  · refine (records'.sayAside delay rfl).bind ?_
    intro _ _ records''
    exact records''.toMenu isName few delay
  · next session =>
      rcases fresh session rfl with ⟨user_eq, unrecorded, score_eq⟩
      split
      · exact leads_throw records'
      · next duration _ =>
          refine (records'.announce score_eq (user_eq.trans isName.stripped) unrecorded delay
            duration).bind ?_
          intro _ _ plays
          exact plays.continueRound isName closes (by rw [score_eq]; omega)

/-! ## Answers -/

/-- Submitting prints and records nothing. -/
theorem leads_submitInput (session : Session) (typed : String) (desk : Desk) :
    Leads (submitInput session typed) desk
      (fun taken later => desk.Stays later ∧ Exists fun submission =>
        session.Submitted desk.service.register (.real desk.clock) (Text.strip typed) submission ∧
          taken.1 = submission.session ∧ submission.result = .ok taken.2)
      (fun _ later => desk.Stays later) := by
  have submitted :=
    session.submit_submitted desk.service.register (.real desk.clock) typed
  unfold submitInput
  refine leads_get ?_
  refine (leads_set _ desk _).bind ?_
  intro _ later changed
  have stays : desk.Stays later := by
    rw [changed]
    exact ⟨rfl, rfl⟩
  split
  · exact leads_throw stays
  · next verdict answer => exact leads_pure ⟨stays, _, submitted, rfl, answer⟩

/-- A round is left by the words for it, in any case and with any blanks around them. -/
def Leaves (typed : String) : Prop :=
  leaveWords.contains (folded typed) = true

theorem leave_goesBack {typed : String} (leaves : Leaves typed) (delay : Delay) (player : CodeText)
    (session : Session) (desk : Desk) :
    GoesBack player (answerCommand delay player session typed) desk := by
  have answer_eq : answerCommand delay player session typed =
      print delay .abandoned >>= fun _ => toMenu delay player := if_pos leaves
  rw [answer_eq]
  refine (leads_print_aside delay rfl desk).bind ?_
  intro _ between drifts
  exact (toMenu_goesBack delay player between).after drifts

/-- What is said about a verdict and what happens next, after a submission. -/
private theorem Plays.follow (plays : Plays games player settled session desk)
    (isName : IsName player) (closes : Closes delay) {register : Option Line} {now : Seconds}
    {typed : String} {submission : Submission}
    (submitted : session.Submitted register now typed submission) {verdict : Verdict}
    (answer : submission.result = .ok verdict)
    (few : (session.score : Int) + (remaining.length + 1) < integerBound) :
    Leads (printAll delay (verdictMessages verdict) >>= fun _ =>
        match verdict.outcome with
        | .timeout _ => Shell.closeRound delay player submission.session
        | _ => Shell.continueRound delay player submission.session) desk
      (Reaches games player settled remaining)
      (fun _ => Records games player settled) := by
  have inside := verdictMessages_inside verdict
  have small := submitted.points_le answer
  have credited : submission.session.score = session.score + won (verdictMessages verdict) := by
    rw [won_verdictMessages small, submitted.score_eq answer]
  refine (leads_printAll delay (verdictMessages verdict) desk).andThen ?_ ?_
  · rintro _ later ⟨first, cut, said, _⟩
    have inside' : Inside first := fun message listed => inside message (cut.subset listed)
    -- the clock has stopped, so no session is left to agree with what was said
    let stopped := { session with score := session.score + won first }
    have plays' : Plays games player settled stopped later :=
      plays.say said inside' rfl ⟨rfl, rfl⟩
    exact plays'.records
  · intro _ between said
    have plays' := plays.say said inside credited submitted.owner_eq
    have few' : (submission.session.score : Int) + remaining.length < integerBound := by
      rw [submitted.score_eq answer]
      omega
    split
    · exact plays'.closeRound isName closes (by omega) (by omega)
    · exact plays'.continueRound isName closes few'

/-- A command in a round leads to the next prompt, whatever comes of it. -/
theorem Plays.answerCommand (plays : Plays games player settled session desk)
    (isName : IsName player) (closes : Closes delay) (typed : String)
    (few : (session.score : Int) + (remaining.length + 1) < integerBound) :
    Leads (Shell.answerCommand delay player session typed) desk
      (Reaches games player settled remaining)
      (fun _ => Records games player settled) := by
  by_cases leaves : Leaves typed
  · exact plays.records.goBack isName (by omega) (leave_goesBack leaves delay player session desk)
  · have answer_eq : Shell.answerCommand delay player session typed =
        submitInput session typed >>= fun taken =>
          printAll delay (verdictMessages taken.2) >>= fun _ =>
            match taken.2.outcome with
            | .timeout _ => Shell.closeRound delay player taken.1
            | _ => Shell.continueRound delay player taken.1 := if_neg leaves
    rw [answer_eq]
    refine (leads_submitInput session typed desk).andThen
      (fun _ _ stays => plays.records.stay stays) ?_
    rintro ⟨_, verdict⟩ between ⟨stays, submission, submitted, rfl, answer⟩
    exact (plays.stay stays).follow isName closes submitted answer few

/-- The entries of the menu that only show something. -/
def Shows (typed : String) : Prop :=
  folded typed = "2" ∨ folded typed = "3"

theorem show_goesBack {typed : String} (shows : Shows typed) (delay : Delay) (player : CodeText)
    (desk : Desk) : GoesBack player (answerChoice delay player typed) desk := by
  unfold answerChoice
  rcases shows with leaderboard | stats
  · rw [leaderboard, if_neg (by decide), if_pos rfl]
    refine (leads_showLeaderboard delay desk).bind ?_
    intro _ between drifts
    exact (toMenu_goesBack delay player between).after drifts
  · rw [stats, if_neg (by decide), if_neg (by decide), if_pos rfl]
    refine (leads_showStats delay player desk).bind ?_
    intro _ between drifts
    exact (toMenu_goesBack delay player between).after drifts

/-- A choice leads to the next prompt, or out of the shell. -/
theorem Records.answerChoice (records : Records games player settled desk) (isName : IsName player)
    (closes : Closes delay) (typed : String) (few : (remaining.length : Int) < integerBound) :
    Leads (Shell.answerChoice delay player typed) desk
      (Reaches games player settled remaining)
      (fun _ => Records games player settled) := by
  by_cases shows : Shows typed
  · exact records.goBack isName few (show_goesBack shows delay player desk)
  · unfold Shows at shows
    unfold Shell.answerChoice
    rw [not_or] at shows
    split
    · exact records.startRound isName closes few
    · rw [if_neg shows.1, if_neg shows.2]
      split
      · exact leads_pure records
      · refine (records.sayAside delay rfl).bind ?_
        intro _ _ records'
        exact records'.toMenu isName few delay

theorem Ready.answerName {input : Input}
    (ready : Ready games player settled (input :: remaining) desk .naming) (delay : Delay) :
    Leads (Shell.answerName delay input.text) desk (Reaches games player settled remaining)
      (fun _ => Records games player settled) := by
  cases ready with
  | naming records unopened named few =>
      have few' : (remaining.length : Int) < integerBound := by
        rw [List.length_cons] at few
        omega
      rw [playerOf_cons] at named
      unfold Shell.answerName
      by_cases blank : Text.strip input.text.toString = ""
      · rw [if_pos blank] at named ⊢
        refine (leads_print_aside delay rfl desk).andThen
          (fun _ _ drifts => records.drift drifts) ?_
        intro _ later drifts
        refine leads_pure (Ready.naming (records.drift drifts) ?_ named few')
        rcases drifts with ⟨messages, asides, said⟩
        rw [rounds_eq_nil_iff] at unopened
        rw [said.messages_eq, rounds_eq_nil_iff, List.forall_mem_append]
        exact ⟨unopened, asides.inside.unopened⟩
      · rw [if_neg blank] at named ⊢
        subst named
        exact records.toMenu (isName_strip blank) few' delay

/-! ## A line -/

theorem Ready.stay {phase : Phase} (ready : Ready games player settled remaining desk phase)
    {later : Desk} (stays : desk.Stays later) :
    Ready games player settled remaining later phase := by
  cases ready with
  | naming records unopened named few =>
      exact Ready.naming (records.stay stays) (stays.messages_eq ▸ unopened) named few
  | menu records isName few => exact Ready.menu (records.stay stays) isName few
  | command session plays isName few => exact Ready.command session (plays.stay stays) isName few

theorem Ready.records {phase : Phase} (ready : Ready games player settled remaining desk phase) :
    Records games player settled desk := by
  cases ready with
  | naming records unopened named few => exact records
  | menu records isName few => exact records
  | command session plays isName few => exact plays.records

/-- A line is answered after the prompt and the pause, which say nothing. -/
theorem leads_takeLine {phase : Phase} {input : Input} {done : Next -> Desk -> Prop}
    {broken : Failure -> Desk -> Prop}
    (stopped : forall cause later, desk.Said [] later -> broken cause later)
    (answered : forall between, desk.Said [] between ->
      Leads (answer delay phase input.text) between done broken) :
    Leads (takeLine delay phase input) desk done broken := by
  refine (leads_say _ desk _).bind ?_
  intro _ asked added
  have said : desk.Said [] asked := added ▸ desk.said_asked _
  refine (leads_wait input.pause asked).andThen
    (fun cause later stops => stopped cause later (said.trans stops.1)) ?_
  intro _ between said'
  exact answered between (said.trans said')

/-- Every line leads from a prompt that is ready to one that is ready. -/
theorem Ready.takeLine {phase : Phase} {input : Input}
    (ready : Ready games player settled (input :: remaining) desk phase) (closes : Closes delay) :
    Leads (Shell.takeLine delay phase input) desk (Reaches games player settled remaining)
      (fun _ => Records games player settled) := by
  refine leads_takeLine (fun _ later said => ready.records.stay said.stays) ?_
  intro between said
  have ready' := ready.stay said.stays
  cases ready with
  | naming => exact ready'.answerName delay
  | menu records isName few =>
      rw [List.length_cons] at few
      exact (records.stay said.stays).answerChoice isName closes input.text.toString (by omega)
  | command session plays isName few =>
      rw [List.length_cons] at few
      exact (plays.stay said.stays).answerCommand isName closes input.text.toString (by omega)

end Shell
end ModalDrill
