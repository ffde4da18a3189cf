import ModalDrill.Proofs.Shell.Line

namespace ModalDrill
namespace Shell

/-!
# Whole plays

A play starts at a prompt that is ready, and every line leads to one that is
ready again; so the records are kept wherever a play ends.  A play whose lines
have run out goes on from there when more lines come, which is how a line in
the middle of a play is singled out.
-/

variable {games : List GameRecord} {player : CodeText} {settled : List (Option Nat)} {desk : Desk}
  {session : Session} {delay : Delay} {draws : Draws} {phase : Phase} {input : Input}

/-! ## The next line -/

theorem playFrom_of_error {rest : List Input} {cause : Failure} {later : Desk}
    (result : (takeLine delay phase input).run desk = .error cause later) :
    playFrom delay desk phase (input :: rest) = ⟨later, .failed cause, rest⟩ := by
  rw [playFrom, step, result]

theorem playFrom_of_quit {rest : List Input} {later : Desk}
    (result : (takeLine delay phase input).run desk = .ok .quit later) :
    playFrom delay desk phase (input :: rest) = ⟨later, .quit, rest⟩ := by
  rw [playFrom, step, result]

theorem playFrom_of_await {rest : List Input} {later : Desk} {phase' : Phase}
    (result : (takeLine delay phase input).run desk = .ok (.await phase') later) :
    playFrom delay desk phase (input :: rest) = playFrom delay later phase' rest := by
  rw [playFrom, step, result]

/-- From a prompt that is ready the records are kept to the end.  If the lines
run out, more lines are played from a prompt that is ready for them. -/
theorem Ready.playFrom {inputs later : List Input}
    (ready : Ready games player settled (inputs ++ later) desk phase) (closes : Closes delay) :
    Records games player settled (Shell.playFrom delay desk phase inputs).desk ∧
      ((Shell.playFrom delay desk phase inputs).ending = .linesExhausted ->
        Exists fun phase' => Exists fun desk' => Ready games player settled later desk' phase' ∧
          (Shell.playFrom delay desk phase inputs).desk = desk'.add (.asked phase'.prompt) ∧
          Shell.playFrom delay desk phase (inputs ++ later) =
            Shell.playFrom delay desk' phase' later) := by
  induction inputs generalizing desk phase with
  | nil =>
      refine ⟨ready.records.stay (desk.said_asked phase.prompt).stays, fun _ => ?_⟩
      exact ⟨phase, desk, ready, rfl, rfl⟩
  | cons input rest inductionHypothesis =>
      have step := (ready.takeLine closes).outcome
      rw [List.cons_append]
      cases result : (Shell.takeLine delay phase input).run desk with
      | error cause reached =>
          rw [result] at step
          rw [playFrom_of_error result]
          exact ⟨step, fun contrary => nomatch contrary⟩
      | ok next reached =>
          rw [result] at step
          cases next with
          | quit =>
              rw [playFrom_of_quit result]
              exact ⟨step, fun contrary => nomatch contrary⟩
          | await phase' =>
              rw [playFrom_of_await result, playFrom_of_await result]
              exact inductionHypothesis step

/-! ## Lines that only say something -/

theorem takeLine_goesBack
    (answered : forall between, GoesBack player (answer delay phase input.text) between)
    (desk : Desk) : GoesBack player (takeLine delay phase input) desk := by
  have silent : forall between, desk.Said [] between -> desk.Drifts between :=
    fun _ said => ⟨[], fun _ listed => absurd listed List.not_mem_nil, said⟩
  exact leads_takeLine (fun _ => silent) fun between said =>
    (answered between).after (silent between said)

theorem goesBack_of_leaves (leaves : Leaves input.text.toString) (player : CodeText)
    (session : Session)
    (desk : Desk) : GoesBack player (takeLine delay (.command player session) input) desk := by
  refine takeLine_goesBack (fun between => ?_) desk
  rw [answer]
  exact leave_goesBack leaves delay player session between

theorem goesBack_of_shows (shows : Shows input.text.toString) (player : CodeText) (desk : Desk) :
    GoesBack player (takeLine delay (.menu player) input) desk := by
  refine takeLine_goesBack (fun between => ?_) desk
  rw [answer]
  exact show_goesBack shows delay player between

/-- Does a line leave a round, or only show something? -/
def Spares (line : Input) (prompt : Prompt) : Prop :=
  (prompt = .command ∧ Leaves line.text.toString) ∨ (prompt = .choice ∧ Shows line.text.toString)

theorem Spares.goesBack (spares : Spares input phase.prompt) (desk : Desk) :
    Exists fun player => GoesBack player (takeLine delay phase input) desk := by
  rcases spares with ⟨asked, leaves⟩ | ⟨asked, shows⟩
  · cases phase with
    | naming => cases asked
    | menu player => cases asked
    | command player session => exact ⟨player, goesBack_of_leaves leaves player session desk⟩
  · cases phase with
    | naming => cases asked
    | menu player => exact ⟨player, goesBack_of_shows shows player desk⟩
    | command player session => cases asked

/-- A line that goes back to the menu leaves the service as it is. -/
theorem GoesBack.service_eq (back : GoesBack player (takeLine delay phase input) desk) :
    (playFrom delay desk phase [input]).desk.service = desk.service := by
  have step := back.outcome
  cases result : (takeLine delay phase input).run desk with
  | error cause reached =>
      rw [result] at step
      rcases step with ⟨messages, _, said⟩
      rw [playFrom_of_error result, said.service_eq]
  | ok next reached =>
      rw [result] at step
      rcases step with ⟨rfl, messages, _, said⟩
      rw [playFrom_of_await result]
      exact said.service_eq

/-- After such a line all results up to it are settled: whatever is typed later
on, the round under way will never be recorded. -/
theorem GoesBack.settles (back : GoesBack player (takeLine delay phase input) desk)
    (records : Records games player settled desk) (isName : IsName player) (closes : Closes delay)
    {later : List Input} (few : (later.length : Int) < integerBound) :
    Records games player (results desk.messages)
      (playFrom delay desk phase (input :: later)).desk := by
  have step := back.outcome
  cases result : (takeLine delay phase input).run desk with
  | error cause reached =>
      rw [result] at step
      rw [playFrom_of_error result]
      exact records.settle.drift step
  | ok next reached =>
      rw [result] at step
      rcases step with ⟨rfl, drifts⟩
      rw [playFrom_of_await result]
      have ready : Ready games player (results desk.messages) (later ++ []) reached
          (.menu player) :=
        Ready.menu (records.settle.drift drifts) isName ((List.append_nil later).symm ▸ few)
      exact (ready.playFrom closes).1

/-! ## The records of a play -/

/-- The lines of a play have run out, and it waits at a prompt. -/
structure WaitsAt (outcome : Outcome) (prompt : Prompt) : Prop where
  exhausted : outcome.ending = .linesExhausted
  asked : outcome.desk.entries.getLast? = some (.asked prompt)

/-- The prompt that a play waits at is the prompt of its phase. -/
theorem WaitsAt.prompt_eq {outcome : Outcome} {prompt : Prompt} (waits : WaitsAt outcome prompt)
    (asked : outcome.desk = desk.add (.asked phase.prompt)) : phase.prompt = prompt := by
  have last := waits.asked
  rw [asked, Desk.add, List.getLast?_concat] at last
  cases last
  rfl

/-- Putting a prompt prints nothing. -/
theorem messages_eq_of_asked {outcome : Outcome} {prompt : Prompt}
    (asked : outcome.desk = desk.add (.asked prompt)) : outcome.desk.messages = desk.messages := by
  rw [asked]
  exact (desk.said_asked prompt).stays.messages_eq

theorem new_ready (draws : Draws) {service : Service} {tables : Tables}
    (connected : service.store.tables = .ok tables)
    (writable : service.store.writable = true) {inputs : List Input}
    (few : (inputs.length : Int) < integerBound) :
    Ready tables.games (playerOf inputs) [] inputs (Desk.new service draws) .naming := by
  have none : gamesOf (playerOf inputs) (results (Desk.new service draws).messages) = [] :=
    ite_self _
  refine Ready.naming ⟨⟨tables, connected, ?_⟩, writable, ?_, ?_⟩ rfl rfl few
  · rw [none, List.append_nil]
  · exact fun _ listed => absurd listed List.not_mem_nil
  · exact List.nil_prefix

/-- A line that only says something leaves the service of the whole play as it is. -/
private theorem play_service_eq {service : Service} {tables : Tables}
    (connected : service.store.tables = .ok tables) (writable : service.store.writable = true)
    (closes : Closes delay) {before : List Input} {line : Input}
    (few : ((before ++ [line]).length : Int) < integerBound) {prompt : Prompt}
    (waits : WaitsAt (play delay draws service before) prompt) (spares : Spares line prompt) :
    (play delay draws service (before ++ [line])).desk.service =
      (play delay draws service before).desk.service := by
  rcases ((new_ready draws connected writable few).playFrom closes).2 waits.exhausted with
    ⟨phase, desk, _, asked, onward⟩
  rcases ((waits.prompt_eq asked).symm ▸ spares).goesBack desk with ⟨player, back⟩
  calc
    (play delay draws service (before ++ [line])).desk.service =
        (playFrom delay desk phase [line]).desk.service := congrArg (·.desk.service) onward
    _ = desk.service := back.service_eq
    _ = (play delay draws service before).desk.service := (congrArg Desk.service asked).symm

/-- At the prompt of a command a round is under way. -/
theorem Ready.plays {remaining : List Input}
    (ready : Ready games player settled remaining desk phase) (asked : phase.prompt = .command) :
    IsName player ∧ (remaining.length : Int) < integerBound ∧
      Exists fun session => phase = .command player session ∧
        Plays games player settled session desk := by
  cases ready with
  | naming => cases asked
  | menu => cases asked
  | command session plays isName few => exact ⟨isName, by omega, session, rfl, plays⟩

theorem Plays.last_open (plays : Plays games player settled session desk) :
    Exists fun earlier => Exists fun current => rounds desk.messages = earlier ++ [current] ∧
      .timesUp ∉ current ∧ results desk.messages = earlier.map result? ++ [none] := by
  rcases plays.current with ⟨earlier, current, last, going, _⟩
  refine ⟨earlier, current, last, going.goesOn, ?_⟩
  rw [results, last, List.map_append, List.map_singleton, going.result?_eq]

/-- A round that is cut off has not run out of time. -/
private theorem play_cut {service : Service} {inputs : List Input}
    (start : Ready games player settled (inputs ++ []) (Desk.new service draws) .naming)
    (closes : Closes delay) (waits : WaitsAt (play delay draws service inputs) .command) :
    Exists fun round =>
      (rounds (play delay draws service inputs).desk.messages).getLast? = some round ∧
        .timesUp ∉ round := by
  rcases (start.playFrom closes).2 waits.exhausted with ⟨phase, desk, ready, asked, _⟩
  rcases ready.plays (waits.prompt_eq asked) with ⟨_, _, session, _, plays⟩
  rcases plays.last_open with ⟨earlier, current, last, goesOn, _⟩
  have silent : (play delay draws service inputs).desk.messages = desk.messages :=
    messages_eq_of_asked asked
  refine ⟨current, ?_, goesOn⟩
  rw [silent, last, List.getLast?_concat]

/-- A round that is left does not run out of time, whatever is typed later on. -/
private theorem play_left {service : Service} {before later : List Input} {line : Input}
    (start : Ready games player settled (before ++ line :: later) (Desk.new service draws) .naming)
    (closes : Closes delay) (waits : WaitsAt (play delay draws service before) .command)
    (leaves : Leaves line.text.toString) :
    Exists fun round =>
      (rounds (play delay draws service (before ++ line :: later)).desk.messages)[
          (rounds (play delay draws service before).desk.messages).length - 1]? = some round ∧
        .timesUp ∉ round := by
  rcases (start.playFrom closes).2 waits.exhausted with ⟨phase, desk, ready, asked, onward⟩
  rcases ready.plays (waits.prompt_eq asked) with ⟨isName, few, session, rfl, plays⟩
  rcases plays.last_open with ⟨earlier, current, last, _, results_eq⟩
  rw [List.length_cons] at few
  have records := (goesBack_of_leaves leaves player session desk).settles plays.records isName
    closes (show (later.length : Int) < integerBound by omega)
  have resolved := records.settles
  rw [← onward, results_eq] at resolved
  rcases exists_round_of_settled resolved with ⟨round, listed, goesOn⟩
  have silent : (play delay draws service before).desk.messages = desk.messages :=
    messages_eq_of_asked asked
  have number : (rounds (play delay draws service before).desk.messages).length - 1 =
      (earlier.map result?).length := by
    rw [silent, last, List.length_append, List.length_singleton,
      Nat.add_sub_cancel, List.length_map]
  refine ⟨round, ?_, goesOn⟩
  rw [number]
  exact listed

/-- A play adds to the store, in order, exactly one game for each round that was
announced as over: under the name that was typed first, with the points that
were won in the round, which is also the one final score told in it.  Under a
name without a form in bytes it adds nothing, and each of these rounds says that
its score could not be saved.  A round that is cut off is not over, and one that
is left is not over and never will be; neither leaving nor the entries of the
menu that only show something touch the service.  There are fewer lines than
`2 ^ 63`, more than any list has. -/
theorem play_records_completed_rounds (delay : Delay) (closes : Closes delay) (draws : Draws)
    (service : Service) (tables : Tables) (connected : service.store.tables = .ok tables)
    (writable : service.store.writable = true) (inputs : List Input)
    (few : (inputs.length : Int) < integerBound) :
    let outcome := play delay draws service inputs
    let player := playerOf inputs
    let told := rounds outcome.desk.messages
    (Exists fun after => outcome.desk.service.store.tables = .ok after ∧
        after.games = tables.games ++
          if player.isEncodable then
            (told.filter fun round => .timesUp ∈ round).map fun round =>
              GameRecord.mk player.toString (won round)
          else []) ∧
      (forall round, round ∈ told -> .timesUp ∈ round ->
        round.filterMap Message.finalScore? = [won round] ∧
          (player.isEncodable = false -> .notSaved (.unencodable player) ∈ round)) ∧
      (WaitsAt outcome .command ->
        Exists fun round => told.getLast? = some round ∧ .timesUp ∉ round) ∧
      forall before line later, inputs = before ++ line :: later ->
        let waiting := play delay draws service before
        let answered := play delay draws service (before ++ [line])
        (WaitsAt waiting .command -> Leaves line.text.toString ->
          answered.desk.service = waiting.desk.service ∧
            Exists fun round =>
              told[(rounds waiting.desk.messages).length - 1]? = some round ∧ .timesUp ∉ round) ∧
        (WaitsAt waiting .choice -> Shows line.text.toString ->
          answered.desk.service = waiting.desk.service) := by
  intro outcome player told
  have start := new_ready draws connected writable few
  have start' : Ready tables.games player [] (inputs ++ []) (Desk.new service draws) .naming := by
    rw [List.append_nil]
    exact start
  have records := (start'.playFrom closes).1
  refine ⟨?_, ?_, play_cut start' closes, ?_⟩
  · rcases records.games_eq with ⟨after, connected', games_eq⟩
    rw [gamesOf_results] at games_eq
    exact ⟨after, connected', games_eq⟩
  · intro round listed ended
    rcases records.tells round listed ended with ⟨score, noticed⟩
    refine ⟨score, fun halves => noticed ?_⟩
    rw [notices, if_neg (Bool.eq_false_iff.mp halves)]
    exact List.mem_singleton_self _
  · rintro before line later rfl waiting answered
    have few' : ((before ++ [line]).length : Int) < integerBound := by
      rw [List.length_append, List.length_cons] at few
      rw [List.length_append, List.length_singleton]
      omega
    refine ⟨fun waits leaves => ⟨?_, play_left start closes waits leaves⟩, fun waits shows => ?_⟩
    · exact play_service_eq connected writable closes few' waits (Or.inl ⟨rfl, leaves⟩)
    · exact play_service_eq connected writable closes few' waits (Or.inr ⟨rfl, shows⟩)

/-- One round that is left, one that runs out of time with two points, and one that
is cut off, on a clock that moves while the second one ends.  Each round draws its
questions in another order than the one before it. -/
theorem play_records_completed_rounds_ann :
    let delay : Delay := fun entries =>
      if entries.getLast? = some (.printed .timesUp) then [1] else []
    let draws : Draws := fun entries => Sampler.rotation (entries.count (.asked .choice))
    let tables : Tables := ⟨[⟨"bob", 1, 2⟩], [⟨"bob", 2⟩]⟩
    let questions : List Question :=
      [⟨"q", "Delete the line.", ["dd"]⟩, ⟨"r", "Go to the end.", ["$"]⟩]
    let service : Service :=
      ⟨⟨["one two".toList], questions⟩, 2, Sampler.rotation 0, none,
        ⟨⟨1, [1], some tables⟩, false, true, true⟩⟩
    let inputs : List Input :=
      [⟨" ann ", 0⟩, ⟨"1", 0⟩, ⟨" :Q", 0⟩, ⟨"1", 0⟩, ⟨"dd", 0⟩, ⟨"$", 0⟩, ⟨"x", 5⟩, ⟨"1", 0⟩]
    Closes delay ∧ service.store.tables = .ok tables ∧ service.store.writable = true ∧
      (inputs.length : Int) < integerBound ∧
      Exists fun after => (play delay draws service inputs).desk.service.store.tables = .ok after ∧
        after.games = [⟨"bob", 2⟩, ⟨"ann", 2⟩] := by
  intro delay draws tables questions service inputs
  have closes : Closes delay := by
    refine ⟨fun entries seconds listed => ?_, fun score entries seconds listed => ?_⟩
    · simp only [delay, List.getLast?_concat, if_pos, List.mem_singleton] at listed
      rw [listed]
      decide +kernel
    · simp [delay] at listed
  have few : (inputs.length : Int) < integerBound := by decide
  have rounds_eq : (if (playerOf inputs).isEncodable then
      ((rounds (play delay draws service inputs).desk.messages).filter fun round =>
        .timesUp ∈ round).map fun round =>
          GameRecord.mk (playerOf inputs).toString (won round)
      else []) = [⟨"ann", 2⟩] := by
    decide +kernel
  rcases (play_records_completed_rounds delay closes draws service tables rfl rfl inputs few).1 with
    ⟨after, connected, games_eq⟩
  rw [rounds_eq] at games_eq
  exact ⟨closes, rfl, rfl, few, after, connected, games_eq⟩

/-- A round that was announced as over, and of which the store has no game. -/
def LosesRound (outcome : Outcome) : Prop :=
  outcome.desk.service.store.tables = .ok Tables.empty ∧
    Exists fun round => round ∈ rounds outcome.desk.messages ∧ .timesUp ∈ round

/-- Not every round that is announced as over is recorded: not under half a pair of
surrogates as a name, and not in a database that may only be read. -/
theorem announced_rounds_lost :
    let service : Bool -> Service := fun writable =>
      ⟨⟨["one two".toList], [⟨"q", "Delete the line.", ["dd"]⟩]⟩, 2, Sampler.rotation 0, none,
        ⟨⟨1, [1], some Tables.empty⟩, false, writable, true⟩⟩
    let played : CodeText -> Bool -> Outcome := fun name writable =>
      play (fun _ => []) (fun _ => Sampler.rotation 0) (service writable)
        [⟨name, 0⟩, ⟨"1", 0⟩, ⟨"x", 3⟩]
    LosesRound (played ⟨[.surrogate 0xD800]⟩ true) ∧ LosesRound (played "ann" false) := by
  intro service played
  refine ⟨⟨by decide +kernel, ?_⟩, ⟨by decide +kernel, ?_⟩⟩ <;> decide +kernel

end Shell
end ModalDrill
