import ModalDrill.Shell.Desk

namespace ModalDrill

/-!
# The shell

The shell waits at one prompt at a time.  A line typed there is answered by
messages and leads to the next prompt, or to the end; so a whole play is a
recursion on the lines.  It ends when the player quits, when the lines run out,
when the service refuses what the shell has no answer for, or when the clock
cannot be moved.
-/

namespace Shell

/-- What the shell waits for. -/
inductive Phase
  | naming
  | menu (player : CodeText)
  | command (player : CodeText) (session : Session)

def Phase.prompt : Phase -> Prompt
  | naming => .playerName
  | menu _ => .choice
  | command _ _ => .command

inductive Ending
  | quit
  | linesExhausted
  | failed (cause : Failure)
deriving DecidableEq, Repr

/-- After an answer: the next prompt, or the end. -/
inductive Next
  | await (phase : Phase)
  | quit

/-- A typed line, and the seconds until it is there. -/
structure Input where
  text : CodeText
  pause : Seconds
deriving DecidableEq

/-- The words that leave a round. -/
def leaveWords : List String :=
  [":quit", ":exit", ":q"]

/-- A typed line as the menus compare it. -/
def folded (typed : String) : String :=
  Text.small (Text.strip typed)

/-! ## Messages in groups -/

def menuMessages (player : CodeText) : List Message :=
  [.menu .title, .menu (.player player), .menu .play, .menu .leaderboard, .menu .stats, .menu .quit]

def bufferMessages (buffer : Buffer) : List Message :=
  buffer.render.map .bufferRow

def statsMessages (stats : PlayerStats) : List Message :=
  [.gamesPlayed stats.timesPlayed, .bestScore stats.highestScore]

def leaderboardMessages (players : List PlayerStats) : List Message :=
  .leaderboardTitle ::
    (if players.isEmpty then [.noScores] else (Leaderboard.table players).map .tableRow)

/-- What is said about a verdict while the round goes on. -/
def verdictMessages (verdict : Verdict) : List Message :=
  match verdict.outcome with
  | .timeout _ => [.tooLate]
  | .ignored => []
  | .hint answer => [.hint answer]
  | .wrong command => [.wrong command]
  | .correct _ points => .correct points :: bufferMessages verdict.buffer

/-! ## Steps -/

/-- Show the menu and wait for a choice. -/
def toMenu (delay : Delay) (player : CodeText) : Act Next := do
  printAll delay (menuMessages player)
  return .await (.menu player)

/-- Show the question of a session, with the time that is left for it. -/
def showQuestion (delay : Delay) (session : Session) (left : Binary64) : Act Unit :=
  printAll delay
    (.status session.score left :: .questionPrompt session.question.prompt ::
      bufferMessages session.buffer)

/-- Is a refusal about the player's input?  Such refusals are told to the
player; others end the shell. -/
def aboutInput : StoreError -> Bool
  | .usernameRequired => true
  | .scoreNotInteger => true
  | .unencodable _ => true
  | _ => false

/-- Finish a session and record it, unless it is recorded already. -/
def finishSession (session : Session) : Act (Except StoreError PlayerStats) := do
  if session.stats.isNone then say (.noted (.sessionFinished session.user session.score))
  let (service, _, answer) := (<- get).service.finish session
  modify fun desk => { desk with service := service }
  if let .ok stats := answer then
    if session.stats.isNone then say (.noted (.gameRecorded session.user session.score stats))
  return answer

/-- The end of a round that ran out of time: its score is recorded. -/
def closeRound (delay : Delay) (player : CodeText) (session : Session) : Act Next := do
  printAll delay [.timesUp, .finalScore session.score]
  match <- finishSession session with
  | .ok stats =>
      printAll delay (statsMessages stats)
      toMenu delay player
  | .error cause =>
      if aboutInput cause then
        print delay (.notSaved cause)
        toMenu delay player
      else throw (.store cause)

/-- Put the question of a session, unless the time is up. -/
def continueRound (delay : Delay) (player : CodeText) (session : Session) : Act Next := do
  let now := Seconds.real (<- get).clock
  match session.timedOut? now, (session.timeLeft? now).bind Seconds.toBinary64? with
  | some true, _ => closeRound delay player session
  | some false, some left =>
      showQuestion delay session left
      return .await (.command player session)
  | _, _ => throw .clockOutOfRange

/-- Start a session with all questions of the bank, in an order of its own. -/
def startSession (player : CodeText) : Act (Except StartError Session) := do
  let desk <- get
  if Text.strip player.toString ≠ "" then
    say (.noted (.sessionStarting player.strip (desk.shuffled.drawn none).length))
  let (service, answer) := desk.shuffled.start (.real desk.clock) player none
  modify fun desk => { desk with service := service }
  return answer

/-- Start a round and put its first question. -/
def startRound (delay : Delay) (player : CodeText) : Act Next := do
  match <- startSession player with
  | .error .deadlineOutOfRange => throw .clockOutOfRange
  | .error cause =>
      print delay (.notStarted cause)
      toMenu delay player
  | .ok session =>
      match session.duration.toBinary64? with
      | none => throw .clockOutOfRange
      | some duration =>
          printAll delay [.roundLength duration, .roundRules]
          continueRound delay player session

/-- Show the leaderboard. -/
def showLeaderboard (delay : Delay) : Act Unit := do
  match (<- get).service.leaderboard defaultLimit with
  | .error cause => throw (.store cause)
  | .ok players => printAll delay (leaderboardMessages players)

/-- Show the aggregate of a player. -/
def showStats (delay : Delay) (player : CodeText) : Act Unit := do
  print delay (.statsTitle player)
  match (<- get).service.stats? player with
  | .error cause => throw (.store cause)
  | .ok none => print delay .noGames
  | .ok (some stats) => printAll delay (statsMessages stats)

/-- Answer a choice in the menu. -/
def answerChoice (delay : Delay) (player : CodeText) (typed : String) : Act Next := do
  if folded typed = "1" then startRound delay player
  else if folded typed = "2" then
    showLeaderboard delay
    toMenu delay player
  else if folded typed = "3" then
    showStats delay player
    toMenu delay player
  else if folded typed = "q" then return .quit
  else
    print delay .invalidChoice
    toMenu delay player

/-- Submit an input to a session. -/
def submitInput (session : Session) (typed : String) : Act (Session × Verdict) := do
  let desk <- get
  let submission := session.submit desk.service.register (.real desk.clock) typed
  set { desk with service := { desk.service with register := submission.register } }
  match submission.result with
  | .error cause => throw (.submit cause)
  | .ok verdict => return (submission.session, verdict)

/-- Answer a command in a round.  Leaving comes before the late check, and a
round that is left records nothing. -/
def answerCommand (delay : Delay) (player : CodeText) (session : Session) (typed : String) :
    Act Next := do
  if leaveWords.contains (folded typed) then
    print delay .abandoned
    toMenu delay player
  else
    let (session, verdict) <- submitInput session typed
    printAll delay (verdictMessages verdict)
    match verdict.outcome with
    | .timeout _ => closeRound delay player session
    | _ => continueRound delay player session

/-- Answer the name of the player. -/
def answerName (delay : Delay) (typed : CodeText) : Act Next := do
  if Text.strip typed.toString = "" then
    print delay .nameRequired
    return .await .naming
  else toMenu delay typed.strip

/-- Answer a typed line. -/
def answer (delay : Delay) (phase : Phase) (typed : CodeText) : Act Next :=
  match phase with
  | .naming => answerName delay typed
  | .menu player => answerChoice delay player typed.toString
  | .command player session => answerCommand delay player session typed.toString

/-- Put the prompt, wait for the line, and answer it. -/
def takeLine (delay : Delay) (phase : Phase) (input : Input) : Act Next := do
  say (.asked phase.prompt)
  wait input.pause
  answer delay phase input.text

/-! ## Whole plays -/

/-- Where the shell stands: before a prompt, or at its end. -/
inductive Standing
  | waits (desk : Desk) (phase : Phase)
  | ended (desk : Desk) (ending : Ending)

/-- Go on to where the next line leads. -/
def step (delay : Delay) (desk : Desk) (phase : Phase) (input : Input) : Standing :=
  match (takeLine delay phase input).run desk with
  | .error cause desk => .ended desk (.failed cause)
  | .ok .quit desk => .ended desk .quit
  | .ok (.await phase) desk => .waits desk phase

/-- The end of a play, and the lines that were not read. -/
structure Outcome where
  desk : Desk
  ending : Ending
  unread : List Input

/-- Play from a prompt on.  The prompt is put even if no line is left. -/
def playFrom (delay : Delay) (desk : Desk) (phase : Phase) : List Input -> Outcome
  | [] => ⟨desk.add (.asked phase.prompt), .linesExhausted, []⟩
  | input :: rest =>
      match step delay desk phase input with
      | .ended desk ending => ⟨desk, ending, rest⟩
      | .waits desk phase => playFrom delay desk phase rest

/-- Play on from where the shell stands. -/
def playOn (delay : Delay) (standing : Standing) (inputs : List Input) : Outcome :=
  match standing with
  | .ended desk ending => ⟨desk, ending, inputs⟩
  | .waits desk phase => playFrom delay desk phase inputs

/-- A whole play, from the name of the player on. -/
def play (delay : Delay) (draws : Draws) (service : Service) (inputs : List Input) : Outcome :=
  playFrom delay (Desk.new service draws) .naming inputs

end Shell
end ModalDrill
