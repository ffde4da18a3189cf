import ModalDrill.Proofs.Session.Submission
import ModalDrill.Proofs.Shell.Act
import ModalDrill.Proofs.Store.Log
import ModalDrill.Proofs.Text.Stripping

namespace ModalDrill
namespace Shell

/-!
# The shell records exactly the completed rounds

A desk keeps its records if the games in its store are those of the start and
one more for each round that was announced as over.  Whatever is typed, and
however the clock moves, every line leads from such a desk to such a desk; a
round that is left or cut off is never announced as over, and so adds nothing.
Under a name without a form in bytes nothing is added at all, and every round
that was announced as over says so.
-/

/-- The name of the player: the first typed line that is not blank, stripped. -/
def playerOf (inputs : List Input) : CodeText :=
  ((inputs.map fun input => input.text.strip).find? fun name => name.toString != "").getD ""

theorem playerOf_cons (input : Input) (rest : List Input) :
    playerOf (input :: rest) =
      if Text.strip input.text.toString = "" then playerOf rest else input.text.strip := by
  rw [playerOf, List.map_cons, List.find?_cons, CodeText.toString_strip]
  by_cases blank : Text.strip input.text.toString = ""
  · rw [if_pos blank, bne_eq_false_iff_eq.mpr blank, playerOf]
  · rw [if_neg blank, bne_iff_ne.mpr blank, Option.getD_some]

/-- The games of a player with the results of some rounds; a round without a
result is no game, and nobody has games under a name without a form in bytes. -/
def gamesOf (player : CodeText) (results : List (Option Nat)) : List GameRecord :=
  if player.isEncodable then
    results.filterMap fun result =>
      result.map fun score : Nat => GameRecord.mk player.toString score
  else []

theorem gamesOf_append (player : CodeText) (earlier later : List (Option Nat)) :
    gamesOf player (earlier ++ later) = gamesOf player earlier ++ gamesOf player later := by
  unfold gamesOf
  split
  · exact List.filterMap_append
  · rfl

/-- A round without a result adds no game. -/
theorem gamesOf_none (player : CodeText) : gamesOf player [none] = [] :=
  ite_self _

/-- The results of rounds make one game of each round that ran out of time. -/
theorem gamesOf_results (player : CodeText) (messages : List Message) :
    gamesOf player (results messages) =
      if player.isEncodable then
        ((rounds messages).filter fun round => .timesUp ∈ round).map fun round =>
          GameRecord.mk player.toString (won round)
      else [] := by
  refine if_congr Iff.rfl ?_ rfl
  rw [results]
  induction rounds messages with
  | nil => rfl
  | cons round rest inductionHypothesis =>
      rw [List.map_cons, List.filterMap_cons, inductionHypothesis, List.filter_cons, result?]
      by_cases ended : Message.timesUp ∈ round
      · simp only [if_pos ended, Option.map_some, decide_eq_true ended, if_true, List.map_cons]
      · simp only [if_neg ended, Option.map_none, decide_eq_false ended, Bool.false_eq_true,
          if_false]

/-- What is to be noticed about the final scores of a player: that they cannot be saved
under a name without a form in bytes. -/
def notices (player : CodeText) : List Message :=
  if player.isEncodable then [] else [.notSaved (.unencodable player)]

theorem asides_notices (player : CodeText) : Asides (notices player) := by
  unfold Asides notices
  split
  · exact fun _ listed => absurd listed List.not_mem_nil
  · rw [List.forall_mem_singleton]
    rfl

/-- A name as the shell keeps it: stripped, and not blank. -/
structure IsName (player : CodeText) : Prop where
  filled : player.toString ≠ ""
  stripped : player.strip = player

theorem isName_strip {typed : CodeText} (filled : Text.strip typed.toString ≠ "") :
    IsName typed.strip :=
  ⟨typed.toString_strip.symm ▸ filled, typed.strip_strip⟩

/-- The name of a player is the same when it is stripped as a string. -/
theorem IsName.strip_toString {player : CodeText} (isName : IsName player) :
    Text.strip player.toString = player.toString := by
  rw [← CodeText.toString_strip, isName.stripped]

/-- The store of a desk holds the games of the start and one for each completed
round, and these rounds have told their scores.  Some results are settled. -/
structure Records (games : List GameRecord) (player : CodeText) (settled : List (Option Nat))
    (desk : Desk) : Prop where
  games_eq : Exists fun tables => desk.service.store.tables = .ok tables ∧
    tables.games = games ++ gamesOf player (results desk.messages)
  writable : desk.service.store.writable = true
  tells : forall round, round ∈ rounds desk.messages -> Tells (notices player) round
  settles : settled <+: results desk.messages

/-- The desk of a round under way: its last round has not run out of time, and
the points won in it are the score of the session. -/
structure Plays (games : List GameRecord) (player : CodeText) (settled : List (Option Nat))
    (session : Session) (desk : Desk) : Prop where
  records : Records games player settled desk
  current : Exists fun earlier => Exists fun current =>
    rounds desk.messages = earlier ++ [current] ∧ Going current session.score ∧
      settled <+: earlier.map result?
  user_eq : session.user = player
  unrecorded : session.stats = none

/-- What holds at the prompts of a play, with the lines still to be read.  There
are few enough of them for every score to be one that can be stored. -/
inductive Ready (games : List GameRecord) (player : CodeText) (settled : List (Option Nat))
    (remaining : List Input) (desk : Desk) : Phase -> Prop
  | naming (records : Records games player settled desk) (unopened : rounds desk.messages = [])
      (named : playerOf remaining = player) (few : (remaining.length : Int) < integerBound) :
      Ready games player settled remaining desk .naming
  | menu (records : Records games player settled desk) (isName : IsName player)
      (few : (remaining.length : Int) < integerBound) :
      Ready games player settled remaining desk (.menu player)
  | command (session : Session) (plays : Plays games player settled session desk)
      (isName : IsName player) (few : (session.score : Int) + remaining.length < integerBound) :
      Ready games player settled remaining desk (.command player session)

variable {games : List GameRecord} {player : CodeText} {settled : List (Option Nat)} {desk : Desk}
  {session : Session} {delay : Delay}

/-! ## Drifting -/

/-- Only the store and the messages matter to the records. -/
theorem Records.stay (records : Records games player settled desk) {later : Desk}
    (stays : desk.Stays later) : Records games player settled later where
  games_eq := by rw [stays.store_eq, stays.messages_eq]; exact records.games_eq
  writable := by rw [stays.store_eq]; exact records.writable
  tells := by rw [stays.messages_eq]; exact records.tells
  settles := by rw [stays.messages_eq]; exact records.settles

theorem Records.drift (records : Records games player settled desk) {later : Desk}
    (drifts : desk.Drifts later) : Records games player settled later := by
  rcases drifts with ⟨messages, asides, said⟩
  refine ⟨?_, ?_, ?_, ?_⟩
  · rw [said.service_eq, said.messages_eq, results_append_asides desk.messages asides]
    exact records.games_eq
  · rw [said.service_eq]
    exact records.writable
  · rw [said.messages_eq]
    exact tells_append_asides records.tells asides
  · rw [said.messages_eq, results_append_asides desk.messages asides]
    exact records.settles

/-- All results up to now may count as settled. -/
theorem Records.settle (records : Records games player settled desk) :
    Records games player (results desk.messages) desk :=
  ⟨records.games_eq, records.writable, records.tells, List.prefix_refl _⟩

/-- What is said in a round moves its score by the points that are said to be
won, and the score of the session with it. -/
theorem Plays.say (plays : Plays games player settled session desk) {messages : List Message}
    {later : Desk} (said : desk.Said messages later) (inside : Inside messages)
    {session' : Session} (credited : session'.score = session.score + won messages)
    (owned : session'.user = session.user ∧ session'.stats = session.stats) :
    Plays games player settled session' later := by
  rcases plays with ⟨records, ⟨earlier, current, before, going, settles⟩, user_eq, unrecorded⟩
  have after : rounds later.messages = earlier ++ [current ++ messages] := by
    rw [said.messages_eq, rounds_append_of_last before inside.unopened]
  have onward : Going (current ++ messages) session'.score := credited ▸ going.append inside
  have results_eq : results later.messages = results desk.messages := by
    rw [results, results, after, before, List.map_append, List.map_append, List.map_singleton,
      List.map_singleton, onward.result?_eq, going.result?_eq]
  refine ⟨⟨?_, ?_, ?_, ?_⟩, ⟨earlier, current ++ messages, after, onward, settles⟩, ?_, ?_⟩
  · rw [said.service_eq, results_eq]
    exact records.games_eq
  · rw [said.service_eq]
    exact records.writable
  · have tells := records.tells
    rw [before, List.forall_mem_append] at tells
    rw [after, List.forall_mem_append, List.forall_mem_singleton]
    exact ⟨tells.1, onward.tells _⟩
  · rw [results_eq]
    exact records.settles
  · exact owned.1.trans user_eq
  · exact owned.2.trans unrecorded

theorem Plays.drift (plays : Plays games player settled session desk) {later : Desk}
    (drifts : desk.Drifts later) : Plays games player settled session later := by
  rcases drifts with ⟨messages, asides, said⟩
  have unchanged : session.score = session.score + won messages := by
    rw [asides.won_eq, Nat.add_zero]
  exact plays.say said asides.inside unchanged ⟨rfl, rfl⟩

/-- Only the store and the messages matter to a round under way. -/
theorem Plays.stay (plays : Plays games player settled session desk) {later : Desk}
    (stays : desk.Stays later) : Plays games player settled session later where
  records := plays.records.stay stays
  current := by rw [stays.messages_eq]; exact plays.current
  user_eq := plays.user_eq
  unrecorded := plays.unrecorded

/-- A new round is announced; all rounds before it are settled. -/
theorem Records.open (records : Records games player settled desk) {message : Message}
    (opens : message.opens = true) {later : Desk} (said : desk.Said [message] later)
    (fresh : session.score = 0) (user_eq : session.user = player)
    (unrecorded : session.stats = none) : Plays games player settled session later := by
  have begun : rounds later.messages = rounds desk.messages ++ [[message]] := by
    rw [said.messages_eq, rounds_append_opening desk.messages opens]
  have going : Going [message] 0 := Going.opening opens
  have results_eq : results later.messages = results desk.messages ++ [none] := by
    rw [results, begun, List.map_append, List.map_singleton, going.result?_eq, results]
  refine ⟨⟨?_, ?_, ?_, ?_⟩, ⟨_, _, begun, fresh ▸ going, records.settles⟩, user_eq, unrecorded⟩
  · rw [said.service_eq, results_eq, gamesOf_append, gamesOf_none, List.append_nil]
    exact records.games_eq
  · rw [said.service_eq]
    exact records.writable
  · rw [begun, List.forall_mem_append, List.forall_mem_singleton]
    exact ⟨records.tells, going.tells _⟩
  · rw [results_eq]
    exact records.settles.trans (List.prefix_append _ _)

/-- A round is announced as over, with what is to be noticed about it, and its score is
recorded if there can be games under the name. -/
theorem Plays.close (plays : Plays games player settled session desk) {tables : Tables}
    (connected : desk.service.store.tables = .ok tables) {later : Desk}
    (told : later.messages =
      desk.messages ++ (.timesUp :: .finalScore session.score :: notices player))
    {after : Tables} (stored : later.service.store = desk.service.store.withTables after)
    (added : after.games = tables.games ++ gamesOf player [some session.score]) :
    Records games player settled later := by
  rcases plays with ⟨records, ⟨earlier, current, before, going, settles⟩, user_eq, unrecorded⟩
  have asides := asides_notices player
  have inside : forall message,
      message ∈ Message.timesUp :: .finalScore session.score :: notices player ->
        message.opens = false := by
    rw [List.forall_mem_cons, List.forall_mem_cons]
    exact ⟨rfl, rfl, asides.inside.unopened⟩
  have rounds_eq : rounds later.messages =
      earlier ++ [current ++ (.timesUp :: .finalScore session.score :: notices player)] := by
    rw [told, rounds_append_of_last before inside]
  rcases going.close asides with ⟨result_eq, tellsIt⟩
  have results_eq : results later.messages = earlier.map result? ++ [some session.score] := by
    rw [results, rounds_eq, List.map_append, List.map_singleton, result_eq]
  have results_eq' : results desk.messages = earlier.map result? ++ [none] := by
    rw [results, before, List.map_append, List.map_singleton, going.result?_eq]
  refine ⟨⟨after, ?_, ?_⟩, ?_, ?_, ?_⟩
  · rw [stored]
    exact Store.withTables_tables connected _
  · rcases records.games_eq with ⟨tables', connected', games_eq⟩
    rw [connected] at connected'
    cases connected'
    rw [results_eq', gamesOf_append, gamesOf_none, List.append_nil] at games_eq
    rw [added, games_eq, results_eq, gamesOf_append, List.append_assoc]
  · rw [stored]
    exact records.writable
  · have tells := records.tells
    rw [before, List.forall_mem_append] at tells
    rw [rounds_eq, List.forall_mem_append, List.forall_mem_singleton]
    exact ⟨tells.1, tellsIt⟩
  · rw [results_eq]
    exact settles.trans (List.prefix_append _ _)

end Shell
end ModalDrill
