import ModalDrill.Proofs.Shell.Whole

namespace ModalDrill

/-!
# Final scores and games

A play tells the final score of a round exactly when it records it, or would record it
if the name of the player had a form in bytes.  So its games can be read off the final
scores that it printed, one game a score, and both tables of the store are the ones of
these games.  Nothing else in the store changes.
-/

/-- The final score that an entry tells, if it tells one. -/
def Entry.finalScore? : Entry -> Option Nat
  | .printed message => message.finalScore?
  | _ => none

/-- The games of a player whose rounds ended with these final scores: one a score, if the
name has a form in bytes. -/
def gamesTold (player : CodeText) (entries : List Entry) : List GameRecord :=
  if player.isEncodable then
    (entries.filterMap Entry.finalScore?).map fun score : Nat => GameRecord.mk player.toString score
  else []

theorem gamesTold_append (player : CodeText) (entries later : List Entry) :
    gamesTold player (entries ++ later) = gamesTold player entries ++ gamesTold player later := by
  unfold gamesTold
  split
  · rw [List.filterMap_append, List.map_append]
  · rfl

/-- Where no final score is told there are no games. -/
theorem gamesTold_eq_nil {entries : List Entry}
    (untold : entries.filterMap Entry.finalScore? = []) (player : CodeText) :
    gamesTold player entries = [] := by
  rw [gamesTold, untold]
  exact ite_self _

/-- Notes tell no final score. -/
theorem gamesTold_noted (player : CodeText) (notes : List Note) :
    gamesTold player (notes.map .noted) = [] := by
  refine gamesTold_eq_nil ?_ player
  rw [List.filterMap_map, List.filterMap_eq_nil_iff]
  exact fun _ _ => rfl

/-- Messages of which none tells a final score. -/
def Untold (messages : List Message) : Prop :=
  messages.filterMap Message.finalScore? = []

theorem Untold.of_prefix {messages first : List Message} (untold : Untold messages)
    (cut : first <+: messages) : Untold first :=
  List.sublist_nil.mp (untold ▸ cut.sublist.filterMap Message.finalScore?)

namespace Desk

/-- The final scores in the entries are those in the messages. -/
theorem filterMap_finalScore?_entries (desk : Desk) :
    desk.entries.filterMap Entry.finalScore? =
      desk.messages.filterMap Message.finalScore? := by
  rw [messages, List.filterMap_filterMap]
  refine List.filterMap_congr fun entry _ => ?_
  cases entry <;> rfl

theorem gamesTold_congr {desk later : Desk}
    (same : later.messages.filterMap Message.finalScore? =
      desk.messages.filterMap Message.finalScore?) (player : CodeText) :
    gamesTold player later.entries = gamesTold player desk.entries := by
  unfold gamesTold
  rw [filterMap_finalScore?_entries, filterMap_finalScore?_entries, same]

/-- A score that is told is one more game, if there can be games under the name. -/
theorem gamesTold_finalScore {desk later : Desk} {score : Nat}
    (told : later.messages = desk.messages ++ [.timesUp, .finalScore score]) (player : CodeText) :
    gamesTold player later.entries =
      gamesTold player desk.entries ++ Shell.gamesOf player [some score] := by
  have scores : later.entries.filterMap Entry.finalScore? =
      desk.entries.filterMap Entry.finalScore? ++ [score] := by
    rw [filterMap_finalScore?_entries, filterMap_finalScore?_entries, told, List.filterMap_append]
    rfl
  unfold gamesTold Shell.gamesOf
  rw [scores]
  split
  · rw [List.map_append]
    rfl
  · rfl

/-- From one desk to a later one nothing was recorded, and no final score was told. -/
structure Mute (desk later : Desk) : Prop where
  store_eq : later.service.store = desk.service.store
  told_eq : later.messages.filterMap Message.finalScore? =
    desk.messages.filterMap Message.finalScore?

theorem Said.mute {desk later : Desk} {messages : List Message} (said : desk.Said messages later)
    (untold : Untold messages) : desk.Mute later where
  store_eq := congrArg Service.store said.service_eq
  told_eq := by
    rw [said.messages_eq, List.filterMap_append, untold, List.append_nil]

theorem Stays.mute {desk later : Desk} (stays : desk.Stays later) : desk.Mute later :=
  ⟨stays.store_eq, congrArg _ stays.messages_eq⟩

theorem Drifts.mute {desk later : Desk} (drifts : desk.Drifts later) : desk.Mute later := by
  rcases drifts with ⟨messages, asides, said⟩
  exact said.mute asides.inside.untold

end Desk

namespace Shell

variable {origin : Store} {games : List GameRecord} {player : CodeText} {desk : Desk}
  {session : Session} {remaining : List Input} {delay : Delay}

/-- The store of a desk is the one of the start with other tables: those of the games
of the start and of all final scores that were told. -/
def Tallies (origin : Store) (games : List GameRecord) (player : CodeText) (desk : Desk) : Prop :=
  Exists fun tables => desk.service.store = origin.withTables tables ∧
    tables.Holds (games ++ gamesTold player desk.entries)

theorem Tallies.mute (tallies : Tallies origin games player desk) {later : Desk}
    (mute : desk.Mute later) : Tallies origin games player later := by
  rcases tallies with ⟨tables, stored, holds⟩
  refine ⟨tables, mute.store_eq.trans stored, ?_⟩
  rw [Desk.gamesTold_congr mute.told_eq]
  exact holds

/-- A session that is to be recorded under the name of the player. -/
structure Owes (player : CodeText) (session : Session) : Prop where
  user_eq : session.user = player
  unrecorded : session.stats = none

/-- What holds at a prompt with the lines still to be read. -/
inductive Awaits (player : CodeText) (remaining : List Input) : Phase -> Prop
  | naming (named : playerOf remaining = player) (few : (remaining.length : Int) < integerBound) :
      Awaits player remaining .naming
  | menu (isName : IsName player) (few : (remaining.length : Int) < integerBound) :
      Awaits player remaining (.menu player)
  | command {session : Session} (isName : IsName player) (owes : Owes player session)
      (few : (session.score : Int) + remaining.length < integerBound) :
      Awaits player remaining (.command player session)

/-- An answer leaves the tally right, and leads to a prompt or out of the shell. -/
structure Lands (origin : Store) (games : List GameRecord) (player : CodeText)
    (remaining : List Input) (next : Next) (desk : Desk) : Prop where
  tallies : Tallies origin games player desk
  awaits : forall phase, next = .await phase -> Awaits player remaining phase

/-- What may be recorded in. -/
structure Accepts (origin : Store) : Prop where
  isOpen : origin.isOpen = true
  writable : origin.writable = true

/-! ## Printing -/

theorem Tallies.print_untold (tallies : Tallies origin games player desk) (delay : Delay)
    {messages : List Message} (untold : Untold messages) :
    Leads (printAll delay messages) desk (fun _ => Tallies origin games player)
      (fun _ => Tallies origin games player) := by
  refine (leads_printAll delay messages desk).weaken
    (fun _ _ said => tallies.mute (said.mute untold)) ?_
  rintro _ later ⟨first, cut, said, _⟩
  exact tallies.mute (said.mute (untold.of_prefix cut))

theorem Tallies.goBack (tallies : Tallies origin games player desk) (isName : IsName player)
    (few : (remaining.length : Int) < integerBound) {act : Act Next}
    (back : GoesBack player act desk) :
    Leads act desk (Lands origin games player remaining)
      (fun _ => Tallies origin games player) := by
  refine back.weaken ?_ fun _ _ drifts => tallies.mute drifts.mute
  rintro _ later ⟨rfl, drifts⟩
  refine ⟨tallies.mute drifts.mute, ?_⟩
  rintro _ ⟨rfl⟩
  exact .menu isName few

theorem Tallies.toMenu (tallies : Tallies origin games player desk) (isName : IsName player)
    (few : (remaining.length : Int) < integerBound) (delay : Delay) :
    Leads (Shell.toMenu delay player) desk (Lands origin games player remaining)
      (fun _ => Tallies origin games player) :=
  tallies.goBack isName few (toMenu_goesBack delay player desk)

/-! ## Rounds -/

/-- A session that is finished leaves the tables of one more game, if there can be games
under the name. -/
theorem Settles.holds {tables after : Tables} {answer : Except StoreError PlayerStats}
    (settles : Settles tables session answer after) (holds : tables.Holds games) :
    after.Holds (games ++ gamesOf session.user [some session.score]) := by
  cases settles with
  | recorded encodable stats =>
      rw [gamesOf, if_pos encodable]
      exact holds.added session.user.toString session.score
  | refused halves =>
      rw [gamesOf, if_neg (Bool.eq_false_iff.mp halves), List.append_nil]
      exact holds

/-- The score that is told is the score that is recorded. -/
theorem Tallies.closeRound (tallies : Tallies origin games player desk) (accepts : Accepts origin)
    (isName : IsName player) (owes : Owes player session) (closes : Closes delay)
    (fits : (session.score : Int) < integerBound) (few : (remaining.length : Int) < integerBound) :
    Leads (Shell.closeRound delay player session) desk (Lands origin games player remaining)
      (fun _ => Tallies origin games player) := by
  refine (closes.leads_printAll session.score desk).unbroken.bind ?_
  intro _ told said
  rcases tallies with ⟨tables, stored, holds⟩
  have stored' : told.service.store = origin.withTables tables := by
    rw [said.service_eq, stored]
  have connected : told.service.store.tables = .ok tables := by
    rw [stored']
    exact Store.tables_of_isOpen rfl accepts.isOpen
  have writable : told.service.store.writable = true := by
    rw [stored']
    exact accepts.writable
  refine (leads_finishSession connected writable owes.unrecorded
    (owes.user_eq.symm ▸ isName) (storable_natCast fits)).unbroken.bind ?_
  rintro answer ended ⟨messages_eq, after, settles, stored''⟩
  have told_eq : ended.messages = desk.messages ++ [.timesUp, .finalScore session.score] :=
    messages_eq.trans said.messages_eq
  have tallies' : Tallies origin games player ended := by
    refine ⟨after, ?_, ?_⟩
    · rw [stored'', stored']
      rfl
    · have holds' := settles.holds holds
      rw [owes.user_eq, List.append_assoc] at holds'
      rw [Desk.gamesTold_finalScore told_eq]
      exact holds'
  cases settles with
  | recorded encodable stats =>
      refine (tallies'.print_untold delay (asides_statsMessages stats).inside.untold).bind ?_
      intro _ _ tallies''
      exact tallies''.toMenu isName few delay
  | refused halves =>
      refine (leads_print_aside delay rfl ended).andThen
        (fun _ _ drifts => tallies'.mute drifts.mute) ?_
      intro _ _ drifts
      exact (tallies'.mute drifts.mute).toMenu isName few delay

theorem Tallies.continueRound (tallies : Tallies origin games player desk)
    (accepts : Accepts origin) (isName : IsName player) (owes : Owes player session)
    (closes : Closes delay) (few : (session.score : Int) + remaining.length < integerBound) :
    Leads (Shell.continueRound delay player session) desk (Lands origin games player remaining)
      (fun _ => Tallies origin games player) := by
  unfold Shell.continueRound
  refine leads_get ?_
  dsimp only
  split
  · exact tallies.closeRound accepts isName owes closes (by omega) (by omega)
  · next left _ _ =>
      refine (leads_showQuestion delay session left desk).andThen
        (fun _ _ drifts => tallies.mute drifts.mute) ?_
      intro _ _ drifts
      refine leads_pure ⟨tallies.mute drifts.mute, ?_⟩
      rintro _ ⟨rfl⟩
      exact .command isName owes few
  · exact leads_throw tallies

theorem Tallies.startRound (tallies : Tallies origin games player desk) (accepts : Accepts origin)
    (isName : IsName player) (closes : Closes delay)
    (few : (remaining.length : Int) < integerBound) :
    Leads (Shell.startRound delay player) desk (Lands origin games player remaining)
      (fun _ => Tallies origin games player) := by
  refine (leads_startSession player desk _).bind ?_
  rintro answer between ⟨stays, fresh⟩
  have tallies' := tallies.mute stays.mute
  split
  · exact leads_throw tallies'
  · refine (leads_print_aside delay rfl between).andThen
      (fun _ _ drifts => tallies'.mute drifts.mute) ?_
    intro _ _ drifts
    exact (tallies'.mute drifts.mute).toMenu isName few delay
  · next session =>
      rcases fresh session rfl with ⟨user_eq, unrecorded, score_eq⟩
      split
      · exact leads_throw tallies'
      · next duration _ =>
          have untold : Untold [.roundLength duration, .roundRules] := rfl
          refine (tallies'.print_untold delay untold).bind ?_
          intro _ _ announced
          exact announced.continueRound accepts isName ⟨user_eq.trans isName.stripped, unrecorded⟩
            closes (by rw [score_eq]; omega)

/-! ## Answers -/

theorem Tallies.answerCommand (tallies : Tallies origin games player desk)
    (accepts : Accepts origin) (isName : IsName player) (owes : Owes player session)
    (closes : Closes delay) (typed : String)
    (few : (session.score : Int) + (remaining.length + 1) < integerBound) :
    Leads (Shell.answerCommand delay player session typed) desk
      (Lands origin games player remaining) (fun _ => Tallies origin games player) := by
  by_cases leaves : Leaves typed
  · exact tallies.goBack isName (by omega) (leave_goesBack leaves delay player session desk)
  · unfold Leaves at leaves
    unfold Shell.answerCommand
    rw [if_neg leaves]
    refine (leads_submitInput session typed desk).andThen
      (fun _ _ stays => tallies.mute stays.mute) ?_
    rintro ⟨_, verdict⟩ between ⟨stays, submission, submitted, rfl, answer⟩
    have inside := verdictMessages_inside verdict
    refine ((tallies.mute stays.mute).print_untold delay inside.untold).bind ?_
    intro _ _ told
    have owes' : Owes player submission.session :=
      ⟨submitted.owner_eq.1.trans owes.user_eq, submitted.owner_eq.2.trans owes.unrecorded⟩
    have few' := submitted.score_le
    split
    · exact told.closeRound accepts isName owes' closes (by omega) (by omega)
    · exact told.continueRound accepts isName owes' closes (by omega)

theorem Tallies.answerChoice (tallies : Tallies origin games player desk)
    (accepts : Accepts origin) (isName : IsName player) (closes : Closes delay) (typed : String)
    (few : (remaining.length : Int) < integerBound) :
    Leads (Shell.answerChoice delay player typed) desk (Lands origin games player remaining)
      (fun _ => Tallies origin games player) := by
  by_cases shows : Shows typed
  · exact tallies.goBack isName few (show_goesBack shows delay player desk)
  · unfold Shows at shows
    unfold Shell.answerChoice
    rw [not_or] at shows
    split
    · exact tallies.startRound accepts isName closes few
    · rw [if_neg shows.1, if_neg shows.2]
      split
      · exact leads_pure ⟨tallies, fun _ contrary => nomatch contrary⟩
      · refine (leads_print_aside delay rfl desk).andThen
          (fun _ _ drifts => tallies.mute drifts.mute) ?_
        intro _ _ drifts
        exact (tallies.mute drifts.mute).toMenu isName few delay

theorem Tallies.answerName (tallies : Tallies origin games player desk) {input : Input}
    (named : playerOf (input :: remaining) = player)
    (few : (remaining.length : Int) < integerBound) (delay : Delay) :
    Leads (Shell.answerName delay input.text) desk (Lands origin games player remaining)
      (fun _ => Tallies origin games player) := by
  rw [playerOf_cons] at named
  unfold Shell.answerName
  by_cases blank : Text.strip input.text.toString = ""
  · rw [if_pos blank] at named ⊢
    refine (leads_print_aside delay rfl desk).andThen
      (fun _ _ drifts => tallies.mute drifts.mute) ?_
    intro _ _ drifts
    refine leads_pure ⟨tallies.mute drifts.mute, ?_⟩
    rintro _ ⟨rfl⟩
    exact .naming named few
  · rw [if_neg blank] at named ⊢
    subst named
    exact tallies.toMenu (isName_strip blank) few delay

/-! ## Lines and plays -/

theorem Tallies.takeLine (tallies : Tallies origin games player desk) (accepts : Accepts origin)
    (closes : Closes delay) {phase : Phase} {input : Input}
    (awaits : Awaits player (input :: remaining) phase) :
    Leads (Shell.takeLine delay phase input) desk (Lands origin games player remaining)
      (fun _ => Tallies origin games player) := by
  have silent : forall later, desk.Said [] later -> Tallies origin games player later :=
    fun _ said => tallies.mute (said.mute rfl)
  refine leads_takeLine (fun _ => silent) fun between said => ?_
  have tallies' := silent between said
  cases awaits with
  | naming named few =>
      rw [List.length_cons] at few
      exact tallies'.answerName named (by omega) delay
  | menu isName few =>
      rw [List.length_cons] at few
      exact tallies'.answerChoice accepts isName closes input.text.toString (by omega)
  | command isName owes few =>
      rw [List.length_cons] at few
      exact tallies'.answerCommand accepts isName owes closes input.text.toString (by omega)

/-- Wherever a play ends, its tally is right. -/
theorem Tallies.playFrom (tallies : Tallies origin games player desk) (accepts : Accepts origin)
    (closes : Closes delay) {phase : Phase} {inputs : List Input}
    (awaits : Awaits player inputs phase) :
    Tallies origin games player (Shell.playFrom delay desk phase inputs).desk := by
  induction inputs generalizing desk phase with
  | nil => exact tallies.mute ((desk.said_asked phase.prompt).mute rfl)
  | cons input rest inductionHypothesis =>
      have step := (tallies.takeLine accepts closes awaits).outcome
      cases result : (Shell.takeLine delay phase input).run desk with
      | error cause reached =>
          rw [result] at step
          rw [playFrom_of_error result]
          exact step
      | ok next reached =>
          rw [result] at step
          cases next with
          | quit =>
              rw [playFrom_of_quit result]
              exact step.tallies
          | await phase' =>
              rw [playFrom_of_await result]
              exact inductionHypothesis step.tallies (step.awaits phase' rfl)

end Shell
end ModalDrill
