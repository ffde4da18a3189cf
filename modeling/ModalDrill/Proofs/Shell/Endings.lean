import ModalDrill.Proofs.Shell.Steadiness
import ModalDrill.Proofs.Shell.Whole

namespace ModalDrill
namespace Shell

/-!
# The ends of a play

A play reads its lines in order, each at a prompt of its own, and ends in one of two
ways: it is left at the menu, with the rest of the lines unread, or the lines run
out while it waits at one more prompt.  It breaks off only at the menu, for a name
without a form in bytes or a round that is too long for the clock.  The clock may stand
still or go back, so nothing is said about how long a round takes.
-/

/-- The ways in which a play ends, with the lines that it consumed, the prompts that it
put, and the lines that are left. -/
inductive Ends (origin : Service) (player : CodeText) (consumed : List Input)
    (asked : List Prompt) (unread : List Input) : Ending -> Prop
  | quit (same : asked.length = consumed.length) : Ends origin player consumed asked unread .quit
  | linesExhausted (none : unread = []) (more : asked.length = consumed.length + 1) :
      Ends origin player consumed asked unread .linesExhausted
  | failed {cause : Failure} {input : Input} (same : asked.length = consumed.length)
      (last : consumed.getLast? = some input) (atMenu : asked.getLast? = some .choice)
      (breaks : Breaks origin player input.text.toString cause) :
      Ends origin player consumed asked unread (.failed cause)

/-- What a play makes of its lines: those that it consumes, and the prompts it puts. -/
structure Proceeds (origin : Service) (player : CodeText) (inputs consumed : List Input)
    (asked : List Prompt) (outcome : Outcome) : Prop where
  split : inputs = consumed ++ outcome.unread
  ends : Ends origin player consumed asked outcome.unread outcome.ending
  quits : forall place input, consumed[place]? = some input ->
    (asked[place]? = some .choice ∧ folded input.text.toString = "q" ↔
      outcome.ending = .quit ∧ place + 1 = consumed.length)
  returns : forall place input, consumed[place]? = some input -> asked[place]? = some .choice ->
    folded input.text.toString = "1" -> origin.bank.questions = [] ->
    asked[place + 1]? = some .choice
  refuses : forall place input, consumed[place]? = some input -> asked[place]? = some .choice ->
    folded input.text.toString = "3" -> player.isEncodable = false ->
    outcome.ending = .failed (.store (.unencodable player)) ∧ place + 1 = consumed.length

variable {origin : Service} {player : CodeText} {inputs consumed rest : List Input}
  {asked prompts : List Prompt} {outcome : Outcome} {desk : Desk} {delay : Delay}
  {phase : Phase} {input : Input}

/-- One more line in front of a play leaves it its end. -/
theorem Ends.cons {unread : List Input} {ending : Ending} {prompt : Prompt}
    (ends : Ends origin player consumed asked unread ending) :
    Ends origin player (input :: consumed) (prompt :: asked) unread ending := by
  cases ends with
  | quit same => exact .quit (congrArg Nat.succ same)
  | linesExhausted none more => exact .linesExhausted none (congrArg Nat.succ more)
  | failed same last atMenu breaks =>
      refine .failed (congrArg Nat.succ same) ?_ ?_ breaks
      · rw [List.getLast?_cons, last, Option.getD_some]
      · rw [List.getLast?_cons, atMenu, Option.getD_some]

namespace Proceeds

/-- Only a line can lead out of the shell. -/
theorem consumed_ne_nil (proceeds : Proceeds origin player inputs consumed asked outcome)
    (filled : asked ≠ []) (quit : outcome.ending = .quit) : consumed ≠ [] := by
  rintro rfl
  have ends := proceeds.ends
  rw [quit] at ends
  cases ends with
  | quit same => exact filled (List.length_eq_zero_iff.mp same)

theorem nil (origin : Service) (player : CodeText) (phase : Phase) (desk : Desk) :
    Proceeds origin player [] [] [phase.prompt] ⟨desk, .linesExhausted, []⟩ where
  split := rfl
  ends := .linesExhausted rfl rfl
  quits := fun _ _ contrary => nomatch contrary
  returns := fun _ _ contrary => nomatch contrary
  refuses := fun _ _ contrary => nomatch contrary

theorem quit {remaining : List Input}
    (answers : Answers origin player remaining phase.prompt input.text.toString .quit)
    (rest : List Input) (desk : Desk) :
    Proceeds origin player (input :: rest) [input] [phase.prompt] ⟨desk, .quit, rest⟩ where
  split := rfl
  ends := .quit rfl
  quits := by
    intro place line listed
    cases place with
    | zero =>
        cases listed
        have left := answers.quits.mp rfl
        exact ⟨fun _ => ⟨rfl, rfl⟩, fun _ => ⟨congrArg some left.1, left.2⟩⟩
    | succ place => cases listed
  returns := by
    intro place line listed atMenu play empty
    cases place with
    | zero =>
        cases listed
        cases answers.returns (Option.some.inj atMenu) play empty
    | succ place => cases listed
  refuses := by
    intro place line listed atMenu stats halves
    cases place with
    | zero =>
        cases listed
        rw [answers.encodable (Option.some.inj atMenu) stats] at halves
        cases halves
    | succ place => cases listed

/-- A line at which a play breaks off is its last. -/
theorem failed {cause : Failure} (atMenu : phase.prompt = .choice)
    (breaks : Breaks origin player input.text.toString cause) (rest : List Input) (desk : Desk) :
    Proceeds origin player (input :: rest) [input] [phase.prompt] ⟨desk, .failed cause, rest⟩ where
  split := rfl
  ends := .failed rfl rfl (congrArg some atMenu) breaks
  quits := by
    intro place line listed
    cases place with
    | zero =>
        cases listed
        constructor
        · rintro ⟨_, typed⟩
          cases breaks with
          | stats asked => exact absurd (typed.symm.trans asked) (by decide)
          | play asked => exact absurd (typed.symm.trans asked) (by decide)
        · rintro ⟨⟨⟩, _⟩
    | succ place => cases listed
  returns := by
    intro place line listed _ play empty
    cases place with
    | zero =>
        cases listed
        cases breaks with
        | stats asked => exact absurd (play.symm.trans asked) (by decide)
        | play _ filled => exact absurd empty filled
    | succ place => cases listed
  refuses := by
    intro place line listed _ typed _
    cases place with
    | zero =>
        cases listed
        cases breaks with
        | stats => exact ⟨rfl, rfl⟩
        | play asked => exact absurd (typed.symm.trans asked) (by decide)
    | succ place => cases listed

/-- One more line in front of a play. -/
theorem cons {remaining : List Input} {phase' : Phase}
    (answers : Answers origin player remaining phase.prompt input.text.toString (.await phase'))
    (proceeds : Proceeds origin player rest consumed asked outcome)
    (next : asked.head? = some phase'.prompt) :
    Proceeds origin player (input :: rest) (input :: consumed) (phase.prompt :: asked) outcome where
  split := congrArg (List.cons input) proceeds.split
  ends := proceeds.ends.cons
  quits := by
    intro place line listed
    cases place with
    | zero =>
        cases listed
        constructor
        · rintro ⟨atMenu, typed⟩
          cases answers.quits.mpr ⟨Option.some.inj atMenu, typed⟩
        · rintro ⟨quit, last⟩
          have filled : asked ≠ [] := by
            rintro rfl
            cases next
          exact absurd (List.length_eq_zero_iff.mp (Nat.succ.inj last).symm)
            (proceeds.consumed_ne_nil filled quit)
    | succ place =>
        rw [List.getElem?_cons_succ] at listed
        rw [List.getElem?_cons_succ, proceeds.quits place line listed, List.length_cons,
          Nat.add_right_cancel_iff]
  returns := by
    intro place line listed atMenu play empty
    rw [List.getElem?_cons_succ]
    cases place with
    | zero =>
        cases listed
        cases answers.returns (Option.some.inj atMenu) play empty
        rw [← List.head?_eq_getElem?, next]
        rfl
    | succ place => exact proceeds.returns place line listed atMenu play empty
  refuses := by
    intro place line listed atMenu stats halves
    cases place with
    | zero =>
        cases listed
        rw [answers.encodable (Option.some.inj atMenu) stats] at halves
        cases halves
    | succ place =>
        rcases proceeds.refuses place line listed atMenu stats halves with ⟨failed, last⟩
        exact ⟨failed, congrArg Nat.succ last⟩

end Proceeds

/-- From a steady prompt a play goes on to one of its ends.  At each line that it
consumes it has put the prompts up to the one of that line. -/
theorem Works.playFrom (works : Works origin player prompts desk) (smooth : Smooth origin delay)
    (pauses : forall input, input ∈ inputs -> input.pause.toBinary64? ≠ none)
    (steady : Steady origin player inputs phase) :
    Exists fun consumed => Exists fun asked =>
      Works origin player (prompts ++ asked) (Shell.playFrom delay desk phase inputs).desk ∧
        asked.head? = some phase.prompt ∧
        Proceeds origin player inputs consumed asked (Shell.playFrom delay desk phase inputs) ∧
        forall place, place < consumed.length ->
          (Shell.playFrom delay desk phase (inputs.take place)).ending = .linesExhausted ∧
            (Shell.playFrom delay desk phase (inputs.take place)).desk.prompts =
              prompts ++ asked.take (place + 1) := by
  induction inputs generalizing desk phase prompts with
  | nil =>
      refine ⟨[], [phase.prompt], ?_, rfl, .nil origin player phase _, ?_⟩
      · exact works.add (.asked phase.prompt) fun _ contrary => nomatch contrary
      · exact fun _ contrary => absurd contrary (Nat.not_lt_zero _)
  | cons input rest inductionHypothesis =>
      have start : (Shell.playFrom delay desk phase []).desk.prompts =
          prompts ++ [phase.prompt] := by
        rw [Shell.playFrom, Desk.prompts_add, works.prompts_eq]
        rfl
      have first : forall place, place < 1 ->
          (Shell.playFrom delay desk phase ((input :: rest).take place)).ending = .linesExhausted ∧
            (Shell.playFrom delay desk phase ((input :: rest).take place)).desk.prompts =
              prompts ++ [phase.prompt].take (place + 1) := by
        intro place first
        rw [Nat.lt_one_iff.mp first]
        exact ⟨rfl, start⟩
      have step := (works.takeLine smooth (pauses input List.mem_cons_self) steady).outcome
      cases result : (Shell.takeLine delay phase input).run desk with
      | error cause reached =>
          rw [result] at step
          rcases step with ⟨works', atMenu, breaks⟩
          rw [playFrom_of_error result]
          exact ⟨[input], [phase.prompt], works', rfl, .failed atMenu breaks rest _, first⟩
      | ok next reached =>
          rw [result] at step
          rcases step with ⟨works', answers⟩
          cases next with
          | quit =>
              rw [playFrom_of_quit result]
              exact ⟨[input], [phase.prompt], works', rfl, .quit answers rest _, first⟩
          | await phase' =>
              rcases inductionHypothesis works'
                (fun other listed => pauses other (List.mem_cons_of_mem input listed))
                (answers.steady phase' rfl) with ⟨consumed, asked, reached', next, proceeds, waits⟩
              rw [playFrom_of_await result]
              refine ⟨input :: consumed, phase.prompt :: asked, ?_, rfl,
                proceeds.cons answers next, ?_⟩
              · rw [List.append_cons]
                exact reached'
              · intro place before
                cases place with
                | zero => exact ⟨rfl, start⟩
                | succ place =>
                    rw [List.take_succ_cons, playFrom_of_await result, List.take_succ_cons,
                      List.append_cons]
                    exact waits place (Nat.lt_of_succ_lt_succ before)

theorem new_works (draws : Draws) {service : Service} {tables : Tables}
    (connected : service.store.tables = .ok tables) (writable : service.store.writable = true)
    (player : CodeText) : Works service player [] (Desk.new service draws) where
  bank_eq := rfl
  duration_eq := rfl
  connected := ⟨tables, connected⟩
  writable := writable
  prompts_eq := rfl
  saved := fun _ contrary => nomatch contrary

/-- With questions that all have an answer, a store that works and a clock that can
make its moves, a play ends in one of two ways.  It is left at the menu, where the
last line that it consumed is the word for it, and the other lines are not read; or
all lines are consumed, and it waits at one more prompt.  Else it has broken off at the
menu: where the aggregate of a name without a form in bytes was asked for, as always
then, or a round that is longer than any floating number.  Nothing else ends it, so no
finished session was asked for a verdict.  Each line is consumed at its own prompt,
which is put when exactly the lines before it have been consumed.  A round without
questions leads back to the menu, and no score was lost but under a name without a form
in bytes.  There are fewer lines than `2 ^ 63`, more than any list has. -/
theorem play_ends_in_order (delay : Delay) (draws : Draws) (service : Service)
    (smooth : Smooth service delay) (tables : Tables)
    (connected : service.store.tables = .ok tables) (writable : service.store.writable = true)
    (inputs : List Input)
    (pauses : forall input, input ∈ inputs -> input.pause.toBinary64? ≠ none)
    (few : (inputs.length : Int) < integerBound) :
    let outcome := play delay draws service inputs
    let asked := outcome.desk.prompts
    let player := playerOf inputs
    Exists fun consumed => inputs = consumed ++ outcome.unread ∧
      Ends service player consumed asked outcome.unread outcome.ending ∧
      (outcome.ending = .quit ↔ Exists fun input => consumed.getLast? = some input ∧
        asked[consumed.length - 1]? = some .choice ∧ folded input.text.toString = "q") ∧
      (forall place, place < consumed.length ->
        (play delay draws service (inputs.take place)).ending = .linesExhausted ∧
          (play delay draws service (inputs.take place)).desk.prompts = asked.take (place + 1)) ∧
      (forall place input, consumed[place]? = some input -> asked[place]? = some .choice ->
        (folded input.text.toString = "1" -> service.bank.questions = [] ->
          asked[place + 1]? = some .choice) ∧
        (folded input.text.toString = "3" -> player.isEncodable = false ->
          outcome.ending = .failed (.store (.unencodable player)) ∧
            place + 1 = consumed.length)) ∧
      forall cause, .printed (.notSaved cause) ∈ outcome.desk.entries ->
        cause = .unencodable player ∧ player.isEncodable = false := by
  intro outcome asked player
  have start := new_works draws connected writable player
  rcases start.playFrom smooth pauses (.naming rfl few) with
    ⟨consumed, asked', works, first, proceeds, waits⟩
  have same : asked = asked' := works.prompts_eq
  have filled : asked' ≠ [] := by
    rintro rfl
    cases first
  rw [same]
  refine ⟨consumed, proceeds.split, proceeds.ends, ?_, waits, ?_, ?_⟩
  · rw [List.getLast?_eq_getElem?]
    constructor
    · intro quit
      have nonempty := List.length_pos_iff.mpr (proceeds.consumed_ne_nil filled quit)
      have inside : consumed.length - 1 < consumed.length := by omega
      have last := List.getElem?_eq_getElem inside
      exact ⟨_, last, (proceeds.quits _ _ last).mpr ⟨quit, by omega⟩⟩
    · rintro ⟨input, last, left⟩
      exact ((proceeds.quits _ _ last).mp left).1
  · intro place input listed atMenu
    exact ⟨proceeds.returns place input listed atMenu, proceeds.refuses place input listed atMenu⟩
  · intro cause listed
    have noticed := works.saved _ listed rfl
    unfold notices at noticed
    split at noticed
    · cases noticed
    · next halves =>
        cases List.mem_singleton.mp noticed
        exact ⟨rfl, Bool.eq_false_iff.mpr halves⟩

/-- A round on a clock that first goes back and then past the deadline, and a word in
capitals at the menu behind it; one more line is not read. -/
theorem play_ends_in_order_unread :
    let delay : Delay := fun entries =>
      if entries.getLast? = some (.printed .timesUp) then [.whole (-3)] else []
    let draws : Draws := fun entries => Sampler.rotation (entries.count (.asked .choice))
    let tables : Tables := ⟨[⟨"bob", 1, 2⟩], [⟨"bob", 2⟩]⟩
    let service : Service :=
      ⟨⟨["one two".toList], [⟨"q", "Delete the line.", ["dd"]⟩]⟩, 2, Sampler.rotation 0, none,
        ⟨⟨1, [1], some tables⟩, false, true, true⟩⟩
    let inputs : List Input :=
      [⟨" ann ", 0⟩, ⟨"1", 0⟩, ⟨"dd", .whole (-5)⟩, ⟨"x", 9⟩, ⟨" Q ", 0⟩, ⟨"1", 0⟩]
    Smooth service delay ∧ service.store.tables = .ok tables ∧ service.store.writable = true ∧
      (forall input, input ∈ inputs -> input.pause.toBinary64? ≠ none) ∧
      (inputs.length : Int) < integerBound ∧
      (play delay draws service inputs).unread = [⟨"1", 0⟩] ∧
      (play delay draws service inputs).desk.prompts.length = 5 ∧
      forall cause,
        .printed (.notSaved cause) ∉ (play delay draws service inputs).desk.entries := by
  intro delay draws tables service inputs
  have smooth : Smooth service delay := by
    refine ⟨?_, ?_⟩
    · intro question listed
      rw [List.mem_singleton.mp listed]
      decide
    · intro message entries seconds listed
      dsimp only [delay] at listed
      split at listed
      · rw [List.mem_singleton.mp listed]
        decide +kernel
      · cases listed
  have pauses : forall input, input ∈ inputs -> input.pause.toBinary64? ≠ none := by
    decide +kernel
  have few : (inputs.length : Int) < integerBound := by decide
  rcases play_ends_in_order delay draws service smooth tables rfl rfl inputs pauses few with
    ⟨consumed, split, ends, _, _, _, saved⟩
  have unread : (play delay draws service inputs).unread = [⟨"1", 0⟩] := by decide +kernel
  have encodable : (playerOf inputs).isEncodable = true := by decide +kernel
  refine ⟨smooth, rfl, rfl, pauses, few, unread, by decide +kernel, fun cause listed => ?_⟩
  exact Bool.false_ne_true ((saved cause listed).2.symm.trans encodable)

/-- A play may end in another way: half a pair of surrogates as a name lets it break off
where its aggregate is asked for, and a database that may only be read lets it break off
at the end of a round. -/
theorem play_breaks_off :
    let service : Bool -> Service := fun writable =>
      ⟨⟨["one two".toList], [⟨"q", "Delete the line.", ["dd"]⟩]⟩, 2, Sampler.rotation 0, none,
        ⟨⟨1, [1], some Tables.empty⟩, false, writable, true⟩⟩
    let played : Bool -> List Input -> Outcome := fun writable =>
      play (fun _ => []) (fun _ => Sampler.rotation 0) (service writable)
    let half : CodeText := ⟨[.surrogate 0xD800]⟩
    (played true [⟨half, 0⟩, ⟨"3", 0⟩]).ending = .failed (.store (.unencodable half)) ∧
      (played false [⟨"ann", 0⟩, ⟨"1", 0⟩, ⟨"x", 3⟩]).ending = .failed (.store .readOnly) := by
  decide +kernel

end Shell
end ModalDrill
