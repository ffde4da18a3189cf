import Mathlib.Data.List.DropRight
import ModalDrill.Proofs.Command.Run
import ModalDrill.Proofs.Service.Start
import ModalDrill.Proofs.Session.History
import ModalDrill.Proofs.Session.Submission
import ModalDrill.Proofs.Text.Stripping

namespace ModalDrill

/-!
# The text of a round is a replay

A command is applied when it is judged, and only then.  So the inputs that were
judged wrong or correct are all that the buffer and the register of a round come
from: typed one after the other into a fresh buffer with an empty register, and
with a fresh buffer after each correct one, they give both back.  The buffer
lasts from one correct answer to the next, the register through the round.
-/

theorem Command.parse_strip (input : String) : parse (Text.strip input) = parse input := by
  unfold parse split
  rw [Text.toList_strip, Text.trim_trim]

namespace Editor

/-- Type an input again, of which it is known if it was correct.  A correct one
makes room for the next question, and the register stays. -/
def retype (sampleText : List Line) (editor : Editor) (input : String × Bool) :
    Except ReachError Editor := do
  let edited <- editor.tryType input.1
  return if input.2 then { edited with buffer := Buffer.fresh sampleText } else edited

/-- Type judged inputs again, from a fresh buffer and an empty register on. -/
def replay (sampleText : List Line) (inputs : List (String × Bool)) : Except ReachError Editor :=
  inputs.foldlM (retype sampleText) ⟨Buffer.fresh sampleText, none⟩

/-- The inputs up to the last correct one. -/
def settled (inputs : List (String × Bool)) : List (String × Bool) :=
  inputs.rdropWhile fun input => !input.2

/-- The texts that were judged wrong after the last correct one. -/
def pending (inputs : List (String × Bool)) : List String :=
  (inputs.rtakeWhile fun input => !input.2).map Prod.fst

theorem type_strip (editor : Editor) (input : String) :
    editor.type (Text.strip input) = editor.type input := by
  rw [type, Command.parse_strip, type]

theorem tryType_strip (editor : Editor) (input : String) :
    editor.tryType (Text.strip input) = editor.tryType input := by
  rw [tryType, Command.parse_strip, tryType]

theorem retype_of_typed {editor edited : Editor} {text : String}
    (typed : editor.tryType text = .ok edited) (sampleText : List Line) (correct : Bool) :
    editor.retype sampleText (text, correct) =
      .ok (if correct then { edited with buffer := Buffer.fresh sampleText } else edited) := by
  unfold retype
  dsimp only
  rw [typed]
  exact pure_bind edited _

theorem retype_wrong (sampleText : List Line) (editor : Editor) (text : String) :
    editor.retype sampleText (text, false) = editor.tryType text := by
  unfold retype
  exact bind_pure _

theorem retype_correct {sampleText : List Line} {editor edited : Editor} {text : String}
    (retyped : editor.retype sampleText (text, true) = .ok edited) :
    edited.buffer = Buffer.fresh sampleText := by
  unfold retype at retyped
  rcases typed : editor.tryType text with cause | next
  · rw [typed] at retyped
    cases retyped
  · rw [typed] at retyped
    cases retyped
    rfl

theorem replay_append (sampleText : List Line) (inputs : List (String × Bool))
    (input : String × Bool) :
    replay sampleText (inputs ++ [input]) =
      replay sampleText inputs >>= fun editor => editor.retype sampleText input := by
  unfold replay
  rw [List.foldlM_append]
  simp only [List.foldlM_cons, List.foldlM_nil, bind_pure]

theorem tryTypeAll_append (editor : Editor) (inputs : List String) (typed : String) :
    editor.tryTypeAll (inputs ++ [typed]) =
      editor.tryTypeAll inputs >>= fun editor => editor.tryType typed := by
  unfold tryTypeAll
  rw [List.foldlM_append]
  simp only [List.foldlM_cons, List.foldlM_nil, bind_pure]

/-- A replay types what is pending into a fresh buffer.  All that was settled
before comes down to the register that it leaves. -/
theorem replay_from_settled {sampleText : List Line} {inputs : List (String × Bool)}
    {editor : Editor} (replayed : replay sampleText inputs = .ok editor) :
    Exists fun register =>
      replay sampleText (settled inputs) = .ok ⟨Buffer.fresh sampleText, register⟩ ∧
        (Editor.mk (Buffer.fresh sampleText) register).tryTypeAll (pending inputs) =
          .ok editor := by
  -- From the right: a correct input settles all before it, a wrong one is pending.
  induction inputs using List.reverseRecOn generalizing editor with
  | nil => exact ⟨none, rfl, replayed⟩
  | append_singleton inputs input inductionHypothesis =>
      rcases input with ⟨text, correct⟩
      have whole := replayed
      rw [replay_append] at replayed
      rcases before : replay sampleText inputs with cause | middle
      · rw [before] at replayed
        cases replayed
      · rw [before] at replayed
        have replayed := (pure_bind middle _).symm.trans replayed
        cases correct with
        | true =>
            have settled_eq : settled (inputs ++ [(text, true)]) = inputs ++ [(text, true)] :=
              List.rdropWhile_concat_neg _ _ _ Bool.false_ne_true
            have pending_eq : pending (inputs ++ [(text, true)]) = [] :=
              congrArg (List.map Prod.fst) (List.rtakeWhile_concat_neg _ _ _ Bool.false_ne_true)
            rw [settled_eq, pending_eq, whole, ← retype_correct replayed]
            exact ⟨editor.register, rfl, rfl⟩
        | false =>
            have settled_eq : settled (inputs ++ [(text, false)]) = settled inputs :=
              List.rdropWhile_concat_pos _ _ _ rfl
            have pending_eq : pending (inputs ++ [(text, false)]) = pending inputs ++ [text] := by
              unfold pending
              rw [List.rtakeWhile_concat_pos _ _ _ rfl, List.map_append]
              rfl
            rcases inductionHypothesis before with ⟨register, carried, typed⟩
            rw [retype_wrong] at replayed
            refine ⟨register, settled_eq ▸ carried, ?_⟩
            rw [pending_eq, tryTypeAll_append, typed]
            exact (pure_bind middle _).trans replayed

end Editor

/-- Was a command judged, and was it correct? -/
def Outcome.judgement? : Outcome -> Option Bool
  | wrong _ => some false
  | correct .. => some true
  | _ => none

/-- A submission that is judged carries its input out once, and the buffer of the
verdict is the one right after it.  No other submission touches the text. -/
theorem Session.Submitted.judgement_cases {session : Session} {register : Option Line}
    {now : Seconds} {typed : String} {submission : Submission}
    (submitted : session.Submitted register now typed submission) :
    (Exists fun verdict => Exists fun correct =>
      submission.result = .ok verdict ∧ verdict.outcome.judgement? = some correct ∧
        verdict.buffer = (session.edited register typed).buffer ∧
        submission.session.buffer =
          (if correct then Buffer.fresh session.sampleText
            else (session.edited register typed).buffer) ∧
        submission.register = (session.edited register typed).register) ∨
      ((submission.result.toOption.bind fun verdict => verdict.outcome.judgement?) = none ∧
        submission.session.buffer = session.buffer ∧ submission.register = register) := by
  cases submitted with
  | wrong =>
      dsimp only
      refine Or.inl ⟨_, false, rfl, rfl, ?_, ?_, rfl⟩
      · rw [Session.verdict_buffer, Session.applied_buffer]
      · rw [if_neg Bool.false_ne_true, Session.applied_buffer]
  | correct =>
      dsimp only
      refine Or.inl ⟨_, true, rfl, rfl, ?_, ?_, rfl⟩
      · rw [Session.verdict_buffer, Session.applied_buffer]
      · rw [if_pos rfl, Session.advance, Session.credit, Session.applied_sampleText]
  | _ => exact Or.inr ⟨rfl, rfl, rfl⟩

namespace Round

/-- Only the register can be written from outside. -/
def Event.isInner : Event -> Bool
  | setRegister _ => false
  | _ => true

/-- What commands work on in a round. -/
def editor (round : Round) : Editor :=
  ⟨round.session.buffer, round.register⟩

theorem editor_buffer (round : Round) : round.editor.buffer = round.session.buffer :=
  rfl

/-- The input of an event if it is judged, and if it is correct. -/
def judged? (round : Round) : Event -> Option (String × Bool)
  | .submit input =>
      ((verdict? (round.answer (.submit input))).bind fun verdict =>
        verdict.outcome.judgement?).map fun correct => (input, correct)
  | _ => none

/-- All inputs that are judged on the way through a list of events. -/
def judged (round : Round) : List Event -> List (String × Bool)
  | [] => []
  | event :: rest => (round.judged? event).toList ++ (round.after event).judged rest

theorem judged_append (round : Round) (events later : List Event) :
    round.judged (events ++ later) = round.judged events ++ (round.run events).judged later := by
  induction events generalizing round with
  | nil => rfl
  | cons event rest inductionHypothesis =>
      rw [List.cons_append, judged, judged, inductionHypothesis, List.append_assoc]
      rfl

/-- What an event does to the text.  Without a judgement it leaves the buffer and
the register alone.  With one, its input is carried out once; the verdict has the
buffer right after it, and the round goes on from there or, after a correct one,
from a fresh buffer. -/
inductive Edits (round : Round) (event : Event) : Option (String × Bool) -> Prop
  | untouched (editor_eq : (round.after event).editor = round.editor) : Edits round event none
  | applied {input : String} {correct : Bool} {edited : Editor} {verdict : Verdict}
      (typed : round.editor.tryType input = .ok edited)
      (answer : round.answer event = .ok (some verdict))
      (shown : verdict.buffer = edited.buffer)
      (editor_eq : (round.after event).editor =
        if correct then { edited with buffer := Buffer.fresh round.session.sampleText }
        else edited) :
      Edits round event (some (input, correct))

/-- The text that every question starts on never changes. -/
theorem after_sampleText (round : Round) (event : Event) :
    (round.after event).session.sampleText = round.session.sampleText := by
  cases event with
  | submit input =>
      exact (round.session.submit_submitted round.register round.clock input).terms_eq.2.1
  | _ => rfl

private theorem submit_edits {round : Round} (near : round.session.buffer.Near) (input : String) :
    round.Edits (.submit input) (round.judged? (.submit input)) := by
  have typed : round.editor.tryType input =
      .ok (round.session.edited round.register (Text.strip input)) := by
    rw [Session.edited, Editor.type_strip]
    exact Editor.tryType_of_near near input
  have submitted := round.session.submit_submitted round.register round.clock input
  generalize result : round.session.submit round.register round.clock input = submission
    at submitted
  have later : (round.after (.submit input)).editor =
      ⟨submission.session.buffer, submission.register⟩ := by
    rw [← result]
    rfl
  rw [judged?, verdict?_submit, result]
  rcases submitted.judgement_cases with
    ⟨verdict, correct, judged, known, shown, buffer, register⟩ | ⟨none, buffer, register⟩
  · have answer : round.answer (.submit input) = .ok (some verdict) := by
      dsimp only [Round.answer]
      rw [result, judged]
    rw [judged]
    dsimp only [Except.toOption, Option.bind_some]
    rw [known]
    refine .applied typed answer shown ?_
    generalize round.session.edited round.register (Text.strip input) = edited at buffer register ⊢
    rw [later, buffer, register]
    cases correct <;> rfl
  · rw [none]
    refine .untouched ?_
    rw [later, buffer, register]
    rfl

theorem after_edits {round : Round} (near : round.session.buffer.Near) {event : Event}
    (inner : event.isInner = true) : round.Edits event (round.judged? event) := by
  cases event with
  | submit input => exact submit_edits near input
  | wait seconds => exact .untouched rfl
  | finish => exact .untouched rfl
  | setRegister line => cases inner

/-- The cursor stays near the text, be it the one that was edited or a fresh one. -/
theorem Edits.near {round : Round} (near : round.session.buffer.Near) {event : Event}
    {found : Option (String × Bool)} (edits : round.Edits event found) :
    (round.after event).session.buffer.Near := by
  cases edits with
  | untouched editor_eq =>
      rw [← editor_buffer, editor_eq]
      exact near
  | @applied input correct edited verdict typed answer shown editor_eq =>
      rw [← editor_buffer, editor_eq]
      cases correct with
      | true =>
          rw [if_pos rfl]
          exact (Buffer.fresh_resting round.session.sampleText).near
      | false =>
          rw [if_neg Bool.false_ne_true]
          rw [Editor.tryType_of_near near] at typed
          rw [← Except.ok.inj typed]
          exact Editor.type_near near input

theorem after_near {round : Round} (near : round.session.buffer.Near) (event : Event) :
    (round.after event).session.buffer.Near := by
  cases event with
  | setRegister line => exact near
  | _ => exact Edits.near near (after_edits near rfl)

/-- Through every event of a round the cursor stays near the text, also if its register
is written from outside. -/
theorem run_near {round : Round} (near : round.session.buffer.Near) (events : List Event) :
    (round.run events).session.buffer.Near := by
  induction events generalizing round with
  | nil => exact near
  | cons event rest inductionHypothesis => exact inductionHypothesis (after_near near event)

/-- A round whose text is a replay.  The cursor is near the text, so that no
command of the replay is refused. -/
structure Replays (sampleText : List Line) (inputs : List (String × Bool)) (round : Round) :
    Prop where
  sampleText_eq : round.session.sampleText = sampleText
  near : round.session.buffer.Near
  replay_eq : Editor.replay sampleText inputs = .ok round.editor

theorem begins_of_start {user : CodeText} {questions : List Question} {sampleText : List Line}
    {duration now : Seconds} {round : Round}
    (started : Round.start user questions sampleText duration now = .ok round) :
    round.session.Begins user questions sampleText duration now ∧ round.register = none := by
  unfold Round.start at started
  rcases begun : Session.start user questions sampleText duration now with cause | session
  · rw [begun] at started
    cases started
  · rw [begun] at started
    cases started
    exact ⟨Session.begins_of_start begun, rfl⟩

theorem Replays.start {user : CodeText} {questions : List Question} {sampleText : List Line}
    {duration now : Seconds} {round : Round}
    (started : Round.start user questions sampleText duration now = .ok round) :
    Replays sampleText [] round := by
  rcases begins_of_start started with ⟨begins, empty⟩
  refine ⟨begins.sampleText_eq, ?_, ?_⟩
  · rw [begins.buffer_eq]
    exact (Buffer.fresh_resting sampleText).near
  · rw [editor, begins.buffer_eq, empty]
    rfl

theorem Replays.after {sampleText : List Line} {inputs : List (String × Bool)} {round : Round}
    (replays : Replays sampleText inputs round) {event : Event} (inner : event.isInner = true) :
    Replays sampleText (inputs ++ (round.judged? event).toList) (round.after event) := by
  have edits := after_edits replays.near inner
  refine ⟨(round.after_sampleText event).trans replays.sampleText_eq, Edits.near replays.near edits, ?_⟩
  generalize round.judged? event = found at edits ⊢
  cases edits with
  | untouched editor_eq =>
      rw [Option.toList_none, List.append_nil, editor_eq]
      exact replays.replay_eq
  | @applied input correct edited verdict typed answer shown editor_eq =>
      have retyped := Editor.retype_of_typed typed sampleText correct
      rw [replays.sampleText_eq] at editor_eq
      rw [Option.toList_some, Editor.replay_append, replays.replay_eq, editor_eq]
      exact (pure_bind round.editor _).trans retyped

theorem Replays.run {sampleText : List Line} {round : Round} (replays : Replays sampleText [] round)
    {events : List Event} (inner : forall event, event ∈ events -> event.isInner = true) :
    Replays sampleText (round.judged events) (round.run events) := by
  induction events using List.reverseRecOn with
  | nil => exact replays
  | append_singleton events event inductionHypothesis =>
      have inner' := List.forall_mem_append.mp inner
      have one : (round.run events).judged [event] = ((round.run events).judged? event).toList :=
        List.append_nil _
      rw [judged_append, one, run_append]
      exact (inductionHypothesis inner'.1).after (inner'.2 event (List.mem_singleton.mpr rfl))

/-- The buffer and the register of a round are a replay of the inputs judged so
far, and no command of it is refused; the buffer alone comes from those after the
last correct one, with the register of that moment.  What an event does is said
by `Edits`.  A service that starts a session begins such a round with an empty
register, whatever its register held before. -/
theorem run_replays {user : CodeText} {questions : List Question} {sampleText : List Line}
    {duration now : Seconds} {round : Round}
    (started : Round.start user questions sampleText duration now = .ok round)
    {events : List Event} (inner : forall event, event ∈ events -> event.isInner = true) :
    let played := round.run events
    let inputs := round.judged events
    Editor.replay sampleText inputs = .ok ⟨played.session.buffer, played.register⟩ ∧
      (Exists fun register =>
        Editor.replay sampleText (Editor.settled inputs) =
            .ok ⟨Buffer.fresh sampleText, register⟩ ∧
          (Editor.mk (Buffer.fresh sampleText) register).tryTypeAll (Editor.pending inputs) =
            .ok ⟨played.session.buffer, played.register⟩) ∧
      played.session.sampleText = sampleText ∧
      (forall event, event.isInner = true -> played.Edits event (played.judged? event)) ∧
      forall (service later : Service) (username : CodeText) (count : Option Int)
        (session : Session), service.start now username count = (later, .ok session) ->
          Round.start username.strip (service.drawn count) service.bank.sampleText
            service.duration now = .ok ⟨session, later.register, now⟩ := by
  intro played inputs
  have replays := (Replays.start started).run inner
  refine ⟨replays.replay_eq, Editor.replay_from_settled replays.replay_eq,
    replays.sampleText_eq, fun event inner => after_edits replays.near inner, ?_⟩
  intro service later username count session begun
  rcases Service.start_eq_ok begun with ⟨rfl, _, begun⟩
  rw [Round.start, begun]
  rfl

/-- A line is yanked for one question and pasted for the next; a blank input, a
hint, a late input and one that comes after the end leave no trace. -/
theorem run_replays_pasted :
    let text : List Line := ["one".toList, "two".toList]
    let round : Round :=
      ⟨⟨"ann", [⟨"q", "Delete the line.", ["dd"]⟩], text, .whole 60, .whole 60, 0, 0, 0, false,
        false, none, Buffer.fresh text, Nat.one_pos⟩, none, .whole 0⟩
    let events : List Event :=
      [.submit "yy", .submit " ", .submit "@@", .submit "dd", .submit "p", .wait (.whole 60),
        .submit "x", .submit "x"]
    Round.start "ann" [⟨"q", "Delete the line.", ["dd"]⟩] text (.whole 60) (.whole 0) = .ok round ∧
      (forall event, event ∈ events -> event.isInner = true) ∧
      Editor.replay text [("yy", false), ("dd", true), ("p", false)] =
        .ok (round.run events).editor ∧
      (round.run events).session.buffer.lines = ["one".toList, "one".toList, "two".toList] := by
  intro text round events
  have inner : forall event, event ∈ events -> event.isInner = true := by decide
  have judged : round.judged events = [("yy", false), ("dd", true), ("p", false)] := by
    decide +kernel
  have started : Round.start "ann" [⟨"q", "Delete the line.", ["dd"]⟩] text (.whole 60)
      (.whole 0) = .ok round := rfl
  have replayed := (run_replays started inner).1
  rw [judged] at replayed
  exact ⟨started, inner, replayed, by decide +kernel⟩

end Round
end ModalDrill
