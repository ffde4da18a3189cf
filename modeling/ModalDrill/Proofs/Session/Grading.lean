import ModalDrill.Bank.Catalogue
import ModalDrill.Proofs.Buffer.Deletion
import ModalDrill.Proofs.Command.Effects
import ModalDrill.Proofs.Command.Parking
import ModalDrill.Proofs.Command.Spelling
import ModalDrill.Proofs.Session.Replay

namespace ModalDrill

/-!
# Grading and effect

An input is judged by its text and by the canonical text of its command, and either may
be an expected answer.  A canonical text has lost its count.  So an input that is judged
correct does what one of the answers does, except where a count goes further than the
answer: in a deletion of lines that takes another number of lines than every deletion
among the answers.
-/

namespace Buffer

/-- A deletion of lines works from the line that is nearest to the cursor. -/
theorem deleteLines_anchor (buffer : Buffer) (count : Int) :
    buffer.anchor.deleteLines count = buffer.deleteLines count := by
  unfold deleteLines
  rw [anchor_of_onLine buffer.anchor_onLine]

/-- Deletions that take the same number of lines are the same. -/
theorem deleteLines_eq_of_taken_eq {buffer : Buffer} {count count' : Int}
    (same : buffer.anchor.taken count = buffer.anchor.taken count') :
    buffer.deleteLines count = buffer.deleteLines count' := by
  rw [← buffer.deleteLines_anchor count, ← buffer.deleteLines_anchor count',
    deleteLines_eq_holding buffer.anchor_onLine, deleteLines_eq_holding buffer.anchor_onLine, same]

/-- A deletion makes a text shorter by the lines that it takes, or empties it. -/
theorem deleteLines_leaves (buffer : Buffer) (count : Int) :
    (buffer.deleteLines count).lines = [[]] ∨
      (buffer.deleteLines count).height = buffer.height - buffer.anchor.taken count := by
  have taken := natCast_taken buffer.anchor_onLine count
  have above := buffer.anchor_onLine.1
  have left : (buffer.anchor.remaining (buffer.anchor.taken count)).length =
      buffer.height - buffer.anchor.taken count := by
    rw [← buffer.anchor_height]
    exact buffer.anchor.length_linesWithout _ _ (by omega)
  rw [height, ← buffer.deleteLines_anchor count, deleteLines_eq_holding buffer.anchor_onLine,
    holding_lines]
  by_cases empty : buffer.anchor.remaining (buffer.anchor.taken count) = []
  · rw [if_pos empty]
    exact Or.inl rfl
  · rw [if_neg empty]
    exact Or.inr left

end Buffer

/-- Only a deletion of lines makes a text shorter. -/
theorem Verb.Affects.height_le {count : Nat} {before after : Editor} {verb : Verb}
    (affects : verb.Affects count before after) (other : verb ≠ .key .deleteLine) :
    before.buffer.height ≤ after.buffer.height := by
  have inserted {text : Line} (inserts : before.buffer.Inserts text after.buffer) :
      before.buffer.height ≤ after.buffer.height := by
    rcases inserts.split with ⟨above, below, whole, grown, -, -⟩
    rw [Buffer.height, Buffer.height, whole, grown, List.length_append, List.length_append,
      List.length_cons]
    omega
  cases affects with
  | ignored word same => exact Nat.le_of_eq (congrArg (·.buffer.height) same.symm)
  | moved key moving lines register => exact Nat.le_of_eq (congrArg List.length lines.symm)
  | trimmed key cutting trims register => exact Nat.le_of_eq trims.height_eq.symm
  | dropped drops register => exact absurd rfl other
  | pasted inserts register => exact inserted inserts
  | yanked text reads lines register => exact Nat.le_of_eq (congrArg List.length lines.symm)
  | yankedAndPasted text reads inserts register => exact inserted inserts

namespace Editor

/-- The number of lines that a typed deletion takes: as many as its count says, from the
line nearest to the cursor on, but at least one and no more than there are. -/
def linesTaken (editor : Editor) (typed : String) : Nat :=
  editor.buffer.anchor.taken (Command.parse typed).count

/-- A deletion of lines that counts further than the answers do.  It is no answer itself
and passes for `dd`, which takes one line; it takes more of them, and no deletion among
the answers takes as many. -/
structure Overcounts (editor : Editor) (answers : List String) (typed : String) : Prop where
  deletes : (Command.parse typed).verb = .key .deleteLine
  unlisted : typed ∉ answers
  canonical : "dd" ∈ answers
  several : 2 ≤ editor.linesTaken typed
  apart : forall answer, answer ∈ answers -> (Command.parse answer).verb = .key .deleteLine ->
    editor.linesTaken answer ≠ editor.linesTaken typed

theorem one_le_linesTaken (editor : Editor) (typed : String) : 1 ≤ editor.linesTaken typed := by
  have below := editor.buffer.anchor_onLine.2
  unfold linesTaken Buffer.taken
  omega

theorem linesTaken_le (editor : Editor) (typed : String) :
    editor.linesTaken typed ≤ editor.buffer.height := by
  have taken := Buffer.natCast_taken editor.buffer.anchor_onLine (Command.parse typed).count
  have above := editor.buffer.anchor_onLine.1
  rw [editor.buffer.anchor_height] at taken
  unfold linesTaken
  omega

theorem tryType_of_deleteLine {typed : String}
    (deletes : (Command.parse typed).verb = .key .deleteLine) (editor : Editor) :
    editor.tryType typed = .ok (editor.edit (·.deleteLines (Command.parse typed).count)) := by
  rw [tryType, Command.tryRun, deletes]
  rfl

/-- Two spellings of a command do the same, if those of a deletion of lines take the same
number of lines. -/
theorem tryType_eq_of_linesTaken_eq {editor : Editor} {typed other : String}
    (same : (Command.parse typed).verb = (Command.parse other).verb)
    (counted : (Command.parse typed).verb = .key .deleteLine ->
      editor.linesTaken typed = editor.linesTaken other) :
    editor.tryType typed = editor.tryType other := by
  by_cases deletes : (Command.parse typed).verb = .key .deleteLine
  · rw [tryType_of_deleteLine deletes, tryType_of_deleteLine (same.symm.trans deletes), edit, edit,
      Buffer.deleteLines_eq_of_taken_eq (counted deletes)]
  · exact tryType_eq_of_verb_eq same deletes editor

/-- The canonical text of a deletion of lines takes one line. -/
theorem linesTaken_text {typed : String} (deletes : (Command.parse typed).verb = .key .deleteLine)
    (editor : Editor) :
    (Command.parse typed).text = "dd" ∧ editor.linesTaken (Command.parse typed).text = 1 := by
  have single : (Command.parse (Command.parse typed).text).count = 1 := by
    rw [Command.parse_text]
  refine ⟨?_, ?_⟩
  · rw [Command.text, deletes]
    rfl
  · rw [linesTaken, single]
    exact Buffer.taken_of_le_one editor.buffer.anchor_onLine (Int.le_refl 1)

/-- A typed text that is an answer by itself or by its canonical text has an answer with
its command.  It does what one of these does, unless it counts further than all of them. -/
theorem does_answer_or_overcounts {answers : List String} {typed : String}
    (listed : (Command.parse typed).text ∈ answers ∨ typed ∈ answers) (editor : Editor) :
    Exists fun answer => answer ∈ answers ∧
      (Command.parse answer).verb = (Command.parse typed).verb ∧
      (editor.tryType answer = editor.tryType typed ∨ editor.Overcounts answers typed) := by
  by_cases asTyped : typed ∈ answers
  · exact ⟨typed, asTyped, rfl, Or.inl rfl⟩
  · have canonical := listed.resolve_right asTyped
    have verb : (Command.parse (Command.parse typed).text).verb = (Command.parse typed).verb := by
      rw [Command.parse_text]
    by_cases equal : Exists fun answer => answer ∈ answers ∧
        (Command.parse answer).verb = (Command.parse typed).verb ∧
        editor.linesTaken answer = editor.linesTaken typed
    · rcases equal with ⟨answer, member, same, taken⟩
      exact ⟨answer, member, same, Or.inl (tryType_eq_of_linesTaken_eq same fun _ => taken)⟩
    · refine ⟨_, canonical, verb, ?_⟩
      by_cases deletes : (Command.parse typed).verb = .key .deleteLine
      · -- Without its count, the deletion is a single one, and that takes too few lines.
        rcases linesTaken_text deletes editor with ⟨text, single⟩
        have other : editor.linesTaken (Command.parse typed).text ≠ editor.linesTaken typed :=
          fun taken => equal ⟨_, canonical, verb, taken⟩
        have least := editor.one_le_linesTaken typed
        refine Or.inr ⟨deletes, asTyped, text ▸ canonical, by omega, ?_⟩
        intro answer member deletes' taken
        exact equal ⟨answer, member, deletes'.trans deletes.symm, taken⟩
      · exact Or.inl (tryType_eq_of_verb_eq verb (fun contrary => deletes (verb.symm.trans contrary))
          editor)

theorem height_le_type {editor : Editor} (near : editor.buffer.Near) {typed : String}
    (other : (Command.parse typed).verb ≠ .key .deleteLine) :
    editor.buffer.height ≤ (editor.type typed).buffer.height := by
  rcases editor.type_affects near.col_nonneg typed with ⟨after, types, affects⟩
  cases types with
  | carriedOut _ done =>
      rw [tryType_of_near near] at done
      rw [Except.ok.inj done]
      exact affects.height_le other
  | refused key searching verb far failed =>
      rw [tryType_of_near near] at failed
      cases failed

/-- What a typed deletion leaves: a text without the lines that it takes, or one empty
line. -/
theorem type_deleteLine_leaves {editor : Editor} (near : editor.buffer.Near) {typed : String}
    (deletes : (Command.parse typed).verb = .key .deleteLine) :
    (editor.type typed).buffer.lines = [[]] ∨
      (editor.type typed).buffer.height = editor.buffer.height - editor.linesTaken typed := by
  have done := tryType_of_deleteLine deletes editor
  rw [tryType_of_near near] at done
  rw [Except.ok.inj done]
  exact editor.buffer.deleteLines_leaves (Command.parse typed).count

/-- No answer does what a deletion does that counts further, unless that leaves one empty
line. -/
theorem Overcounts.apart_from_answers {editor : Editor} {answers : List String} {typed : String}
    (overcounts : editor.Overcounts answers typed) (near : editor.buffer.Near) {answer : String}
    (member : answer ∈ answers) (same : editor.tryType answer = editor.tryType typed) :
    (editor.type typed).buffer.lines = [[]] := by
  rw [tryType_of_near near, tryType_of_near near] at same
  have alike := Except.ok.inj same
  have several := overcounts.several
  have most := editor.linesTaken_le typed
  rcases type_deleteLine_leaves near overcounts.deletes with emptied | left
  · exact emptied
  · by_cases deletes : (Command.parse answer).verb = .key .deleteLine
    · have apart := overcounts.apart answer member deletes
      have most' := editor.linesTaken_le answer
      have left' := type_deleteLine_leaves near deletes
      rw [alike] at left'
      exact left'.resolve_right (by omega)
    · -- Everything else leaves at least as many lines as there were.
      have longer := height_le_type near deletes
      rw [alike] at longer
      omega

end Editor

namespace Session

theorem mem_of_answeredBy {session : Session} {typed : String}
    (accepted : session.answeredBy typed = true) :
    (Command.parse typed).text ∈ session.question.expected ∨ typed ∈ session.question.expected := by
  rw [answeredBy, Bool.or_eq_true] at accepted
  exact accepted.imp List.mem_of_elem_eq_true List.mem_of_elem_eq_true

/-- A submission that is judged correct was an answer, and has been carried out. -/
theorem Submitted.of_correct {session : Session} {register : Option Line} {now : Seconds}
    {typed : String} {submission : Submission} {verdict : Verdict}
    (submitted : session.Submitted register now typed submission)
    (answer : submission.result = .ok verdict) (correct : verdict.outcome.isCorrect = true) :
    session.answeredBy typed = true ∧
      verdict.buffer = (session.edited register typed).buffer ∧
      submission.register = (session.edited register typed).register := by
  cases submitted with
  | correct taking isCommand accepted =>
      cases answer
      dsimp only
      rw [verdict_buffer, applied_buffer]
      exact ⟨accepted, rfl, rfl⟩
  | refused => cases answer
  | unclocked => cases answer
  | unanswerable => cases answer
  | timeout => cases answer; cases correct
  | ignored => cases answer; cases correct
  | hint => cases answer; cases correct
  | wrong => cases answer; cases correct

end Session

namespace Round

/-- An input that is judged correct does what an answer to its question with the same
command does: in the buffer of the verdict and in the register after it.  The one
exception is a deletion of lines that counts further than the answers, and what it does
is done by no answer unless it leaves one empty line.  That holds at every moment of a
round, also if the register is written from outside. -/
theorem correct_input_does_answer {user : CodeText} {questions : List Question}
    {sampleText : List Line} {duration now : Seconds} {round : Round}
    (started : Round.start user questions sampleText duration now = .ok round)
    {events : List Event} {input : String} {verdict : Verdict}
    (answered : (round.run events).answer (.submit input) = .ok (some verdict))
    (correct : verdict.outcome.isCorrect = true) :
    let played := round.run events
    verdict.question = played.session.question ∧
      Exists fun edited =>
        played.editor.tryType input = .ok edited ∧
          verdict.buffer = edited.buffer ∧
          (played.after (.submit input)).register = edited.register ∧
          Exists fun answer => answer ∈ verdict.question.expected ∧
            (Command.parse answer).verb = (Command.parse input).verb ∧
            (played.editor.tryType answer = .ok edited ∨
              played.editor.Overcounts verdict.question.expected (Text.strip input) ∧
                forall other, other ∈ verdict.question.expected ->
                  played.editor.tryType other = .ok edited -> edited.buffer.lines = [[]]) := by
  intro played
  have near : played.editor.buffer.Near := run_near (Replays.start started).near events
  have typed := Editor.tryType_of_near near (Text.strip input)
  have edited : played.session.edited played.register (Text.strip input) =
      played.editor.type (Text.strip input) := rfl
  have submitted := played.session.submit_submitted played.register played.clock input
  have result : (played.session.submit played.register played.clock input).result =
      .ok verdict := by
    dsimp only [answer] at answered
    split at answered
    · cases answered
    · next judged =>
        cases answered
        exact judged
  rcases submitted.of_correct result correct with ⟨accepted, shown, register⟩
  have question := submitted.question_eq result
  rw [edited] at shown register
  rcases Editor.does_answer_or_overcounts (Session.mem_of_answeredBy accepted) played.editor with
    ⟨answer, member, verb, effect⟩
  rw [Command.parse_strip] at verb
  rw [question]
  refine ⟨rfl, _, ?_, shown, register, answer, member, verb, ?_⟩
  · rw [← typed, Editor.tryType_strip]
  · refine effect.imp (fun same => same.trans typed) fun overcounts => ⟨overcounts, ?_⟩
    intro other listed same
    exact overcounts.apart_from_answers near listed (same.trans typed.symm)

/-- Three lines are left from the cursor on, so a deletion of five does what the answer
does that counts three.  It passes for the answer without a count, which does less. -/
theorem correct_input_does_answer_to_end :
    let text : List Line := [['a'], ['b'], ['c'], ['d'], ['e']]
    let question : Question := ⟨"q", "Delete the rest.", ["dd", "3dd"]⟩
    let round : Round :=
      ⟨⟨"ann", [question], text, .whole 60, .whole 60, 0, 0, 0, false, false, none,
        Buffer.fresh text, Nat.one_pos⟩, none, .whole 0⟩
    let events : List Event := [.submit "j", .setRegister (some ['z']), .submit "j"]
    let played := round.run events
    let verdict : Verdict :=
      ⟨question, .correct "dd" 1, ⟨[['a'], ['b']], ⟨1, 0⟩, List.cons_ne_nil _ _⟩⟩
    Round.start "ann" [question] text (.whole 60) (.whole 0) = .ok round ∧
      played.answer (.submit " 5dd") = .ok (some verdict) ∧
      verdict.outcome.isCorrect = true ∧
      (Exists fun answer => answer ∈ question.expected ∧
        played.editor.tryType answer = .ok ⟨verdict.buffer, some ['z']⟩) ∧
      played.editor.tryType "dd" ≠ .ok ⟨verdict.buffer, some ['z']⟩ := by
  intro text question round events played verdict
  have started : Round.start "ann" [question] text (.whole 60) (.whole 0) = .ok round := rfl
  have answered : played.answer (.submit " 5dd") = .ok (some verdict) := by decide +kernel
  have correct : verdict.outcome.isCorrect = true := rfl
  have register : (played.after (.submit " 5dd")).register = some ['z'] := by decide +kernel
  have counted : played.editor.linesTaken "3dd" = played.editor.linesTaken (Text.strip " 5dd") := by
    decide +kernel
  refine ⟨started, answered, correct, ?_, by decide +kernel⟩
  rcases correct_input_does_answer started answered correct with
    ⟨-, edited, -, shown, kept, answer, member, -, same | ⟨overcounts, -⟩⟩
  · rw [shown, ← register, kept]
    exact ⟨answer, member, same⟩
  · exact absurd counted (overcounts.apart "3dd" (by decide) (by decide +kernel))

/-- A deletion of two lines passes for the answer that deletes one, in a round on the
questions of a file. -/
theorem counted_deletion_outdoes_answer :
    ¬ forall (bytes : Option (List UInt8)) (bank : QuestionBank),
        QuestionBank.ofFile bytes = .ok bank ->
      forall (user : CodeText) (duration now : Seconds) (round : Round),
        Round.start user bank.questions bank.sampleText duration now = .ok round ->
      forall (events : List Event) (input : String) (verdict : Verdict) (edited : Editor),
        (round.run events).answer (.submit input) = .ok (some verdict) ->
        verdict.outcome.isCorrect = true ->
        (round.run events).editor.tryType input = .ok edited ->
        Exists fun answer => answer ∈ verdict.question.expected ∧
          (round.run events).editor.tryType answer = .ok edited := by
  intro sound
  let file : String :=
    "\x7b\"questions\":[\x7b\"id\":\"q\",\"expected\":[\"dd\"]\x7d]," ++
      "\"sample_text\":[\"one\",\"two\",\"three\"]\x7d"
  let text : List Line := [['o', 'n', 'e'], ['t', 'w', 'o'], ['t', 'h', 'r', 'e', 'e']]
  let question : Question := ⟨"q", "", ["dd"]⟩
  let round : Round :=
    ⟨⟨"ann", [question], text, .whole 60, .whole 60, 0, 0, 0, false, false, none,
      Buffer.fresh text, Nat.one_pos⟩, none, .whole 0⟩
  let left : Buffer := ⟨[['t', 'h', 'r', 'e', 'e']], ⟨0, 0⟩, List.cons_ne_nil _ _⟩
  have loaded : QuestionBank.ofFile (some file.toUTF8.data.toList) = .ok ⟨text, [question]⟩ := by
    decide +kernel
  rcases sound _ _ loaded "ann" (.whole 60) (.whole 0) round rfl [] "2dd"
      ⟨question, .correct "dd" 1, left⟩ ⟨left, none⟩ (by decide +kernel) rfl (by decide +kernel)
    with ⟨answer, member, same⟩
  have only : answer = "dd" := List.mem_singleton.mp member
  rw [only] at same
  exact absurd same (by decide +kernel)

end Round
end ModalDrill
