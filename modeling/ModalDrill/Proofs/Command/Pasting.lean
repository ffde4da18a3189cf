import Mathlib.Data.List.Basic
import ModalDrill.Proofs.Buffer.Deletion
import ModalDrill.Proofs.Command.Run

namespace ModalDrill

/-!
# Pastes and what takes them back

A paste leaves the cursor on the line that it has inserted, so a deletion of a single line
takes this line away and nothing else.  That holds wherever the cursor was, although the
two find their lines in different ways: the paste reads a cursor outside the text as a row
of its own, and the deletion goes to the nearest line.

What is pasted is the line that was yanked last.  Whatever is typed between the yank and
the paste, and whether it is carried out or refused, the register stays as it is as long
as nothing else is yanked.
-/

namespace Buffer

/-! ## A paste and a deletion -/

theorem remaining_pasteBelow (buffer : Buffer) (text : Line) :
    (buffer.pasteBelow text).remaining 1 = buffer.lines := by
  have below : clamp (buffer.cursor.row + 1) 0 buffer.height ≤ buffer.lines.length :=
    clamp_le_high (Int.natCast_nonneg _)
  dsimp only [remaining, pasteBelow]
  generalize clamp (buffer.cursor.row + 1) 0 buffer.height = row at below ⊢
  have front : (buffer.lines.take row.toNat).length = row.toNat := by
    rw [List.length_take]
    omega
  rw [List.take_left' front, List.drop_append, front, List.drop_eq_nil_of_le (by omega),
    List.nil_append, Nat.add_sub_cancel_left, List.drop_succ_cons, List.drop_zero,
    List.take_append_drop]

/-- A paste is taken back by a deletion of one line, up to the place of the cursor. -/
theorem deleteLines_pasteBelow (buffer : Buffer) (text : Line) {count : Int} (single : count ≤ 1) :
    (buffer.pasteBelow text).deleteLines count =
      buffer.withCursor (min (max (buffer.cursor.row + 1) 0) (buffer.height - 1)) 0 := by
  have onLine := (buffer.pasteBelow_resting text).onLine
  rw [deleteLines_eq_holding onLine, taken_of_le_one onLine single, remaining_pasteBelow,
    holding_of_filled buffer.lines_ne_nil]
  have held : min (buffer.pasteBelow text).cursor.row (buffer.lines.length - 1) =
      min (max (buffer.cursor.row + 1) 0) (buffer.height - 1) := by
    change min (clamp (buffer.cursor.row + 1) 0 buffer.height) (buffer.height - 1) = _
    unfold clamp
    omega
  have start (line : Line) : clamp (buffer.pasteBelow text).cursor.col 0 (lastColumn line) = 0 :=
    clamp_of_mem (Int.le_refl 0) (lastColumn_nonneg line)
  rw [held, start]
  rfl

/-- In the text, a paste inserts its line right below the row of the cursor. -/
theorem pasteBelow_lines_of_onLine {buffer : Buffer} (onLine : buffer.OnLine) (text : Line) :
    (buffer.pasteBelow text).lines[buffer.cursor.row.toNat]? =
        buffer.lines[buffer.cursor.row.toNat]? ∧
      (buffer.pasteBelow text).lines[buffer.cursor.row.toNat + 1]? = some text := by
  rcases onLine with ⟨above, below⟩
  have place : (clamp (buffer.cursor.row + 1) 0 buffer.height).toNat =
      buffer.cursor.row.toNat + 1 := by
    unfold clamp
    omega
  change buffer.cursor.row < (buffer.lines.length : Nat) at below
  have front : (buffer.lines.take (buffer.cursor.row.toNat + 1)).length =
      buffer.cursor.row.toNat + 1 := by
    rw [List.length_take]
    omega
  dsimp only [pasteBelow]
  rw [place]
  constructor
  · rw [List.getElem?_append_left (by omega), List.getElem?_take_of_lt (Nat.lt_succ_self _)]
  · rw [List.getElem?_append_right (Nat.le_of_eq front), front, Nat.sub_self,
      List.getElem?_cons_zero]

end Buffer

namespace Key

/-- The keys that fill the register. -/
def yanking : List Key :=
  [yankLine, yankPaste]

end Key

/-- The command yanks nothing. -/
def Command.SparesRegister (command : Command) : Prop :=
  forall key, key ∈ Key.yanking -> command.verb ≠ .key key

instance (command : Command) : Decidable command.SparesRegister :=
  inferInstanceAs (Decidable (forall key, key ∈ Key.yanking -> command.verb ≠ .key key))

namespace Editor

/-! ## The register -/

theorem press_register (editor : Editor) (count : Nat) {key : Key} (other : key ∉ Key.yanking) :
    (editor.press count key).register = editor.register := by
  cases key with
  | yankLine => exact absurd List.mem_cons_self other
  | yankPaste => exact absurd (by decide) other
  | _ => rfl

theorem tryType_register {editor after : Editor} {typed : String}
    (spares : (Command.parse typed).SparesRegister) (done : editor.tryType typed = .ok after) :
    after.register = editor.register := by
  unfold tryType Command.tryRun at done
  cases verb : (Command.parse typed).verb with
  | unknown word =>
      rw [verb] at done
      cases done
      rfl
  | key key =>
      have other : key ∉ Key.yanking := fun yanks => spares key yanks verb
      simp only [verb, tryPress] at done
      split at done
      · cases done
        exact press_register editor _ other
      · cases done

/-- Carry out what is typed, one text after the other.  A text that is refused leaves the
editor as it is, and the next one is carried out. -/
def typeEach (editor : Editor) (inputs : List String) : Editor :=
  inputs.foldl (fun editor typed => (editor.tryType typed).toOption.getD editor) editor

theorem typeEach_register {editor : Editor} {inputs : List String}
    (spare : forall typed, typed ∈ inputs -> (Command.parse typed).SparesRegister) :
    (editor.typeEach inputs).register = editor.register := by
  induction inputs generalizing editor with
  | nil => rfl
  | cons typed rest inductionHypothesis =>
      have later := fun other listed => spare other (List.mem_cons_of_mem typed listed)
      rw [typeEach, List.foldl_cons]
      refine (inductionHypothesis later).trans ?_
      cases ends : editor.tryType typed with
      | error refusal => rfl
      | ok after => exact tryType_register (spare typed List.mem_cons_self) ends

/-! ## Yanks and pastes -/

/-- A key that looks for no word is never refused. -/
theorem tryType_of_key {typed : String} {key : Key} (read : (Command.parse typed).verb = .key key)
    (searches : key.searchDistance? = none) (editor : Editor) :
    editor.tryType typed = .ok (editor.press (Command.parse typed).count key) := by
  have reaches : editor.reaches key = true := by
    rw [Editor.reaches, searches]
  simp only [tryType, Command.tryRun, read, tryPress, reaches, if_true]

theorem tryTypeAll_pair {editor middle : Editor} {first : String}
    (done : editor.tryType first = .ok middle) (second : String) :
    editor.tryTypeAll [first, second] = middle.tryType second := by
  calc
    editor.tryTypeAll [first, second] =
      Except.ok middle >>= fun reached => reached.tryType second := by
      simp only [tryTypeAll, List.foldlM_cons, List.foldlM_nil, bind_pure, done]
    _ = middle.tryType second := pure_bind middle _

/-- Yanking and pasting at once is yanking and then pasting.  In the text it doubles the
line of the cursor. -/
theorem tryType_yankPaste (editor : Editor) {yank paste both : String}
    (yanks : (Command.parse yank).verb = .key .yankLine)
    (pastes : (Command.parse paste).verb = .key .pasteBelow)
    (doubles : (Command.parse both).verb = .key .yankPaste) :
    editor.tryType both = .ok editor.yank.paste ∧
      editor.tryTypeAll [yank, paste] = .ok editor.yank.paste := by
  refine ⟨tryType_of_key doubles rfl editor, ?_⟩
  exact (tryTypeAll_pair (tryType_of_key yanks rfl editor) paste).trans
    (tryType_of_key pastes rfl editor.yank)

/-- A deletion of one line takes back whatever was pasted. -/
theorem tryType_taken_back {before pasted : Editor} {text : Line} {delete : String}
    (inserted : pasted.buffer = before.buffer.pasteBelow text)
    (deletes : (Command.parse delete).verb = .key .deleteLine)
    (single : (Command.parse delete).count ≤ 1) :
    Exists fun restored => pasted.tryType delete = .ok restored ∧
      restored.buffer = before.buffer.withCursor
        (min (max (before.buffer.cursor.row + 1) 0) (before.buffer.height - 1)) 0 := by
  have atMostOne : ((Command.parse delete).count : Int) ≤ 1 := Int.ofNat_le.mpr single
  refine ⟨_, tryType_of_key deletes rfl pasted, ?_⟩
  rw [press, edit, inserted]
  exact before.buffer.deleteLines_pasteBelow text atMostOne

/-- Wherever the cursor is, a deletion of one line takes back a paste, and a yank and paste
at once.  The latter is a yank and then a paste; in the text it doubles the line of the
cursor.  The line that is yanked is what the next paste inserts, no matter what else has
been typed and what of it was refused, unless something was yanked again. -/
theorem deletion_takes_back_paste (editor : Editor) {yank paste both delete : String}
    (yanks : (Command.parse yank).verb = .key .yankLine)
    (pastes : (Command.parse paste).verb = .key .pasteBelow)
    (doubles : (Command.parse both).verb = .key .yankPaste)
    (deletes : (Command.parse delete).verb = .key .deleteLine)
    (single : (Command.parse delete).count ≤ 1) :
    let row := editor.buffer.cursor.row
    (forall insert, insert ∈ [paste, both] ->
      Exists fun restored => editor.tryTypeAll [insert, delete] = .ok restored ∧
        restored.buffer.lines = editor.buffer.lines ∧
        restored.buffer.cursor = ⟨min (max (row + 1) 0) (editor.buffer.height - 1), 0⟩) ∧
    (Exists fun doubled => editor.tryType both = .ok doubled ∧
      editor.tryTypeAll [yank, paste] = .ok doubled ∧
      (editor.buffer.OnLine -> Exists fun line => editor.buffer.lines[row.toNat]? = some line ∧
        doubled.buffer.lines[row.toNat]? = some line ∧
        doubled.buffer.lines[row.toNat + 1]? = some line)) ∧
    forall inputs, (forall typed, typed ∈ inputs -> (Command.parse typed).SparesRegister) ->
      Exists fun yanked => editor.tryType yank = .ok yanked ∧
        Exists fun text => editor.buffer.Reads text ∧ yanked.register = some text ∧
          Exists fun pasted => (yanked.typeEach inputs).tryType paste = .ok pasted ∧
            (yanked.typeEach inputs).buffer.Inserts text pasted.buffer := by
  intro row
  refine ⟨?_, ?_, ?_⟩
  · intro insert listed
    have inserts : Exists fun inserted => editor.tryType insert = .ok inserted ∧
        Exists fun text => inserted.buffer = editor.buffer.pasteBelow text := by
      rcases List.mem_pair.mp listed with rfl | rfl
      · exact ⟨_, tryType_of_key pastes rfl editor, _, rfl⟩
      · exact ⟨_, tryType_of_key doubles rfl editor, _, rfl⟩
    rcases inserts with ⟨inserted, done, text, buffer⟩
    rcases tryType_taken_back buffer deletes single with ⟨restored, undone, back⟩
    refine ⟨restored, ?_, ?_, ?_⟩
    · exact (tryTypeAll_pair done delete).trans undone
    · rw [back]
      rfl
    · rw [back]
      rfl
  · rcases editor.tryType_yankPaste yanks pastes doubles with ⟨once, inTurn⟩
    refine ⟨editor.yank.paste, once, inTurn, ?_⟩
    intro onLine
    have read := editor.buffer.reads_currentLine.inside onLine
    rcases Buffer.pasteBelow_lines_of_onLine onLine editor.buffer.currentLine with ⟨same, next⟩
    exact ⟨editor.buffer.currentLine, read, same.trans read, next⟩
  · intro inputs spare
    refine ⟨editor.yank, tryType_of_key yanks rfl editor, editor.buffer.currentLine,
      editor.buffer.reads_currentLine, rfl, (editor.yank.typeEach inputs).paste,
      tryType_of_key pastes rfl _, ?_⟩
    have register : (editor.yank.typeEach inputs).register = some editor.buffer.currentLine :=
      typeEach_register spare
    have pasted : (editor.yank.typeEach inputs).paste.buffer =
        (editor.yank.typeEach inputs).buffer.pasteBelow editor.buffer.currentLine := by
      rw [Editor.paste, register]
      rfl
    rw [pasted]
    exact Buffer.pasteBelow_inserts _ _

/-- A text of two lines, with the cursor far above it and an older line in the register. -/
def farAbove : Editor :=
  ⟨⟨[['a'], ['b', 'c']], ⟨-5, 7⟩, List.cons_ne_nil _ _⟩, some ['z']⟩

/-- From far above the text the older line is pasted at its top and taken back from there,
and so is the empty line of a yank.  The empty line is pasted after a detour as well. -/
theorem deletion_takes_back_paste_far_above :
    (Command.parse "yy").verb = .key .yankLine ∧ (Command.parse "p").verb = .key .pasteBelow ∧
    (Command.parse "yyp").verb = .key .yankPaste ∧
    (Command.parse "dd").verb = .key .deleteLine ∧ (Command.parse "dd").count ≤ 1 ∧
    (forall typed, typed ∈ ["G", "what?", "2dd"] -> (Command.parse typed).SparesRegister) ∧
    (Exists fun restored => farAbove.tryTypeAll ["p", "dd"] = .ok restored ∧
      restored.buffer.lines = [['a'], ['b', 'c']] ∧ restored.buffer.cursor = ⟨0, 0⟩) ∧
    (Exists fun restored => farAbove.tryTypeAll ["yyp", "dd"] = .ok restored ∧
      restored.buffer.lines = [['a'], ['b', 'c']] ∧ restored.buffer.cursor = ⟨0, 0⟩) ∧
    Exists fun yanked => farAbove.tryType "yy" = .ok yanked ∧
      Exists fun text => farAbove.buffer.Reads text ∧ yanked.register = some text ∧
        Exists fun pasted => (yanked.typeEach ["G", "what?", "2dd"]).tryType "p" = .ok pasted ∧
          (yanked.typeEach ["G", "what?", "2dd"]).buffer.Inserts text pasted.buffer := by
  have yanks : (Command.parse "yy").verb = .key .yankLine := by decide +kernel
  have pastes : (Command.parse "p").verb = .key .pasteBelow := by decide +kernel
  have doubles : (Command.parse "yyp").verb = .key .yankPaste := by decide +kernel
  have deletes : (Command.parse "dd").verb = .key .deleteLine := by decide +kernel
  have single : (Command.parse "dd").count ≤ 1 := by decide +kernel
  have spare : forall typed, typed ∈ ["G", "what?", "2dd"] ->
      (Command.parse typed).SparesRegister := by
    decide +kernel
  have taken := deletion_takes_back_paste farAbove yanks pastes doubles deletes single
  exact ⟨yanks, pastes, doubles, deletes, single, spare,
    taken.1 "p" List.mem_cons_self, taken.1 "yyp" (by decide), taken.2.2 _ spare⟩

end Editor
end ModalDrill
