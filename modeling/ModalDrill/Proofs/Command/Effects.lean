import ModalDrill.Proofs.Buffer.Effects
import ModalDrill.Proofs.Command.Run

namespace ModalDrill

/-!
# What a command does to text and register

Every key has its share of the editor, and leaves the rest alone.  The effects
hold from anywhere: the cursor may be in any row, and in any column that is not
negative.  A command that is refused leaves everything as it is, and only a search
for words from a column that does not fit into 64 bits is refused.
-/

namespace Key

/-- The keys that only move the cursor. -/
def moving : List Key :=
  [left, down, up, right, lineStart, lineEnd, top, bottom, wordForward, wordBackward]

/-- The keys that look for words from the cursor on. -/
def searching : List Key :=
  [deleteWord, changeWord, wordForward]

theorem searching_inLine : forall key, key ∈ searching -> key ∈ cutting ∨ key ∈ moving := by
  decide

end Key

/-- What a command does to the text and to the register, by its key.  The register
is filled by the two yanks, with the line that the cursor reads. -/
inductive Verb.Affects (count : Nat) (before after : Editor) : Verb -> Prop
  | ignored (word : String) (same : after = before) : Affects count before after (.unknown word)
  | moved (key : Key) (moving : key ∈ Key.moving)
      (lines : after.buffer.lines = before.buffer.lines)
      (register : after.register = before.register) : Affects count before after (.key key)
  | trimmed (key : Key) (cutting : key ∈ Key.cutting)
      (trims : before.buffer.Trims after.buffer)
      (register : after.register = before.register) : Affects count before after (.key key)
  | dropped (drops : before.buffer.Drops count after.buffer)
      (register : after.register = before.register) : Affects count before after (.key .deleteLine)
  | pasted (inserts : before.buffer.Inserts (before.register.getD []) after.buffer)
      (register : after.register = before.register) : Affects count before after (.key .pasteBelow)
  | yanked (text : Line) (reads : before.buffer.Reads text)
      (lines : after.buffer.lines = before.buffer.lines)
      (register : after.register = some text) : Affects count before after (.key .yankLine)
  | yankedAndPasted (text : Line) (reads : before.buffer.Reads text)
      (inserts : before.buffer.Inserts text after.buffer)
      (register : after.register = some text) : Affects count before after (.key .yankPaste)

namespace Editor

/-! ## One key -/

theorem press_affects {editor : Editor} (nonneg : 0 ≤ editor.buffer.cursor.col) (count : Nat)
    (key : Key) : (Verb.key key).Affects count editor (editor.press count key) := by
  cases key with
  | left => exact .moved _ (by decide) rfl rfl
  | down => exact .moved _ (by decide) rfl rfl
  | up => exact .moved _ (by decide) rfl rfl
  | right => exact .moved _ (by decide) rfl rfl
  | lineStart => exact .moved _ (by decide) editor.buffer.anchor_lines rfl
  | lineEnd => exact .moved _ (by decide) editor.buffer.anchor_lines rfl
  | top => exact .moved _ (by decide) rfl rfl
  | bottom => exact .moved _ (by decide) rfl rfl
  | deleteChar =>
      exact .trimmed _ (by decide) ((Buffer.deleteChar_cutsLine _).trims nonneg) rfl
  | deleteWord =>
      exact .trimmed _ (by decide) ((Buffer.deleteWord_cutsLine _).trims nonneg) rfl
  | changeWord =>
      exact .trimmed _ (by decide) ((Buffer.deleteWord_cutsLine _).trims nonneg) rfl
  | yankLine => exact .yanked _ (Buffer.reads_currentLine _) rfl rfl
  | pasteBelow => exact .pasted (Buffer.pasteBelow_inserts _ _) rfl
  | deleteLine => exact .dropped (Buffer.deleteLines_drops _ _) rfl
  | wordForward =>
      exact .moved _ (by decide) (Buffer.wordForward_wordMotion _).lines_eq rfl
  | wordBackward =>
      exact .moved _ (by decide) (Buffer.wordBackward_wordMotion _).lines_eq rfl
  | yankPaste =>
      exact .yankedAndPasted _ (Buffer.reads_currentLine _) (Buffer.pasteBelow_inserts _ _) rfl

/-! ## Refused commands -/

/-- A key is only refused for a search that starts far behind the text. -/
theorem searching_of_not_reaches {editor : Editor} (nonneg : 0 ≤ editor.buffer.cursor.col)
    {key : Key} (refused : editor.reaches key = false) :
    key ∈ Key.searching ∧ editor.buffer.OnLine ∧ columnBound ≤ editor.buffer.cursor.col + 1 := by
  have column := Buffer.anchor_col_nonneg nonneg
  have far : forall distance, 0 ≤ distance -> distance ≤ 1 ->
      editor.buffer.searchable distance = false ->
      editor.buffer.OnLine ∧ columnBound ≤ editor.buffer.cursor.col + 1 := by
    intro distance ahead next beyond
    simp only [Buffer.searchable, Bool.or_eq_false_iff, reachable, Bool.and_eq_false_iff,
      decide_eq_false_iff_not] at beyond
    unfold columnBound at beyond ⊢
    by_cases onLine : editor.buffer.OnLine
    · rw [Buffer.anchor_of_onLine onLine] at beyond
      exact ⟨onLine, by omega⟩
    · -- Outside the text the search starts from the first columns of a line.
      have start : editor.buffer.anchor.cursor.col = 0 := by
        rw [Buffer.anchor_of_not_onLine onLine]
        rfl
      omega
  cases key with
  | deleteWord => exact ⟨by decide, far 0 (by decide) (by decide) refused⟩
  | changeWord => exact ⟨by decide, far 0 (by decide) (by decide) refused⟩
  | wordForward => exact ⟨by decide, far 1 (by decide) (by decide) refused⟩
  | _ => cases refused

/-- Staying as it is agrees with what a refused key would do to an editor. -/
theorem stays_affects {editor : Editor} (nonneg : 0 ≤ editor.buffer.cursor.col) {key : Key}
    (searching : key ∈ Key.searching) (onLine : editor.buffer.OnLine) (count : Nat) :
    (Verb.key key).Affects count editor editor := by
  rcases Key.searching_inLine key searching with cutting | moving
  · have kept : editor.buffer.CutsLine editor.buffer :=
      Or.inl (Buffer.anchor_of_onLine onLine).symm
    exact .trimmed key cutting (kept.trims nonneg) rfl
  · exact .moved key moving rfl rfl

/-! ## One command -/

/-- How a typed text ends: it is carried out, or refused because it looks for
words from a column that does not fit into 64 bits. -/
inductive Types (editor : Editor) (typed : String) : Editor -> Prop
  | carriedOut (next : Editor) (done : editor.tryType typed = .ok next) : Types editor typed next
  | refused (key : Key) (searching : key ∈ Key.searching)
      (verb : (Command.parse typed).verb = .key key)
      (far : columnBound ≤ editor.buffer.cursor.col + 1)
      (failed : editor.tryType typed = .error .columnOutOfReach) : Types editor typed editor

/-- Whatever is typed, the editor it leaves differs in the share of its key alone. -/
theorem type_affects (editor : Editor) (nonneg : 0 ≤ editor.buffer.cursor.col) (typed : String) :
    Exists fun after => editor.Types typed after ∧
      (Command.parse typed).verb.Affects (Command.parse typed).count editor after := by
  cases parsed : (Command.parse typed).verb with
  | unknown word =>
      refine ⟨editor, .carriedOut _ ?_, .ignored word rfl⟩
      rw [tryType, Command.tryRun, parsed]
  | key key =>
      have pressed : editor.tryType typed = editor.tryPress (Command.parse typed).count key := by
        rw [tryType, Command.tryRun, parsed]
      cases reaches : editor.reaches key with
      | true =>
          refine ⟨_, .carriedOut _ ?_, press_affects nonneg _ key⟩
          rw [pressed, tryPress, if_pos reaches]
      | false =>
          rcases searching_of_not_reaches nonneg reaches with ⟨searching, onLine, far⟩
          refine ⟨editor, .refused key searching parsed far ?_, stays_affects nonneg searching onLine _⟩
          rw [pressed, tryPress, reaches]
          rfl

/-- A text of two lines, with the cursor below it and an older line in the register. -/
def belowText : Editor :=
  ⟨⟨[['a', 'b'], ['c']], ⟨7, 0⟩, List.cons_ne_nil _ _⟩, some ['z']⟩

/-- Yanking and pasting below the text adds an empty line at its end. -/
theorem type_affects_below_text : 0 ≤ belowText.buffer.cursor.col ∧
    (Exists fun after => belowText.Types " yyp" after ∧
      (Command.parse " yyp").verb.Affects (Command.parse " yyp").count belowText after) ∧
    (Command.parse " yyp").verb = .key .yankPaste ∧
    (belowText.tryType " yyp").toOption =
      some ⟨⟨[['a', 'b'], ['c'], []], ⟨2, 0⟩, List.cons_ne_nil _ _⟩, some []⟩ := by
  have nonneg : 0 ≤ belowText.buffer.cursor.col := by decide
  exact ⟨nonneg, type_affects belowText nonneg " yyp", by decide +kernel, by decide +kernel⟩

end Editor
end ModalDrill
