import ModalDrill.Command.Basic
import ModalDrill.Proofs.Buffer.Cursor

namespace ModalDrill

/-!
# Cursors parked beside the text

A cursor above or below the text stands for the first column of the first or the
last line, as far as operations on that line go.  All of them anchor the cursor
first, except for the moves: a move counts its rows from where the cursor is parked
and is held inside the text afterwards.  So a move away from the jump is one row
short, unless it goes on to the other end of the text.
-/

namespace Buffer

/-- The operations that work on the line of the cursor, with their arguments. -/
inductive Primitive
  | moveBy (rows cols : Int)
  | lineStart
  | lineEnd
  | deleteChar
  | deleteWord
  | changeWord
  | deleteLines (count : Int)
  | wordForward
  | wordBackward
deriving DecidableEq, Repr

namespace Primitive

def apply (buffer : Buffer) : Primitive -> Buffer
  | moveBy rows cols => buffer.moveBy rows cols
  | lineStart => buffer.lineStart
  | lineEnd => buffer.lineEnd
  | deleteChar => buffer.deleteChar
  | deleteWord => buffer.deleteWord
  | changeWord => buffer.changeWord
  | deleteLines count => buffer.deleteLines count
  | wordForward => buffer.wordForward
  | wordBackward => buffer.wordBackward

/-- The rows by which an operation means to move. -/
def rows : Primitive -> Int
  | moveBy rows _ => rows
  | _ => 0

end Primitive

/-! ## Anchors of parked cursors -/

theorem withCursor_onLine {buffer : Buffer} {row : Int} (above : 0 ≤ row)
    (below : row < buffer.height) (col : Int) : (buffer.withCursor row col).OnLine :=
  ⟨above, below⟩

theorem parkAbove_anchor (buffer : Buffer) :
    buffer.parkAbove.anchor = (buffer.withCursor 0 0).anchor := by
  have filled := buffer.height_pos
  have nearest : buffer.parkAbove.nearestRow = 0 := by
    change clamp (-1) 0 (buffer.height - 1) = 0
    unfold clamp
    omega
  rw [anchor_of_not_onLine buffer.parkAbove_not_onLine, nearest,
    anchor_of_onLine (withCursor_onLine (Int.le_refl 0) (by omega) 0)]
  rfl

theorem parkBelow_anchor (buffer : Buffer) :
    buffer.parkBelow.anchor = (buffer.withCursor (buffer.height - 1) 0).anchor := by
  have filled := buffer.height_pos
  have nearest : buffer.parkBelow.nearestRow = buffer.height - 1 := by
    change clamp buffer.height 0 (buffer.height - 1) = buffer.height - 1
    unfold clamp
    omega
  rw [anchor_of_not_onLine buffer.parkBelow_not_onLine, nearest,
    anchor_of_onLine (withCursor_onLine (by omega) (by omega) 0)]
  rfl

/-! ## Operations from parked cursors -/

/-- Whatever is no move reads the anchored buffer and nothing else. -/
theorem Primitive.apply_of_anchor_eq {first second : Buffer} (same : first.anchor = second.anchor)
    {primitive : Primitive} (still : forall rows cols, primitive ≠ .moveBy rows cols) :
    primitive.apply first = primitive.apply second := by
  cases primitive with
  | moveBy rows cols => exact absurd rfl (still rows cols)
  | lineStart => simp only [apply, Buffer.lineStart, same]
  | lineEnd => simp only [apply, Buffer.lineEnd, same]
  | deleteChar => simp only [apply, Buffer.deleteChar, same]
  | deleteWord => simp only [apply, Buffer.deleteWord, same]
  | changeWord => simp only [apply, Buffer.changeWord, Buffer.deleteWord, same]
  | deleteLines count => simp only [apply, Buffer.deleteLines, same]
  | wordForward => simp only [apply, Buffer.wordForward, same]
  | wordBackward => simp only [apply, Buffer.wordBackward, same]

/-- Two moves by the same way from one column agree exactly if they arrive in the
same row: the column is held inside the line of arrival. -/
theorem moveBy_eq_iff (buffer : Buffer) (row other col rows cols : Int) :
    (buffer.withCursor row col).moveBy rows cols = (buffer.withCursor other col).moveBy rows cols ↔
      clamp (row + rows) 0 (buffer.height - 1) = clamp (other + rows) 0 (buffer.height - 1) := by
  constructor
  · exact fun same => congrArg (fun moved : Buffer => moved.cursor.row) same
  · intro arrival
    have arrive (away : Int) : (buffer.withCursor away col).moveBy rows cols =
        buffer.withCursor (clamp (away + rows) 0 (buffer.height - 1)) (clamp (col + cols) 0
          (lastColumn (buffer.lineAt (clamp (away + rows) 0 (buffer.height - 1))))) :=
      rfl
    rw [arrive, arrive, arrival]

/-- An operation from above the text is the one from the first line, unless it is
a move down that ends inside the text. -/
theorem Primitive.apply_parkAbove_iff (buffer : Buffer) (primitive : Primitive) :
    primitive.apply buffer.parkAbove = primitive.apply (buffer.withCursor 0 0) ↔
      primitive.rows ≤ 0 ∨ buffer.height ≤ primitive.rows := by
  have filled := buffer.height_pos
  cases primitive with
  | moveBy rows cols =>
      refine (moveBy_eq_iff buffer (-1) 0 0 rows cols).trans ?_
      unfold clamp
      dsimp only [Primitive.rows]
      omega
  | _ =>
      exact iff_of_true (apply_of_anchor_eq buffer.parkAbove_anchor fun _ _ contrary => nomatch contrary)
        (Or.inl (Int.le_refl 0))

/-- An operation from below the text is the one from the last line, unless it is
a move up that ends inside the text. -/
theorem Primitive.apply_parkBelow_iff (buffer : Buffer) (primitive : Primitive) :
    primitive.apply buffer.parkBelow = primitive.apply (buffer.withCursor (buffer.height - 1) 0) ↔
      0 ≤ primitive.rows ∨ primitive.rows ≤ -buffer.height := by
  have filled := buffer.height_pos
  cases primitive with
  | moveBy rows cols =>
      refine (moveBy_eq_iff buffer buffer.height (buffer.height - 1) 0 rows cols).trans ?_
      unfold clamp
      dsimp only [Primitive.rows]
      omega
  | _ =>
      exact iff_of_true (apply_of_anchor_eq buffer.parkBelow_anchor fun _ _ contrary => nomatch contrary)
        (Or.inl (Int.le_refl 0))

end Buffer

namespace Key

/-- The operation of a key that works on the line of the cursor.  The two jumps
do not, and yanking and pasting read a parked cursor as an empty row. -/
def primitive? (count : Nat) : Key -> Option Buffer.Primitive
  | left => some (.moveBy 0 (-1))
  | down => some (.moveBy 1 0)
  | up => some (.moveBy (-1) 0)
  | right => some (.moveBy 0 1)
  | lineStart => some .lineStart
  | lineEnd => some .lineEnd
  | deleteChar => some .deleteChar
  | deleteWord => some .deleteWord
  | changeWord => some .changeWord
  | deleteLine => some (.deleteLines count)
  | wordForward => some .wordForward
  | wordBackward => some .wordBackward
  | top => none
  | bottom => none
  | yankLine => none
  | pasteBelow => none
  | yankPaste => none

/-- Only two keys move to another row, and only by one. -/
theorem primitive?_rows {key : Key} {count : Nat} {primitive : Buffer.Primitive}
    (works : key.primitive? count = some primitive) :
    primitive.rows = if key = down then 1 else if key = up then -1 else 0 := by
  cases key <;> cases works <;> rfl

end Key

namespace Editor

/-! ## Keys behind a jump -/

theorem press_of_primitive {key : Key} {count : Nat} {primitive : Buffer.Primitive}
    (works : key.primitive? count = some primitive) (editor : Editor) :
    editor.press count key = editor.edit primitive.apply := by
  cases key <;> cases works <;> rfl

theorem edit_eq_iff (editor : Editor) (change other : Buffer -> Buffer) :
    editor.edit change = editor.edit other ↔ change editor.buffer = other editor.buffer :=
  ⟨fun same => congrArg Editor.buffer same, fun same => by rw [edit, edit, same]⟩

theorem type_of_key {typed : String} {key : Key} (read : (Command.parse typed).verb = .key key)
    (editor : Editor) : editor.type typed = editor.press (Command.parse typed).count key := by
  rw [type, Command.run, read]

/-- Parked cursors stand for the first column of the nearest line in every
operation, except for the moves that end inside the text away from it.  So what is
typed behind a jump acts as on the line jumped to, unless it moves away from it
and there is another line. -/
theorem parked_acts_anchored_iff (editor : Editor) :
    (forall primitive : Buffer.Primitive,
      (primitive.apply editor.buffer.parkAbove = primitive.apply (editor.buffer.withCursor 0 0) ↔
        primitive.rows ≤ 0 ∨ editor.buffer.height ≤ primitive.rows) ∧
      (primitive.apply editor.buffer.parkBelow =
          primitive.apply (editor.buffer.withCursor (editor.buffer.height - 1) 0) ↔
        0 ≤ primitive.rows ∨ primitive.rows ≤ -editor.buffer.height)) ∧
    forall (jump next : String) (key : Key) (primitive : Buffer.Primitive),
      (Command.parse next).verb = .key key ->
        key.primitive? (Command.parse next).count = some primitive ->
      ((Command.parse jump).verb = .key .top ->
        ((editor.type jump).type next = (editor.edit (·.withCursor 0 0)).type next ↔
          (key = .down -> editor.buffer.height = 1))) ∧
      ((Command.parse jump).verb = .key .bottom ->
        ((editor.type jump).type next =
            (editor.edit (·.withCursor (editor.buffer.height - 1) 0)).type next ↔
          (key = .up -> editor.buffer.height = 1))) := by
  refine ⟨fun primitive => ⟨primitive.apply_parkAbove_iff _, primitive.apply_parkBelow_iff _⟩, ?_⟩
  intro jump next key primitive read works
  have filled := editor.buffer.height_pos
  have rows := Key.primitive?_rows works
  -- Both sides are one operation on the buffer, from the two places.
  have apply_at (place : Buffer -> Buffer) :
      (editor.edit place).type next = editor.edit fun buffer => primitive.apply (place buffer) := by
    rw [type_of_key read, press_of_primitive works]
    rfl
  refine ⟨fun jumps => ?_, fun jumps => ?_⟩
  · rw [type_of_key jumps, press, apply_at, apply_at, edit_eq_iff, primitive.apply_parkAbove_iff, rows]
    by_cases down : key = .down
    · simp only [down, if_true, forall_const]
      omega
    · simp only [down, if_false, false_implies, iff_true]
      split <;> omega
  · rw [type_of_key jumps, press, apply_at, apply_at, edit_eq_iff, primitive.apply_parkBelow_iff, rows]
    by_cases up : key = .up
    · simp only [up, reduceCtorEq, if_true, if_false, forall_const]
      omega
    · simp only [up, if_false, false_implies, iff_true]
      split <;> omega

/-- In a text of three lines, two are deleted from the top behind a jump there, and
a step up behind a jump to the bottom is one row short. -/
theorem parked_acts_anchored_three_lines :
    let three : Editor := ⟨.fresh [['a'], ['b'], ['c']], none⟩
    (three.type "gg").type "2dd" = (three.edit (·.withCursor 0 0)).type "2dd" ∧
    (three.type "G").type "k" ≠ (three.edit (·.withCursor (three.buffer.height - 1) 0)).type "k" := by
  intro three
  refine ⟨?_, ?_⟩
  · refine (((parked_acts_anchored_iff three).2 "gg" "2dd" .deleteLine (.deleteLines 2)
      (by decide +kernel) (by decide +kernel)).1 (by decide +kernel)).mpr ?_
    exact fun down => nomatch down
  · refine mt (((parked_acts_anchored_iff three).2 "G" "k" .up (.moveBy (-1) 0)
      (by decide +kernel) (by decide +kernel)).2 (by decide +kernel)).mp ?_
    exact fun alone => absurd (alone rfl) (by decide)

/-- From above two lines a step down ends in the first of them, where the one from
the first line ends in the second; upward from below it is the same. -/
theorem parked_step_falls_short :
    ¬ (forall (buffer : Buffer) (primitive : Buffer.Primitive),
        primitive.apply buffer.parkAbove = primitive.apply (buffer.withCursor 0 0)) ∧
    ¬ (forall (buffer : Buffer) (primitive : Buffer.Primitive), primitive.apply buffer.parkBelow =
        primitive.apply (buffer.withCursor (buffer.height - 1) 0)) ∧
    ¬ (forall editor : Editor,
        (editor.type "gg").type "j" = (editor.edit (·.withCursor 0 0)).type "j") := by
  refine ⟨fun anchored => ?_, fun anchored => ?_, fun anchored => ?_⟩
  · exact absurd (anchored (.fresh [['a'], ['b']]) (.moveBy 1 0)) (by decide)
  · exact absurd (anchored (.fresh [['a'], ['b']]) (.moveBy (-1) 0)) (by decide)
  · exact absurd (anchored ⟨.fresh [['a'], ['b']], none⟩) (by decide +kernel)

end Editor
end ModalDrill
