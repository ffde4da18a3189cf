import ModalDrill.Command.Basic
import ModalDrill.Proofs.Buffer.Cursor

namespace ModalDrill

/-!
# The outline of a buffer

The outline of a buffer is the number of its lines and the row of its cursor.
What a command does to the outline depends on the outline and the command
alone: neither the text of any line, nor the column, nor the register has a part
in it.  The register can change what a buffer says, but never how many lines it
has or in which of them the cursor is.
-/

/-- The number of lines of a buffer and the row of its cursor. -/
structure Outline where
  height : Nat
  row : Int
deriving DecidableEq, Repr

def Buffer.outline (buffer : Buffer) : Outline :=
  ⟨buffer.height, buffer.cursor.row⟩

namespace Outline

/-- The row in the text that is nearest to some rows away from the cursor. -/
def rowBeyond (outline : Outline) (rows : Int) : Int :=
  clamp (outline.row + rows) 0 (outline.height - 1)

/-- Move the cursor by some rows, but not out of the text. -/
def move (outline : Outline) (rows : Int) : Outline :=
  ⟨outline.height, outline.rowBeyond rows⟩

/-- Insert one line below the cursor, and go there. -/
def insertLine (outline : Outline) : Outline :=
  ⟨outline.height + 1, clamp (outline.row + 1) 0 outline.height⟩

/-- The outline when some lines are left and the cursor is held among them.  A
text that has lost all its lines has one line again. -/
def ofLeft (height : Nat) (row : Int) : Outline :=
  if height = 0 then ⟨1, 0⟩ else ⟨height, min row (height - 1)⟩

/-- Remove lines from the nearest row on: at least one, and no more than there
are. -/
def removeLines (outline : Outline) (count : Int) : Outline :=
  ofLeft (outline.height - (clamp count 1 (outline.height - outline.rowBeyond 0)).toNat)
    (outline.rowBeyond 0)

/-- The effect of a key. -/
def press (outline : Outline) (count : Nat) : Key -> Outline
  | .down => outline.move 1
  | .up => outline.move (-1)
  | .top => ⟨outline.height, -1⟩
  | .bottom => ⟨outline.height, outline.height⟩
  | .yankLine => outline
  | .pasteBelow => outline.insertLine
  | .yankPaste => outline.insertLine
  | .deleteLine => outline.removeLines count
  | _ => outline.move 0

def run (outline : Outline) (command : Command) : Outline :=
  match command.verb with
  | .key key => outline.press command.count key
  | .unknown _ => outline

end Outline

namespace Buffer

/-! ## Operations on buffers -/

theorem anchor_outline (buffer : Buffer) : buffer.anchor.outline = buffer.outline.move 0 := by
  have height_eq : buffer.anchor.height = buffer.height := congrArg List.length buffer.anchor_lines
  have row_eq : buffer.anchor.cursor.row = clamp (buffer.cursor.row + 0) 0 (buffer.height - 1) := by
    rw [Int.add_zero]
    by_cases onLine : buffer.OnLine
    · have inside := onLine
      unfold OnLine at inside
      rw [anchor_of_onLine onLine, clamp_of_mem inside.1 (by omega)]
    · rw [anchor_of_not_onLine onLine]
      rfl
  rw [outline, height_eq, row_eq]
  rfl

theorem setLine_outline (buffer : Buffer) (text : Line) :
    (buffer.setLine text).outline = buffer.outline := by
  rw [outline, setLine_height, setLine_cursor, outline]

theorem CutsLine.outline_eq {buffer cut : Buffer} (cuts : CutsLine buffer cut) :
    cut.outline = buffer.outline.move 0 := by
  rcases cuts with rfl | ⟨upTo, _, rfl⟩
  · exact buffer.anchor_outline
  · rw [setLine_outline, anchor_outline]

theorem WordMotion.outline_eq {buffer moved : Buffer} (motion : WordMotion buffer moved) :
    moved.outline = buffer.outline.move 0 := by
  rcases motion with rfl | ⟨found, _, rfl⟩
  · exact buffer.anchor_outline
  · exact buffer.anchor_outline

theorem pasteBelow_outline (buffer : Buffer) (text : Line) :
    (buffer.pasteBelow text).outline = buffer.outline.insertLine := by
  rw [outline, pasteBelow_height]
  rfl

theorem length_linesWithout (buffer : Buffer) (row removed : Nat)
    (inside : row + removed ≤ buffer.height) :
    (buffer.linesWithout row removed).length = buffer.height - removed := by
  unfold height at inside ⊢
  rw [linesWithout, List.length_append, List.length_take, List.length_drop]
  omega

theorem deleteLines_ofLeft (buffer : Buffer) (count : Int) :
    (buffer.deleteLines count).outline =
      Outline.ofLeft (buffer.anchor.linesWithout buffer.anchor.cursor.row.toNat
        (buffer.anchor.removedLines buffer.anchor.cursor.row count).toNat).length
        buffer.anchor.cursor.row := by
  simp only [deleteLines, Outline.ofLeft]
  split
  · next empty => rw [if_pos (List.length_eq_zero_iff.mpr empty)]; rfl
  · next filled => rw [if_neg (mt List.length_eq_zero_iff.mp filled)]; rfl

theorem deleteLines_outline (buffer : Buffer) (count : Int) :
    (buffer.deleteLines count).outline = buffer.outline.removeLines count := by
  have anchored := buffer.anchor_outline
  have height_eq : buffer.anchor.height = buffer.outline.height := congrArg Outline.height anchored
  have row_eq : buffer.anchor.cursor.row = buffer.outline.rowBeyond 0 := congrArg Outline.row anchored
  have onLine := buffer.anchor_onLine
  rw [OnLine, height_eq, row_eq] at onLine
  have removed : clamp count 1 (buffer.outline.height - buffer.outline.rowBeyond 0) ≤
      buffer.outline.height - buffer.outline.rowBeyond 0 := clamp_le_high (by omega)
  rw [deleteLines_ofLeft, removedLines, length_linesWithout, height_eq, row_eq, Outline.removeLines]
  rw [height_eq, row_eq]
  omega

end Buffer

namespace Editor

/-! ## Commands -/

theorem press_outline (editor : Editor) (count : Nat) (key : Key) :
    (editor.press count key).buffer.outline = editor.buffer.outline.press count key := by
  cases key with
  | left => rfl
  | down => rfl
  | up => rfl
  | right => rfl
  | lineStart => exact Buffer.anchor_outline _
  | lineEnd => exact Buffer.anchor_outline _
  | top => rfl
  | bottom => rfl
  | deleteChar => exact (Buffer.deleteChar_cutsLine _).outline_eq
  | deleteWord => exact (Buffer.deleteWord_cutsLine _).outline_eq
  | changeWord => exact (Buffer.deleteWord_cutsLine _).outline_eq
  | yankLine => rfl
  | pasteBelow => exact Buffer.pasteBelow_outline _ _
  | deleteLine => exact Buffer.deleteLines_outline _ _
  | wordForward => exact (Buffer.wordForward_wordMotion _).outline_eq
  | wordBackward => exact (Buffer.wordBackward_wordMotion _).outline_eq
  | yankPaste => exact Buffer.pasteBelow_outline _ _

/-- A typed command changes the outline of a buffer in a way that the command
alone decides. -/
theorem type_outline (editor : Editor) (typed : String) :
    (editor.type typed).buffer.outline = editor.buffer.outline.run (Command.parse typed) := by
  unfold type Command.run Outline.run
  cases (Command.parse typed).verb with
  | key key => exact press_outline editor _ key
  | unknown word => rfl

end Editor
end ModalDrill
