import ModalDrill.Buffer.Basic
import ModalDrill.Text.Word

namespace ModalDrill
namespace Buffer

/-!
# Edits

The deletions inside a line keep the cursor where it is, even when the line
becomes too short for it.  Pasting reads a cursor above or below the text as an
empty row there; every other edit works on the line nearest to the cursor.
-/

/-- Delete the character under the cursor. -/
def deleteChar (buffer : Buffer) : Buffer :=
  let anchored := buffer.anchor
  let line := anchored.currentLine
  let col := anchored.cursor.col
  if line = [] ∨ line.length ≤ col then anchored
  else anchored.setLine (Text.before line col ++ Text.after line (col + 1))

/-- Delete from the cursor to the second word behind it, or to the end of the
line if there is only one.  Without a word behind the cursor nothing happens. -/
def deleteWord (buffer : Buffer) : Buffer :=
  let anchored := buffer.anchor
  let line := anchored.currentLine
  let start := min anchored.cursor.col.toNat line.length
  match Text.wordSpan (line.drop start) with
  | none => anchored
  | some span => anchored.setLine (Text.before line anchored.cursor.col ++ line.drop (start + span))

/-- Changing a word only removes it: there is no mode in which to type another. -/
def changeWord (buffer : Buffer) : Buffer :=
  buffer.deleteWord

/-- Insert a line below the cursor and move to its first column.  From above
the text it becomes the first line, from below the last. -/
def pasteBelow (buffer : Buffer) (text : Line) : Buffer :=
  let row := clamp (buffer.cursor.row + 1) 0 buffer.height
  { lines := buffer.lines.take row.toNat ++ text :: buffer.lines.drop row.toNat
    cursor := ⟨row, 0⟩
    lines_ne_nil := by simp }

/-- The number of lines that a counted deletion takes from a row on: at least
one, and no more than there are. -/
def removedLines (buffer : Buffer) (row count : Int) : Int :=
  clamp count 1 (buffer.height - row)

/-- The lines left when some are removed from a row on. -/
def linesWithout (buffer : Buffer) (row removed : Nat) : List Line :=
  buffer.lines.take row ++ buffer.lines.drop (row + removed)

/-- Delete `count` lines from the cursor on.  The cursor goes to the line that
takes their place, or to the last one; an emptied text is one empty line. -/
def deleteLines (buffer : Buffer) (count : Int) : Buffer :=
  let anchored := buffer.anchor
  let row := anchored.cursor.row
  let removed := anchored.removedLines row count
  let rest := anchored.linesWithout row.toNat removed.toNat
  if filled : rest = [] then fresh []
  else
    let newRow := min row (rest.length - 1)
    let newLine := rest[newRow.toNat]?.getD []
    { lines := rest
      cursor := ⟨newRow, clamp anchored.cursor.col 0 (lastColumn newLine)⟩
      lines_ne_nil := filled }

end Buffer
end ModalDrill
