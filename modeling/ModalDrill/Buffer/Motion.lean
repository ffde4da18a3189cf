import ModalDrill.Buffer.Basic
import ModalDrill.Text.Word

namespace ModalDrill
namespace Buffer

/-!
# Motions

The motions move the cursor and leave the text alone.  All of them but the two
jumps end on a line; the jumps park the cursor one row above or below the text.
-/

/-- Shift the cursor.  The row is held inside the text, and the column inside
the line of arrival. -/
def moveBy (buffer : Buffer) (rows cols : Int) : Buffer :=
  let row := clamp (buffer.cursor.row + rows) 0 (buffer.height - 1)
  buffer.withCursor row (clamp (buffer.cursor.col + cols) 0 (lastColumn (buffer.lineAt row)))

def lineStart (buffer : Buffer) : Buffer :=
  let anchored := buffer.anchor
  anchored.withCursor anchored.cursor.row 0

def lineEnd (buffer : Buffer) : Buffer :=
  let anchored := buffer.anchor
  anchored.withCursor anchored.cursor.row (lastColumn anchored.currentLine)

/-- Park the cursor above the first line. -/
def parkAbove (buffer : Buffer) : Buffer :=
  buffer.withCursor (-1) 0

/-- Park the cursor below the last line. -/
def parkBelow (buffer : Buffer) : Buffer :=
  buffer.withCursor buffer.height 0

/-- Jump to the next word character behind the cursor on its line. -/
def wordForward (buffer : Buffer) : Buffer :=
  let anchored := buffer.anchor
  match Text.nextWordChar anchored.currentLine (anchored.cursor.col + 1).toNat with
  | none => anchored
  | some found => anchored.withCursor anchored.cursor.row found

/-- Jump to the last word character before the cursor on its line. -/
def wordBackward (buffer : Buffer) : Buffer :=
  let anchored := buffer.anchor
  match Text.lastWordChar (Text.before anchored.currentLine anchored.cursor.col) with
  | none => anchored
  | some found => anchored.withCursor anchored.cursor.row found

end Buffer
end ModalDrill
