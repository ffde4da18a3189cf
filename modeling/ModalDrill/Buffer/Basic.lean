import ModalDrill.Text.Slice

namespace ModalDrill

/-!
# Buffers and their cursor

A buffer is a text of at least one line with a cursor.  The cursor may be
parked above or below the text, and a caller may put it at any row and column
at all; every edit first anchors it to a line, so that nothing fails.
-/

/-- A line of text.  Columns count its characters. -/
abbrev Line := List Char

/-- The nearest value between two bounds.  If the bounds cross, the lower one. -/
def clamp (value low high : Int) : Int :=
  max low (min high value)

theorem clamp_of_mem {value low high : Int} (above : low ≤ value) (below : value ≤ high) :
    clamp value low high = value := by
  unfold clamp
  omega

theorem low_le_clamp (value low high : Int) : low ≤ clamp value low high :=
  Int.le_max_left _ _

theorem clamp_le_high {value low high : Int} (ordered : low ≤ high) :
    clamp value low high ≤ high := by
  unfold clamp
  omega

/-- A place in a text, or outside it. -/
structure Cursor where
  row : Int
  col : Int
deriving DecidableEq

/-- A text of at least one line, and a cursor. -/
structure Buffer where
  lines : List Line
  cursor : Cursor
  lines_ne_nil : lines ≠ []
deriving DecidableEq

namespace Buffer

/-- A text without lines becomes one empty line. -/
def ofLines (lines : List Line) (row col : Int) : Buffer :=
  match lines with
  | [] => ⟨[[]], ⟨row, col⟩, List.cons_ne_nil _ _⟩
  | first :: rest => ⟨first :: rest, ⟨row, col⟩, List.cons_ne_nil _ _⟩

/-- A text with the cursor on its first character. -/
def fresh (lines : List Line) : Buffer :=
  ofLines lines 0 0

/-- The number of lines. -/
def height (buffer : Buffer) : Nat :=
  buffer.lines.length

theorem height_pos (buffer : Buffer) : 0 < buffer.height :=
  List.length_pos_iff.mpr buffer.lines_ne_nil

/-- The line of a row.  Rows outside the text read as an empty line. -/
def lineAt (buffer : Buffer) (row : Int) : Line :=
  if row < 0 then [] else buffer.lines[row.toNat]?.getD []

/-- The line under the cursor. -/
def currentLine (buffer : Buffer) : Line :=
  buffer.lineAt buffer.cursor.row

/-- Move the cursor without looking at the text. -/
def withCursor (buffer : Buffer) (row col : Int) : Buffer :=
  { buffer with cursor := ⟨row, col⟩ }

/-- Replace the line under the cursor. -/
def setLine (buffer : Buffer) (text : Line) : Buffer where
  lines := buffer.lines.set buffer.cursor.row.toNat text
  cursor := buffer.cursor
  lines_ne_nil := by
    simpa only [ne_eq, List.set_eq_nil_iff] using buffer.lines_ne_nil

/-- The row of the line nearest to the cursor. -/
def nearestRow (buffer : Buffer) : Int :=
  clamp buffer.cursor.row 0 (buffer.height - 1)

/-- A cursor outside the text goes to the first column of the nearest line;
one on a line stays, whatever its column. -/
def anchor (buffer : Buffer) : Buffer :=
  if buffer.nearestRow = buffer.cursor.row then buffer
  else buffer.withCursor buffer.nearestRow 0

end Buffer

/-- The last column of a line on which a cursor rests; zero for an empty line. -/
def lastColumn (line : Line) : Int :=
  max 0 (line.length - 1)

end ModalDrill
