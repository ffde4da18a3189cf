import ModalDrill.Buffer.Basic
import ModalDrill.Text.Numeral

namespace ModalDrill
namespace Buffer

/-!
# Rendering with a caret

Every line is shown behind its number, and one more row holds a caret under
the column of the cursor.  The caret row follows the line of the cursor; it
comes first for a cursor above the text and last for one below.
-/

/-- The width of the numbers and the blank behind them. -/
def gutter : Nat := 4

/-- The row with the caret.  Left of the gutter there is no room: the caret
then stands in the first column. -/
def caretRow (col : Int) : Line :=
  Text.spaces (gutter + col).toNat ++ ['^']

/-- A line behind its number, which counts from one. -/
def numberedRow (index : Nat) (line : Line) : Line :=
  Text.alignRight (gutter - 1) (Text.numeral (index + 1)) ++ ' ' :: line

/-- The rows of the lines from `index` on, with the caret row in its place. -/
def bodyRows (cursor : Cursor) : Nat -> List Line -> List Line
  | _, [] => []
  | index, line :: rest =>
      numberedRow index line ::
        ((if cursor.row = index then [caretRow cursor.col] else []) ++
          bodyRows cursor (index + 1) rest)

def render (buffer : Buffer) : List Line :=
  (if buffer.cursor.row < 0 then [caretRow buffer.cursor.col] else []) ++
    bodyRows buffer.cursor 0 buffer.lines ++
    (if buffer.height ≤ buffer.cursor.row then [caretRow buffer.cursor.col] else [])

end Buffer
end ModalDrill
