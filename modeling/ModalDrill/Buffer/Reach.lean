import ModalDrill.Buffer.Rendering

namespace ModalDrill

/-!
# Columns within reach

A buffer may be handed over with its cursor at any column, however far from its
text.  A search for words and a caret row start out from a column, and they
refuse one that does not fit into 64 bits.  All columns of a line and the two
behind its end are within reach, so a cursor that has only been moved by keys
is never refused.
-/

/-- Why a cursor is refused. -/
inductive ReachError
  | columnOutOfReach
  | caretRowTooLong
deriving DecidableEq, Repr

def ReachError.message : ReachError -> String
  | columnOutOfReach => "The column of the cursor is out of reach."
  | caretRowTooLong => "The row with the caret is too long to be held."

/-- The first column that does not fit into 64 bits with a sign. -/
def columnBound : Int := 9223372036854775808

/-- The columns that fit into 64 bits with a sign. -/
def reachable (column : Int) : Bool :=
  decide (-columnBound ≤ column) && decide (column < columnBound)

namespace Buffer

/-- Can a search for words start at this distance behind the cursor? -/
def searchable (buffer : Buffer) (distance : Int) : Bool :=
  let anchored := buffer.anchor
  let start := anchored.cursor.col + distance
  reachable start ||
    (decide (0 ≤ start) && decide (start ≤ anchored.currentLine.length + 1))

/-- Render a buffer whose caret row can be made, in the room that there is for a row of
characters. -/
def tryRender (room : Int) (buffer : Buffer) : Except ReachError (List Line) :=
  let width := gutter + buffer.cursor.col
  if !reachable width then .error .columnOutOfReach
  else if room ≤ width then .error .caretRowTooLong
  else .ok buffer.render

end Buffer
end ModalDrill
