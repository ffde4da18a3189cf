import ModalDrill.Proofs.Buffer.Effects
import ModalDrill.Proofs.Buffer.Rendering

namespace ModalDrill
namespace Buffer

/-!
# Where the caret points

The caret row counts a gutter of fixed width, and a line is shown behind its number.  The
column of the numbers is as wide as the gutter allows, but a number is never cut: one of
more than three digits pushes its line to the right, and the caret stays where it is.  So
the caret is under the character of the cursor in the first 999 lines of a text.  In a
later line it is left of it by the digits for which the gutter has no room.
-/

/-! ## Lines behind their numbers -/

/-- The digits of the number of a line for which the gutter has no room. -/
def overhang (index : Nat) : Nat :=
  (Text.numeral (index + 1)).length - (gutter - 1)

theorem overhang_eq_zero_iff (index : Nat) : overhang index = 0 ↔ index < 999 := by
  have short : (Text.numeral (index + 1)).length ≤ 3 ↔ index + 1 < 10 ^ 3 :=
    Nat.length_toDigits_le_iff (by decide) (by decide)
  unfold overhang gutter
  omega

/-- A line is shown behind the gutter and the digits that do not fit into it. -/
theorem getElem?_numberedRow (index : Nat) (shown : Line) (place : Nat) :
    (numberedRow index shown)[gutter + overhang index + place]? = shown[place]? := by
  have front : (Text.alignRight (gutter - 1) (Text.numeral (index + 1)) ++ [' ']).length =
      gutter + overhang index := by
    simp only [Text.alignRight, Text.spaces, List.length_append, List.length_replicate,
      List.length_singleton, overhang, gutter]
    omega
  have behind : numberedRow index shown =
      (Text.alignRight (gutter - 1) (Text.numeral (index + 1)) ++ [' ']) ++ shown := by
    rw [numberedRow, List.append_assoc, List.singleton_append]
  rw [behind, List.getElem?_append_right (by omega), front, Nat.add_sub_cancel_left]

/-! ## The rows of a cursor in the text -/

section OnLine

variable {buffer : Buffer} (onLine : buffer.OnLine)

include onLine

theorem caretPlace_of_onLine : buffer.caretPlace = buffer.cursor.row.toNat + 1 := by
  rcases onLine with ⟨above, below⟩
  unfold caretPlace clamp
  omega

theorem getElem?_render_row :
    buffer.render[buffer.cursor.row.toNat]? =
      some (numberedRow buffer.cursor.row.toNat buffer.currentLine) := by
  have before : buffer.cursor.row.toNat < buffer.caretPlace := by
    rw [caretPlace_of_onLine onLine]
    exact Nat.lt_succ_self _
  rw [render_eq, List.getElem?_insertIdx_of_lt before, getElem?_numberedRows, Nat.zero_add,
    buffer.reads_currentLine.inside onLine, Option.map_some]

end OnLine

theorem caretRow_natCast (col : Nat) : caretRow col = Text.spaces (gutter + col) ++ ['^'] := by
  rw [caretRow]
  rfl

/-- Where the caret of a cursor on a character stands.  Its row is right below the line of
the cursor, and it is the only one.  It is left of the character by the overhang of the
line's number, so it points at the character if there is none, and else at an earlier
character of the line, as long as there are any. -/
structure CaretStands (buffer : Buffer) (row col : Nat) (c : Char) : Prop where
  shown : buffer.render[row]? = some (numberedRow row buffer.currentLine)
  caret : buffer.render[row + 1]? = some (Text.spaces (gutter + col) ++ ['^'])
  onlyCaret : forall (place : Nat) (other : Line), buffer.render[place]? = some other ->
    (IsCaretRow other ↔ place = row + 1)
  character : (numberedRow row buffer.currentLine)[gutter + overhang row + col]? = some c
  pointed : row < 999 -> (numberedRow row buffer.currentLine)[gutter + col]? = some c
  beside : overhang row ≤ col -> (numberedRow row buffer.currentLine)[gutter + col]? =
    buffer.currentLine[col - overhang row]?
  fits : overhang row = 0 ↔ row < 999
  made : forall room : Int, (gutter + col : Int) < room -> (gutter + col : Int) < columnBound ->
    buffer.tryRender room = .ok buffer.render

/-- The caret is left of the character under the cursor by the digits of the line's number
for which the gutter has no room.  There are none exactly in the first 999 lines. -/
theorem caret_left_by_overhang {buffer : Buffer} (onLine : buffer.OnLine) {col : Nat}
    (column : buffer.cursor.col = col) {c : Char}
    (onCharacter : buffer.currentLine[col]? = some c) :
    buffer.CaretStands buffer.cursor.row.toNat col c := by
  have place : buffer.caretPlace = buffer.cursor.row.toNat + 1 := caretPlace_of_onLine onLine
  generalize index : buffer.cursor.row.toNat = row at place ⊢
  have character :
      (numberedRow row buffer.currentLine)[gutter + overhang row + col]? = some c := by
    rw [getElem?_numberedRow, onCharacter]
  constructor
  case shown =>
    rw [← index]
    exact getElem?_render_row onLine
  case caret => rw [← place, getElem?_render_caretPlace, column, caretRow_natCast]
  case onlyCaret =>
    intro other shown read
    rw [isCaretRow_iff read, place]
  case character => exact character
  case pointed =>
    intro early
    rw [(overhang_eq_zero_iff row).mpr early] at character
    exact character
  case beside =>
    intro within
    have split : gutter + col = gutter + overhang row + (col - overhang row) := by omega
    rw [split]
    exact getElem?_numberedRow row buffer.currentLine _
  case fits => exact overhang_eq_zero_iff row
  case made =>
    intro room held fits
    rw [tryRender_eq (by omega), column, if_neg (Int.not_le.mpr fits),
      if_neg (Int.not_le.mpr held)]

/-- A text of a thousand lines of one character, with the cursor on the last. -/
def thousandth : Buffer :=
  ⟨List.replicate 1000 ['a'], ⟨999, 0⟩, List.cons_ne_nil _ _⟩

theorem thousandth_onLine : thousandth.OnLine := by
  refine ⟨by decide, ?_⟩
  rw [height, thousandth, List.length_replicate]
  decide

theorem thousandth_currentLine : thousandth.currentLine = ['a'] := by
  rw [currentLine, lineAt_of_nonneg _ thousandth_onLine.1]
  simp only [thousandth, List.getElem?_replicate]
  rfl

theorem thousandth_onCharacter : thousandth.currentLine[0]? = some 'a' := by
  rw [thousandth_currentLine]
  rfl

/-- In the line with number 1000 the caret is one column left of the character. -/
theorem caret_left_by_overhang_thousandth :
    thousandth.OnLine ∧ thousandth.cursor.col = (0 : Nat) ∧
    thousandth.currentLine[0]? = some 'a' ∧
    thousandth.render[999]? = some ['1', '0', '0', '0', ' ', 'a'] ∧
    thousandth.render[1000]? = some [' ', ' ', ' ', ' ', '^'] := by
  have stands := caret_left_by_overhang thousandth_onLine rfl thousandth_onCharacter
  refine ⟨thousandth_onLine, rfl, thousandth_onCharacter, stands.shown.trans ?_, stands.caret⟩
  rw [thousandth_currentLine]
  decide

/-- The caret does not always point at the character under the cursor. -/
theorem caret_beside_character :
    ¬ (forall (buffer : Buffer) (col : Nat) (c : Char), buffer.OnLine ->
      buffer.cursor.col = col -> buffer.currentLine[col]? = some c ->
      Exists fun shown => Exists fun blanks =>
        buffer.render[buffer.cursor.row.toNat]? = some shown ∧
        buffer.render[buffer.cursor.row.toNat + 1]? = some (Text.spaces blanks ++ ['^']) ∧
        shown[blanks]? = some c) := by
  intro points
  rcases points thousandth 0 'a' thousandth_onLine rfl thousandth_onCharacter with
    ⟨shown, blanks, read, caret, pointed⟩
  rw [getElem?_render_row thousandth_onLine, thousandth_currentLine, Option.some.injEq] at read
  rw [← caretPlace_of_onLine thousandth_onLine, getElem?_render_caretPlace,
    Option.some.injEq] at caret
  have four : blanks = 4 := by
    have length := congrArg List.length (List.append_cancel_right caret)
    simp only [Text.spaces, List.length_replicate] at length
    exact length.symm
  rw [← read, four] at pointed
  exact absurd pointed (by decide)

end Buffer
end ModalDrill
