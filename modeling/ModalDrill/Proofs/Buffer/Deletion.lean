import Mathlib.Logic.Function.Iterate
import ModalDrill.Proofs.Buffer.Effects
import ModalDrill.Proofs.Command.Outline

namespace ModalDrill
namespace Buffer

/-!
# Lines deleted at once and one by one

A counted deletion leaves the lines that as many single deletions leave, with the
cursor in the same row.  On the way the single deletions hold the cursor inside
every line that they pass, so they can only end further left than the counted one,
which looks at the last of these lines alone.
-/

/-- Lines with a cursor that is held among them and inside its line.  Where there
are none, there is one empty line. -/
def holding (lines : List Line) (row col : Int) : Buffer :=
  if filled : lines = [] then fresh []
  else
    let held := min row (lines.length - 1)
    ⟨lines, ⟨held, clamp col 0 (lastColumn (lines[held.toNat]?.getD []))⟩, filled⟩

/-- The number of lines that a counted deletion takes from the row of the cursor
on: at least one, and no more than there are. -/
def taken (buffer : Buffer) (count : Int) : Nat :=
  (min (max count 1) (buffer.height - buffer.cursor.row)).toNat

/-- The lines above the cursor, and those below the lines that are removed from its
row on. -/
def remaining (buffer : Buffer) (removed : Nat) : List Line :=
  buffer.lines.take buffer.cursor.row.toNat ++
    buffer.lines.drop (buffer.cursor.row.toNat + removed)

/-! ## Held cursors -/

theorem holding_of_empty (row col : Int) : holding [] row col = fresh [] :=
  rfl

theorem holding_of_filled {lines : List Line} (filled : lines ≠ []) (row col : Int) :
    holding lines row col =
      ⟨lines, ⟨min row (lines.length - 1),
        clamp col 0 (lastColumn (lines[(min row (lines.length - 1)).toNat]?.getD []))⟩, filled⟩ :=
  dif_neg filled

theorem holding_lines (lines : List Line) (row col : Int) :
    (holding lines row col).lines = if lines = [] then [[]] else lines := by
  by_cases empty : lines = []
  · rw [if_pos empty, empty, holding_of_empty]
    rfl
  · rw [if_neg empty, holding_of_filled empty]

/-- The row does not depend on the column. -/
theorem holding_row (lines : List Line) (row col col' : Int) :
    (holding lines row col).cursor.row = (holding lines row col').cursor.row := by
  by_cases empty : lines = []
  · rw [empty, holding_of_empty, holding_of_empty]
  · rw [holding_of_filled empty, holding_of_filled empty]

/-- A cursor that starts further left is held further left.  Columns left of the
text count as its first column. -/
theorem holding_col_le (lines : List Line) (row : Int) {col col' : Int} (left : col ≤ max 0 col') :
    (holding lines row col).cursor.col ≤ (holding lines row col').cursor.col := by
  by_cases empty : lines = []
  · rw [empty]
    exact Int.le_refl _
  · rw [holding_of_filled empty, holding_of_filled empty]
    unfold clamp
    dsimp only
    omega

/-! ## One deletion -/

theorem deleteLines_eq_holding {buffer : Buffer} (onLine : buffer.OnLine) (count : Int) :
    buffer.deleteLines count =
      holding (buffer.remaining (buffer.taken count)) buffer.cursor.row buffer.cursor.col := by
  have removed : (buffer.removedLines buffer.cursor.row count).toNat = buffer.taken count := by
    have below := onLine.2
    unfold removedLines taken clamp
    omega
  unfold deleteLines
  rw [anchor_of_onLine onLine, ← removed]
  rfl

theorem natCast_taken {buffer : Buffer} (onLine : buffer.OnLine) (count : Int) :
    (buffer.taken count : Int) = min (max count 1) (buffer.height - buffer.cursor.row) := by
  have below := onLine.2
  unfold taken
  omega

/-- A count below one still takes a line. -/
theorem taken_of_le_one {buffer : Buffer} (onLine : buffer.OnLine) {count : Int}
    (single : count ≤ 1) : buffer.taken count = 1 := by
  have below := onLine.2
  unfold taken
  omega

/-! ## Deletions one by one -/

/-- A buffer from which some lines at the cursor are gone, with the cursor still in
its row and not further right than before. -/
structure ShortBy (buffer : Buffer) (removed : Nat) (short : Buffer) : Prop where
  lines_eq : short.lines = buffer.remaining removed
  row_eq : short.cursor.row = buffer.cursor.row
  col_le : short.cursor.col ≤ max 0 buffer.cursor.col

namespace ShortBy

variable {buffer short : Buffer} {removed : Nat}

theorem refl (buffer : Buffer) : buffer.ShortBy 0 buffer where
  lines_eq := (List.take_append_drop _ _).symm
  row_eq := rfl
  col_le := Int.le_max_right _ _

theorem onLine (onLine : buffer.OnLine) (left : buffer.cursor.row + removed < buffer.height)
    (shortBy : buffer.ShortBy removed short) : short.OnLine := by
  have above := onLine.1
  have height_eq : short.height = buffer.height - removed := by
    rw [height, shortBy.lines_eq]
    exact buffer.length_linesWithout _ _ (by omega)
  rw [OnLine, shortBy.row_eq, height_eq]
  omega

/-- One more line is gone after one more deletion. -/
theorem remaining_one (onLine : buffer.OnLine) (shortBy : buffer.ShortBy removed short) :
    short.remaining 1 = buffer.remaining (removed + 1) := by
  have above := onLine.1
  have below : buffer.cursor.row < buffer.lines.length := onLine.2
  have front : (buffer.lines.take buffer.cursor.row.toNat).length = buffer.cursor.row.toNat := by
    rw [List.length_take]
    omega
  unfold remaining
  rw [shortBy.lines_eq, shortBy.row_eq, remaining, List.take_left' front,
    List.drop_append, front, List.drop_eq_nil_of_le (by omega), List.nil_append, List.drop_drop]
  congr 2
  omega

theorem deleteLines_one (onLine : buffer.OnLine) (left : buffer.cursor.row + removed < buffer.height)
    (shortBy : buffer.ShortBy removed short) :
    short.deleteLines 1 =
      holding (buffer.remaining (removed + 1)) buffer.cursor.row short.cursor.col := by
  have shortOnLine := shortBy.onLine onLine left
  rw [deleteLines_eq_holding shortOnLine, taken_of_le_one shortOnLine (Int.le_refl 1),
    shortBy.remaining_one onLine, shortBy.row_eq]

/-- While there is another line below, the cursor keeps its row. -/
theorem step (onLine : buffer.OnLine) (below : buffer.cursor.row + removed + 1 < buffer.height)
    (shortBy : buffer.ShortBy removed short) : buffer.ShortBy (removed + 1) (short.deleteLines 1) := by
  have above := onLine.1
  have length : (buffer.remaining (removed + 1)).length = buffer.height - (removed + 1) :=
    buffer.length_linesWithout _ _ (by omega)
  have filled : buffer.remaining (removed + 1) ≠ [] := by
    apply List.ne_nil_of_length_pos
    omega
  rw [shortBy.deleteLines_one onLine (by omega), holding_of_filled filled]
  refine ⟨rfl, ?_, ?_⟩
  · dsimp only
    omega
  · have col := shortBy.col_le
    unfold clamp
    dsimp only
    omega

end ShortBy

theorem iterate_shortBy {buffer : Buffer} (onLine : buffer.OnLine) (removed : Nat)
    (below : buffer.cursor.row + removed < buffer.height) :
    buffer.ShortBy removed ((fun short => short.deleteLines 1)^[removed] buffer) := by
  induction removed with
  | zero => exact .refl buffer
  | succ removed inductionHypothesis =>
      rw [Function.iterate_succ_apply']
      exact (inductionHypothesis (by omega)).step onLine (by omega)

/-! ## Both ways -/

/-- A counted deletion and single deletions that take the same lines from the row of
the cursor on end alike: with the lines around them, or with one empty line. -/
structure EndAlike (buffer : Buffer) (removed : Nat) (counted repeated : Buffer) : Prop where
  lines_eq : repeated.lines = counted.lines
  row_eq : repeated.cursor.row = counted.cursor.row
  kept : buffer.remaining removed ≠ [] -> counted.lines = buffer.remaining removed
  emptied : buffer.remaining removed = [] -> counted = fresh [] ∧ repeated = fresh []
  col_le : repeated.cursor.col ≤ counted.cursor.col
  countedRests : counted.Resting
  repeatedRests : repeated.Resting

/-- Whatever the count is, a counted deletion is as many single deletions as it takes
lines, up to columns that these lose on the way. -/
theorem deleteLines_repeats {buffer : Buffer} (onLine : buffer.OnLine) (count : Int) :
    Exists fun removed : Nat =>
      (removed : Int) = min (max count 1) (buffer.height - buffer.cursor.row) ∧
      buffer.EndAlike removed (buffer.deleteLines count)
        ((fun short => short.deleteLines 1)^[removed] buffer) := by
  have below := onLine.2
  have number := natCast_taken onLine count
  refine ⟨buffer.taken count, number, ?_⟩
  have counted := deleteLines_eq_holding onLine count
  cases removed : buffer.taken count with
  | zero => omega
  | succ before =>
      -- Up to the last single deletion there is a line below, and the row is kept.
      rw [removed] at counted number
      have shortBy := iterate_shortBy onLine before (by omega)
      have repeated := shortBy.deleteLines_one onLine (by omega)
      rw [Function.iterate_succ_apply']
      constructor
      case countedRests => exact deleteLines_resting _ _
      case repeatedRests => exact deleteLines_resting _ _
      all_goals rw [counted]
      case lines_eq => rw [repeated, holding_lines, holding_lines]
      case row_eq => rw [repeated, holding_row]
      case kept =>
        intro filled
        rw [holding_of_filled filled]
      case emptied =>
        intro empty
        rw [repeated, empty, holding_of_empty, holding_of_empty]
        exact ⟨rfl, rfl⟩
      case col_le =>
        rw [repeated]
        exact holding_col_le _ _ shortBy.col_le

/-- An empty line between two others, with the cursor above it. -/
def aboveGap : Buffer :=
  ⟨[['a', 'b', 'c'], [], ['d', 'e', 'f']], ⟨0, 2⟩, List.cons_ne_nil _ _⟩

/-- Two single deletions lose the column in the empty line, and a deletion of two
lines does not. -/
theorem deleteLines_repeats_above_gap : aboveGap.OnLine ∧
    (Exists fun removed : Nat =>
      (removed : Int) = min (max 2 1) (aboveGap.height - aboveGap.cursor.row) ∧
      aboveGap.EndAlike removed (aboveGap.deleteLines 2)
        ((fun short => short.deleteLines 1)^[removed] aboveGap)) ∧
    aboveGap.deleteLines 2 = ⟨[['d', 'e', 'f']], ⟨0, 2⟩, List.cons_ne_nil _ _⟩ ∧
    (aboveGap.deleteLines 1).deleteLines 1 = ⟨[['d', 'e', 'f']], ⟨0, 0⟩, List.cons_ne_nil _ _⟩ := by
  have onLine : aboveGap.OnLine := ⟨by decide, by decide⟩
  exact ⟨onLine, deleteLines_repeats onLine 2, by decide, by decide⟩

end Buffer
end ModalDrill
