import ModalDrill.Proofs.Buffer.Cursor

namespace ModalDrill
namespace Buffer

/-!
# What operations do to the text

The motions leave every line as it is.  A deletion inside a line touches one
line, a paste adds one and a deletion of lines takes some away; whatever they do
not name stays, in its order.  Each effect is said by the lines before and after
it alone, and holds wherever the cursor is, also far outside the text.
-/

/-- What the cursor reads: the line of its row, or an empty line when its row is
none of the text. -/
structure Reads (buffer : Buffer) (text : Line) : Prop where
  inside : buffer.OnLine -> buffer.lines[buffer.cursor.row.toNat]? = some text
  outside : ¬ buffer.OnLine -> text = []

/-- In the line at the anchor, everything from the cursor up to a later position
is gone; if that is nothing, the line is kept.  The cursor is at the anchor. -/
structure Trims (buffer trimmed : Buffer) : Prop where
  height_eq : trimmed.height = buffer.height
  cursor_eq : trimmed.cursor = buffer.anchor.cursor
  others : forall row : Nat, (row : Int) ≠ buffer.anchor.cursor.row ->
    trimmed.lines[row]? = buffer.lines[row]?
  line : Exists fun upTo : Nat => buffer.anchor.cursor.col ≤ upTo ∧
    trimmed.currentLine = buffer.anchor.currentLine.take buffer.anchor.cursor.col.toNat ++
      buffer.anchor.currentLine.drop upTo

/-- One line is added to the lines that are there, in the row below the cursor as
far as the text reaches, and the cursor is at its start. -/
structure Inserts (buffer : Buffer) (text : Line) (grown : Buffer) : Prop where
  split : Exists fun above => Exists fun below => buffer.lines = above ++ below ∧
    grown.lines = above ++ text :: below ∧
    (above.length : Int) = clamp (buffer.cursor.row + 1) 0 buffer.height ∧
    grown.cursor = ⟨above.length, 0⟩

/-- A block of lines from the anchor on is taken away: `count` lines, but at least
one and no more than there are.  When no line is left there is one empty line. -/
structure Drops (buffer : Buffer) (count : Int) (left : Buffer) : Prop where
  split : Exists fun above => Exists fun block => Exists fun below =>
    buffer.lines = above ++ block ++ below ∧ (above.length : Int) = buffer.anchor.cursor.row ∧
    (block.length : Int) = clamp count 1 (buffer.height - above.length) ∧
    left.lines = if above ++ below = [] then [[]] else above ++ below

/-! ## The line under the cursor -/

theorem reads_currentLine (buffer : Buffer) : buffer.Reads buffer.currentLine where
  inside := by
    intro onLine
    rcases onLine with ⟨above, below⟩
    have inside : buffer.cursor.row.toNat < buffer.lines.length := by
      unfold height at below
      omega
    rw [currentLine, lineAt_of_nonneg _ above, List.getElem?_eq_getElem inside, Option.getD_some]
  outside := by
    intro outside
    unfold currentLine lineAt
    split
    · rfl
    · next nonneg =>
        have beyond : buffer.lines.length ≤ buffer.cursor.row.toNat := by
          unfold OnLine height at outside
          omega
        rw [List.getElem?_eq_none beyond, Option.getD_none]

/-! ## Motions -/

theorem WordMotion.lines_eq {buffer moved : Buffer} (motion : WordMotion buffer moved) :
    moved.lines = buffer.lines := by
  rcases motion with rfl | ⟨found, _, rfl⟩
  · exact buffer.anchor_lines
  · exact buffer.anchor_lines

/-! ## Deletions inside a line -/

theorem anchor_height (buffer : Buffer) : buffer.anchor.height = buffer.height :=
  congrArg List.length buffer.anchor_lines

theorem anchor_col_nonneg {buffer : Buffer} (nonneg : 0 ≤ buffer.cursor.col) :
    0 ≤ buffer.anchor.cursor.col := by
  by_cases onLine : buffer.OnLine
  · rw [anchor_of_onLine onLine]
    exact nonneg
  · rw [anchor_of_not_onLine onLine]
    exact Int.le_refl 0

/-- A cut never takes anything in front of a cursor that is not left of the text. -/
theorem CutsLine.trims {buffer cut : Buffer} (cuts : CutsLine buffer cut)
    (nonneg : 0 ≤ buffer.cursor.col) : buffer.Trims cut := by
  have column := anchor_col_nonneg nonneg
  rcases cuts with rfl | ⟨upTo, later, rfl⟩
  · refine ⟨buffer.anchor_height, rfl, fun row _ => ?_, buffer.anchor.cursor.col.toNat, ?_, ?_⟩
    · rw [anchor_lines]
    · exact Int.self_le_toNat _
    · rw [List.take_append_drop]
  · refine ⟨?_, rfl, fun row other => ?_, upTo, later, ?_⟩
    · rw [setLine_height, anchor_height]
    · have different : buffer.anchor.cursor.row.toNat ≠ row := by
        have above := buffer.anchor_onLine.1
        omega
      rw [setLine, List.getElem?_set_ne different, anchor_lines]
    · rw [setLine_currentLine buffer.anchor_onLine, Text.before_of_nonneg _ column]

/-! ## Whole lines -/

theorem pasteBelow_inserts (buffer : Buffer) (text : Line) :
    buffer.Inserts text (buffer.pasteBelow text) where
  split := by
    have above := low_le_clamp (buffer.cursor.row + 1) 0 buffer.height
    have below : clamp (buffer.cursor.row + 1) 0 buffer.height ≤ buffer.height :=
      clamp_le_high (Int.natCast_nonneg _)
    have place : ((buffer.lines.take (clamp (buffer.cursor.row + 1) 0 buffer.height).toNat).length :
        Int) = clamp (buffer.cursor.row + 1) 0 buffer.height := by
      change _ ≤ ((buffer.lines.length : Nat) : Int) at below
      rw [List.length_take]
      omega
    refine ⟨_, _, (List.take_append_drop _ buffer.lines).symm, rfl, place, ?_⟩
    rw [place]
    rfl

theorem deleteLines_lines (buffer : Buffer) (count : Int) :
    (buffer.deleteLines count).lines =
      if buffer.anchor.linesWithout buffer.anchor.cursor.row.toNat
          (buffer.anchor.removedLines buffer.anchor.cursor.row count).toNat = [] then [[]]
      else buffer.anchor.linesWithout buffer.anchor.cursor.row.toNat
        (buffer.anchor.removedLines buffer.anchor.cursor.row count).toNat := by
  simp only [deleteLines]
  split
  · rfl
  · rfl

theorem deleteLines_drops (buffer : Buffer) (count : Int) :
    buffer.Drops count (buffer.deleteLines count) where
  split := by
    rcases buffer.anchor_onLine with ⟨above, below⟩
    rw [anchor_height] at below
    have removed : buffer.anchor.removedLines buffer.anchor.cursor.row count =
        clamp count 1 (buffer.height - buffer.anchor.cursor.row) := by
      rw [removedLines, anchor_height]
    have least := low_le_clamp count 1 (buffer.height - buffer.anchor.cursor.row)
    have most : clamp count 1 (buffer.height - buffer.anchor.cursor.row) ≤
        buffer.height - buffer.anchor.cursor.row := clamp_le_high (by omega)
    rw [← removed] at least most
    change _ < ((buffer.lines.length : Nat) : Int) at below
    change _ ≤ ((buffer.lines.length : Nat) : Int) - _ at most
    have place : ((buffer.lines.take buffer.anchor.cursor.row.toNat).length : Int) =
        buffer.anchor.cursor.row := by
      rw [List.length_take]
      omega
    rw [deleteLines_lines, linesWithout, anchor_lines]
    refine ⟨_, (buffer.lines.drop buffer.anchor.cursor.row.toNat).take
      (buffer.anchor.removedLines buffer.anchor.cursor.row count).toNat, _, ?_, place, ?_, rfl⟩
    · rw [List.append_assoc, ← List.drop_drop, List.take_append_drop, List.take_append_drop]
    · rw [place, ← removed, List.length_take, List.length_drop]
      omega

end Buffer
end ModalDrill
