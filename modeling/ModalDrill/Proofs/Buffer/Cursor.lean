import ModalDrill.Buffer.Edit
import ModalDrill.Buffer.Motion
import ModalDrill.Proofs.Text.Cutting

namespace ModalDrill
namespace Buffer

/-!
# Where keys leave the cursor

A cursor that keys have placed is in a row of the text or parked one row beside
it.  In a row it is on a character or right behind the last one: the deletions
inside a line shorten it and leave the column alone, so the column behind the
end cannot be excluded.  It is the only column outside the line that they can
reach, because they never cut in front of the cursor.

Every operation has one statement here that says where it leaves the cursor.
An operation that looks a row up in the text leaves the cursor in that row, so
that these statements also say that the row is there.
-/

/-- The cursor is in a row of the text, whatever its column. -/
def OnLine (buffer : Buffer) : Prop :=
  0 ≤ buffer.cursor.row ∧ buffer.cursor.row < buffer.height

/-- The cursor is on a character of its line, or at the start of an empty line. -/
structure Resting (buffer : Buffer) : Prop where
  onLine : buffer.OnLine
  nonneg : 0 ≤ buffer.cursor.col
  inside : buffer.cursor.col ≤ lastColumn buffer.currentLine

/-- The cursor is right behind the last character of its line, which has one. -/
structure BehindEnd (buffer : Buffer) : Prop where
  onLine : buffer.OnLine
  filled : 0 < buffer.currentLine.length
  behind : buffer.cursor.col = buffer.currentLine.length

/-- The invariant of a buffer that is edited by keys alone. -/
structure Near (buffer : Buffer) : Prop where
  filled : buffer.lines ≠ []
  above : -1 ≤ buffer.cursor.row
  below : buffer.cursor.row ≤ buffer.height
  parked : buffer.cursor.row = -1 ∨ buffer.cursor.row = buffer.height -> buffer.cursor.col = 0
  onLine : buffer.OnLine -> 0 ≤ buffer.cursor.col ∧ buffer.cursor.col ≤ buffer.currentLine.length

theorem Near.of_onLine {buffer : Buffer} (onLine : buffer.OnLine) (nonneg : 0 ≤ buffer.cursor.col)
    (inside : buffer.cursor.col ≤ buffer.currentLine.length) : buffer.Near := by
  rcases onLine with ⟨above, below⟩
  refine ⟨buffer.lines_ne_nil, by omega, by omega, ?_, fun _ => ⟨nonneg, inside⟩⟩
  intro outside
  omega

theorem Near.col_nonneg {buffer : Buffer} (near : buffer.Near) : 0 ≤ buffer.cursor.col := by
  by_cases onLine : buffer.OnLine
  · exact (near.onLine onLine).1
  · have above := near.above
    have below := near.below
    unfold OnLine at onLine
    exact Int.le_of_eq (near.parked (by omega)).symm

theorem Resting.near {buffer : Buffer} (resting : buffer.Resting) : buffer.Near := by
  have inside := resting.inside
  unfold lastColumn at inside
  exact Near.of_onLine resting.onLine resting.nonneg (by have nonneg := resting.nonneg; omega)

theorem Resting.not_behindEnd {buffer : Buffer} (resting : buffer.Resting) : ¬ buffer.BehindEnd := by
  intro behindEnd
  have inside := resting.inside
  have filled := behindEnd.filled
  have behind := behindEnd.behind
  unfold lastColumn at inside
  omega

/-! ## Placing the cursor and replacing its line -/

@[simp] theorem setLine_cursor (buffer : Buffer) (text : Line) :
    (buffer.setLine text).cursor = buffer.cursor :=
  rfl

@[simp] theorem setLine_height (buffer : Buffer) (text : Line) :
    (buffer.setLine text).height = buffer.height :=
  List.length_set

theorem lineAt_of_nonneg (buffer : Buffer) {row : Int} (nonneg : 0 ≤ row) :
    buffer.lineAt row = buffer.lines[row.toNat]?.getD [] :=
  if_neg (Int.not_lt.mpr nonneg)

theorem setLine_currentLine {buffer : Buffer} (onLine : buffer.OnLine) (text : Line) :
    (buffer.setLine text).currentLine = text := by
  rcases onLine with ⟨above, below⟩
  have inside : buffer.cursor.row.toNat < buffer.lines.length := by
    unfold height at below
    omega
  rw [currentLine, setLine_cursor, lineAt_of_nonneg _ above]
  simp only [setLine, List.getElem?_set_self inside, Option.getD_some]

theorem lastColumn_nonneg (line : Line) : 0 ≤ lastColumn line :=
  Int.le_max_left _ _

/-- A cursor that is held inside a line of the text rests there. -/
theorem resting_of_clamped {lines : List Line} (filled : lines ≠ []) {row : Int} (above : 0 ≤ row)
    (below : row < lines.length) (col : Int) :
    Resting ⟨lines, ⟨row, clamp col 0 (lastColumn (lines[row.toNat]?.getD []))⟩, filled⟩ where
  onLine := ⟨above, below⟩
  nonneg := low_le_clamp _ _ _
  inside := by
    rw [currentLine, lineAt_of_nonneg _ above]
    exact clamp_le_high (lastColumn_nonneg _)

/-! ## Anchoring -/

theorem nearestRow_mem (buffer : Buffer) :
    0 ≤ buffer.nearestRow ∧ buffer.nearestRow < buffer.height := by
  have filled := buffer.height_pos
  unfold nearestRow clamp
  omega

theorem anchor_of_onLine {buffer : Buffer} (onLine : buffer.OnLine) : buffer.anchor = buffer := by
  rcases onLine with ⟨above, below⟩
  exact if_pos (clamp_of_mem above (by omega))

theorem anchor_of_not_onLine {buffer : Buffer} (outside : ¬ buffer.OnLine) :
    buffer.anchor = buffer.withCursor buffer.nearestRow 0 := by
  refine if_neg fun same => outside ?_
  have inside := buffer.nearestRow_mem
  rw [same] at inside
  exact inside

@[simp] theorem anchor_lines (buffer : Buffer) : buffer.anchor.lines = buffer.lines := by
  unfold anchor
  split <;> rfl

theorem anchor_onLine (buffer : Buffer) : buffer.anchor.OnLine := by
  by_cases onLine : buffer.OnLine
  · rw [anchor_of_onLine onLine]
    exact onLine
  · rw [anchor_of_not_onLine onLine]
    exact buffer.nearestRow_mem

theorem Near.anchor {buffer : Buffer} (near : buffer.Near) : buffer.anchor.Near := by
  by_cases onLine : buffer.OnLine
  · rw [anchor_of_onLine onLine]
    exact near
  · rw [anchor_of_not_onLine onLine]
    exact Near.of_onLine buffer.nearestRow_mem (Int.le_refl 0) (Int.natCast_nonneg _)

/-- The columns of an anchored cursor. -/
theorem Near.anchor_col {buffer : Buffer} (near : buffer.Near) :
    0 ≤ buffer.anchor.cursor.col ∧ buffer.anchor.cursor.col ≤ buffer.anchor.currentLine.length :=
  near.anchor.onLine buffer.anchor_onLine

/-- Anchoring brings no cursor behind the end of a line. -/
theorem BehindEnd.of_anchor {buffer : Buffer} (behindEnd : buffer.anchor.BehindEnd) :
    buffer.BehindEnd := by
  by_cases onLine : buffer.OnLine
  · rw [anchor_of_onLine onLine] at behindEnd
    exact behindEnd
  · rw [anchor_of_not_onLine onLine] at behindEnd
    have filled := behindEnd.filled
    have behind : (0 : Int) = _ := behindEnd.behind
    omega

/-! ## Operations that leave the cursor on a character -/

theorem moveBy_resting (buffer : Buffer) (rows cols : Int) : (buffer.moveBy rows cols).Resting := by
  have filled := buffer.height_pos
  have below : clamp (buffer.cursor.row + rows) 0 (buffer.height - 1) ≤ buffer.height - 1 :=
    clamp_le_high (by omega)
  have above := low_le_clamp (buffer.cursor.row + rows) 0 (buffer.height - 1)
  rw [moveBy, lineAt_of_nonneg _ above]
  exact resting_of_clamped buffer.lines_ne_nil above (Int.lt_of_le_sub_one below) _

theorem lineStart_resting (buffer : Buffer) : buffer.lineStart.Resting where
  onLine := buffer.anchor_onLine
  nonneg := Int.le_refl 0
  inside := lastColumn_nonneg _

theorem lineEnd_resting (buffer : Buffer) : buffer.lineEnd.Resting where
  onLine := buffer.anchor_onLine
  nonneg := lastColumn_nonneg _
  inside := Int.le_refl _

theorem pasteBelow_height (buffer : Buffer) (text : Line) :
    (buffer.pasteBelow text).height = buffer.height + 1 := by
  unfold pasteBelow height
  simp only [List.length_append, List.length_take, List.length_cons, List.length_drop]
  omega

theorem pasteBelow_resting (buffer : Buffer) (text : Line) : (buffer.pasteBelow text).Resting where
  onLine := by
    have below : clamp (buffer.cursor.row + 1) 0 buffer.height ≤ buffer.height :=
      clamp_le_high (Int.natCast_nonneg _)
    refine ⟨low_le_clamp _ _ _, ?_⟩
    rw [pasteBelow_height]
    exact Int.lt_add_one_of_le below
  nonneg := Int.le_refl 0
  inside := lastColumn_nonneg _

theorem fresh_resting (lines : List Line) : (fresh lines).Resting where
  onLine := by
    have filled := (fresh lines).height_pos
    have row : (fresh lines).cursor.row = 0 := by
      cases lines <;> rfl
    exact ⟨Int.le_of_eq row.symm, by omega⟩
  nonneg := by
    cases lines <;> exact Int.le_refl 0
  inside := by
    cases lines <;> exact lastColumn_nonneg _

theorem deleteLines_resting (buffer : Buffer) (count : Int) : (buffer.deleteLines count).Resting := by
  have anchored := buffer.anchor_onLine.1
  simp only [deleteLines]
  split
  · exact fresh_resting []
  · next filled =>
      have some := List.length_pos_iff.mpr filled
      exact resting_of_clamped filled (by omega) (by omega) _

/-! ## The two jumps -/

theorem parkAbove_not_onLine (buffer : Buffer) : ¬ buffer.parkAbove.OnLine := by
  intro onLine
  have above : (0 : Int) ≤ -1 := onLine.1
  omega

theorem parkBelow_not_onLine (buffer : Buffer) : ¬ buffer.parkBelow.OnLine :=
  fun onLine => Int.lt_irrefl _ onLine.2

theorem parkAbove_near (buffer : Buffer) : buffer.parkAbove.Near where
  filled := buffer.lines_ne_nil
  above := Int.le_refl _
  below := Int.le_trans (by decide : (-1 : Int) ≤ 0) (Int.natCast_nonneg _)
  parked := fun _ => rfl
  onLine := fun onLine => absurd onLine buffer.parkAbove_not_onLine

theorem parkBelow_near (buffer : Buffer) : buffer.parkBelow.Near where
  filled := buffer.lines_ne_nil
  above := Int.le_trans (by decide : (-1 : Int) ≤ 0) (Int.natCast_nonneg _)
  below := Int.le_refl _
  parked := fun _ => rfl
  onLine := fun onLine => absurd onLine buffer.parkBelow_not_onLine

/-! ## Deletions inside a line -/

/-- What a deletion inside a line does: nothing beyond anchoring, or it takes
away what stands between the cursor and a later position of the line. -/
def CutsLine (buffer cut : Buffer) : Prop :=
  cut = buffer.anchor ∨ Exists fun upTo : Nat => buffer.anchor.cursor.col ≤ upTo ∧
    cut = buffer.anchor.setLine
      (Text.before buffer.anchor.currentLine buffer.anchor.cursor.col ++
        buffer.anchor.currentLine.drop upTo)

theorem deleteChar_cutsLine (buffer : Buffer) : CutsLine buffer buffer.deleteChar := by
  simp only [deleteChar]
  split
  · exact Or.inl rfl
  · next onCharacter =>
      refine Or.inr ⟨_, ?_, rfl⟩
      rw [not_or, Int.not_le] at onCharacter
      have inside := onCharacter.2
      unfold Text.position
      split <;> omega

theorem deleteWord_cutsLine (buffer : Buffer) : CutsLine buffer buffer.deleteWord := by
  simp only [deleteWord]
  split
  · exact Or.inl rfl
  · next span found =>
      refine Or.inr ⟨_, ?_, rfl⟩
      -- A cursor behind the line has no word behind it, so the search started at the cursor.
      have inside : buffer.anchor.cursor.col.toNat < buffer.anchor.currentLine.length := by
        apply Nat.lt_of_not_le
        intro behind
        rw [Nat.min_eq_right behind, List.drop_length] at found
        cases found
      omega

/-- A line may be replaced by any text that goes up to the cursor. -/
theorem Near.setLine {buffer : Buffer} (near : buffer.Near) (onLine : buffer.OnLine) {text : Line}
    (upTo : buffer.cursor.col ≤ text.length) : (buffer.setLine text).Near := by
  have col := near.onLine onLine
  have onLine' : (buffer.setLine text).OnLine := by
    rw [OnLine, setLine_height]
    exact onLine
  refine Near.of_onLine onLine' col.1 ?_
  rw [setLine_currentLine onLine]
  exact upTo

theorem CutsLine.onLine {buffer cut : Buffer} (cuts : CutsLine buffer cut) : cut.OnLine := by
  rcases cuts with rfl | ⟨upTo, _, rfl⟩
  · exact buffer.anchor_onLine
  · rw [OnLine, setLine_height]
    exact buffer.anchor_onLine

/-- The part of the line before the cursor is kept, so the cursor is at most
right behind what is left. -/
theorem CutsLine.near {buffer cut : Buffer} (cuts : CutsLine buffer cut) (near : buffer.Near) :
    cut.Near := by
  rcases cuts with rfl | ⟨upTo, _, rfl⟩
  · exact near.anchor
  · apply near.anchor.setLine buffer.anchor_onLine
    have col := near.anchor_col
    have front := Text.length_before_of_mem col.1 col.2
    rw [List.length_append]
    omega

/-! ## Motions by words -/

/-- What a motion by words does: it stays at the anchor, or goes to a character
of the anchor's line. -/
def WordMotion (buffer moved : Buffer) : Prop :=
  moved = buffer.anchor ∨ Exists fun found : Nat => found < buffer.anchor.currentLine.length ∧
    moved = buffer.anchor.withCursor buffer.anchor.cursor.row found

theorem wordForward_wordMotion (buffer : Buffer) : WordMotion buffer buffer.wordForward := by
  simp only [wordForward]
  split
  · exact Or.inl rfl
  · next found search => exact Or.inr ⟨found, (Text.nextWordChar_lt search).2, rfl⟩

theorem wordBackward_wordMotion (buffer : Buffer) : WordMotion buffer buffer.wordBackward := by
  simp only [wordBackward]
  split
  · exact Or.inl rfl
  · next found search =>
      refine Or.inr ⟨found, ?_, rfl⟩
      have inside := Text.lastWordChar_lt search
      rw [Text.length_before] at inside
      exact Nat.lt_of_lt_of_le inside (Text.position_le _ _)

theorem WordMotion.onLine {buffer moved : Buffer} (motion : WordMotion buffer moved) :
    moved.OnLine := by
  rcases motion with rfl | ⟨found, _, rfl⟩
  · exact buffer.anchor_onLine
  · exact buffer.anchor_onLine

theorem WordMotion.near {buffer moved : Buffer} (motion : WordMotion buffer moved)
    (near : buffer.Near) : moved.Near := by
  rcases motion with rfl | ⟨found, inside, rfl⟩
  · exact near.anchor
  · exact Near.of_onLine buffer.anchor_onLine (Int.natCast_nonneg _)
      (Int.ofNat_le.mpr (Nat.le_of_lt inside))

/-- A motion by words stays behind the end of a line, and never goes there. -/
theorem WordMotion.behindEnd {buffer moved : Buffer} (motion : WordMotion buffer moved)
    (behindEnd : moved.BehindEnd) : buffer.BehindEnd := by
  rcases motion with rfl | ⟨found, inside, rfl⟩
  · exact behindEnd.of_anchor
  · have behind : (found : Int) = buffer.anchor.currentLine.length := behindEnd.behind
    omega

end Buffer
end ModalDrill
