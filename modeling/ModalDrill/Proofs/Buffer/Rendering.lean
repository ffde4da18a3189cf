import Mathlib.Data.Option.Basic
import ModalDrill.Buffer.Reach
import ModalDrill.Proofs.Buffer.Cursor

namespace ModalDrill
namespace Buffer

/-!
# What can be read off a rendering

A rendering is the numbered lines of a buffer with the caret row inserted in one place.  A
line is never mistaken for the caret row, whatever its text is: its number has a digit,
and the caret row has none.  So the place of the caret row, its length and the lines can
all be read off a rendering.  They tell the state of the buffer but for one thing: the
caret row of the last line is in the same place as that of a cursor below the text.

No rendering is made for a cursor so far to the right that its caret row cannot be held.
-/

/-! ## Numbered lines and caret rows -/

/-- A row of blanks with a caret behind them. -/
def IsCaretRow (shown : Line) : Prop :=
  Exists fun blanks => shown = Text.spaces blanks ++ ['^']

theorem isCaretRow_caretRow (col : Int) : IsCaretRow (caretRow col) :=
  ⟨(gutter + col).toNat, rfl⟩

/-- The characters of a caret row are no digits. -/
theorem IsCaretRow.isDigit {shown : Line} (isCaret : IsCaretRow shown) {c : Char}
    (listed : c ∈ shown) : c.isDigit = false := by
  rcases isCaret with ⟨blanks, rfl⟩
  rcases List.mem_append.mp listed with blank | caret
  · rw [List.eq_of_mem_replicate blank]
    rfl
  · rw [List.mem_singleton.mp caret]
    rfl

theorem not_isCaretRow_numberedRow (index : Nat) (line : Line) :
    ¬ IsCaretRow (numberedRow index line) := by
  intro isCaret
  rcases List.exists_mem_of_ne_nil (Text.numeral (index + 1)) Nat.toDigits_ne_nil with ⟨c, listed⟩
  have digit : c.isDigit = true := Nat.isDigit_of_mem_toDigits (by decide) (by decide) listed
  have shown : c ∈ numberedRow index line :=
    List.mem_append_left _ (List.mem_append_right _ listed)
  rw [isCaret.isDigit shown] at digit
  cases digit

theorem numberedRow_injective (index : Nat) : Function.Injective (numberedRow index) := by
  intro line line' same
  exact (List.cons.inj (List.append_cancel_left same)).2

/-- The lines behind their numbers, the first one with the number after an index. -/
def numberedRows (index : Nat) (lines : List Line) : List Line :=
  (lines.zipIdx index).map fun entry => numberedRow entry.2 entry.1

theorem numberedRows_cons (index : Nat) (line : Line) (rest : List Line) :
    numberedRows index (line :: rest) = numberedRow index line :: numberedRows (index + 1) rest :=
  rfl

theorem length_numberedRows (index : Nat) (lines : List Line) :
    (numberedRows index lines).length = lines.length := by
  rw [numberedRows, List.length_map, List.length_zipIdx]

theorem getElem?_numberedRows (index : Nat) (lines : List Line) (place : Nat) :
    (numberedRows index lines)[place]? = lines[place]?.map (numberedRow (index + place)) := by
  rw [numberedRows, List.getElem?_map, List.getElem?_zipIdx, Option.map_map]
  rfl

theorem numberedRows_injective (index : Nat) : Function.Injective (numberedRows index) := by
  intro lines lines' same
  apply List.ext_getElem?
  intro place
  apply Option.map_injective (numberedRow_injective (index + place))
  rw [← getElem?_numberedRows, ← getElem?_numberedRows, same]

/-! ## The caret row among the lines -/

theorem bodyRows_of_outside {cursor : Cursor} {index : Nat} {lines : List Line}
    (outside : cursor.row < index ∨ index + lines.length ≤ cursor.row) :
    bodyRows cursor index lines = numberedRows index lines := by
  induction lines generalizing index with
  | nil => rfl
  | cons line rest inductionHypothesis =>
      rw [List.length_cons] at outside
      have other : cursor.row ≠ index := by omega
      rw [bodyRows, if_neg other, inductionHypothesis (by omega)]
      rfl

theorem bodyRows_of_inside {cursor : Cursor} {index offset : Nat} {lines : List Line}
    (row : cursor.row = index + offset) (inside : offset < lines.length) :
    bodyRows cursor index lines =
      (numberedRows index lines).insertIdx (offset + 1) (caretRow cursor.col) := by
  induction lines generalizing index offset with
  | nil => exact absurd inside (Nat.not_lt_zero offset)
  | cons line rest inductionHypothesis =>
      rw [bodyRows, numberedRows_cons, List.insertIdx_succ_cons]
      cases offset with
      | zero =>
          rw [if_pos (by omega), bodyRows_of_outside (Or.inl (by omega)), List.insertIdx_zero]
          rfl
      | succ offset =>
          rw [List.length_cons] at inside
          rw [if_neg (by omega), inductionHypothesis (by omega) (Nat.lt_of_succ_lt_succ inside)]
          rfl

/-- The place of the caret row in a rendering: below the row of the cursor, as far as the
text reaches. -/
def caretPlace (buffer : Buffer) : Nat :=
  (clamp (buffer.cursor.row + 1) 0 buffer.height).toNat

theorem caretPlace_le (buffer : Buffer) : buffer.caretPlace ≤ buffer.height := by
  have below : clamp (buffer.cursor.row + 1) 0 buffer.height ≤ buffer.height :=
    clamp_le_high (Int.natCast_nonneg _)
  unfold caretPlace
  omega

theorem render_eq (buffer : Buffer) :
    buffer.render =
      (numberedRows 0 buffer.lines).insertIdx buffer.caretPlace (caretRow buffer.cursor.col) := by
  have place : buffer.caretPlace = (clamp (buffer.cursor.row + 1) 0 buffer.height).toNat := rfl
  unfold clamp at place
  have height : (buffer.height : Int) = buffer.lines.length := rfl
  rcases Int.lt_or_le buffer.cursor.row 0 with above | reached
  · have front : buffer.caretPlace = 0 := by omega
    rw [render, if_pos above, if_neg (by omega), bodyRows_of_outside (Or.inl above),
      List.append_nil, front, List.insertIdx_zero]
    rfl
  · rcases Int.lt_or_le buffer.cursor.row buffer.height with inside | below
    · have next : buffer.caretPlace = buffer.cursor.row.toNat + 1 := by omega
      have row : buffer.cursor.row = (0 : Nat) + buffer.cursor.row.toNat := by omega
      rw [render, if_neg (by omega), if_neg (by omega), bodyRows_of_inside row (by omega),
        List.append_nil, next]
      rfl
    · have last : buffer.caretPlace = (numberedRows 0 buffer.lines).length := by
        rw [length_numberedRows]
        omega
      rw [render, if_neg (by omega), if_pos below, bodyRows_of_outside (Or.inr (by omega)),
        last, List.insertIdx_length_self]
      rfl

/-- A rendering without its caret row is the numbered lines. -/
theorem eraseIdx_render (buffer : Buffer) :
    buffer.render.eraseIdx buffer.caretPlace = numberedRows 0 buffer.lines := by
  rw [render_eq, List.eraseIdx_insertIdx_self]

theorem length_render (buffer : Buffer) : buffer.render.length = buffer.height + 1 := by
  have inside : buffer.caretPlace ≤ (numberedRows 0 buffer.lines).length := by
    rw [length_numberedRows]
    exact buffer.caretPlace_le
  rw [render_eq, List.length_insertIdx_of_le_length inside, length_numberedRows]
  rfl

theorem getElem?_render_caretPlace (buffer : Buffer) :
    buffer.render[buffer.caretPlace]? = some (caretRow buffer.cursor.col) := by
  rw [render_eq, List.getElem?_insertIdx_self, length_numberedRows]
  exact if_pos buffer.caretPlace_le

/-- What is shown elsewhere is a numbered line. -/
theorem exists_numberedRow_of_ne {buffer : Buffer} {place : Nat} {shown : Line}
    (read : buffer.render[place]? = some shown) (other : place ≠ buffer.caretPlace) :
    Exists fun index => Exists fun line => shown = numberedRow index line := by
  have listed : shown ∈ numberedRows 0 buffer.lines := by
    rw [← eraseIdx_render]
    exact List.mem_eraseIdx_iff_getElem?.mpr ⟨place, other, read⟩
  rcases List.mem_map.mp listed with ⟨entry, _, same⟩
  exact ⟨entry.2, entry.1, same.symm⟩

/-- There is one caret row in a rendering. -/
theorem isCaretRow_iff {buffer : Buffer} {place : Nat} {shown : Line}
    (read : buffer.render[place]? = some shown) :
    IsCaretRow shown ↔ place = buffer.caretPlace := by
  constructor
  · intro isCaret
    by_contra other
    rcases exists_numberedRow_of_ne read other with ⟨index, line, rfl⟩
    exact not_isCaretRow_numberedRow index line isCaret
  · rintro rfl
    rw [getElem?_render_caretPlace, Option.some.injEq] at read
    rw [← read]
    exact isCaretRow_caretRow _

/-! ## Equal renderings -/

theorem render_eq_iff (first second : Buffer) :
    first.render = second.render ↔ first.lines = second.lines ∧
      first.caretPlace = second.caretPlace ∧
      caretRow first.cursor.col = caretRow second.cursor.col := by
  constructor
  · intro same
    have caret := first.getElem?_render_caretPlace
    rw [same] at caret
    have place : first.caretPlace = second.caretPlace :=
      (isCaretRow_iff caret).mp (isCaretRow_caretRow _)
    have numbered : numberedRows 0 first.lines = numberedRows 0 second.lines := by
      rw [← eraseIdx_render, ← eraseIdx_render, same, place]
    rw [place, getElem?_render_caretPlace, Option.some.injEq] at caret
    exact ⟨numberedRows_injective 0 numbered, place, caret.symm⟩
  · rintro ⟨lines, place, caret⟩
    rw [render_eq, render_eq, lines, place, caret]

/-- A caret row is as long as the column says, unless there is no room on its left. -/
theorem caretRow_eq_iff {col col' : Int} (nonneg : 0 ≤ col) (nonneg' : 0 ≤ col') :
    caretRow col = caretRow col' ↔ col = col' := by
  constructor
  · intro same
    have length := congrArg List.length same
    simp only [caretRow, Text.spaces, List.length_append, List.length_replicate,
      List.length_singleton] at length
    omega
  · exact congrArg caretRow

/-- The cursor is in a row of the text or right beside it, and not left of it. -/
structure InFrame (buffer : Buffer) : Prop where
  above : -1 ≤ buffer.cursor.row
  below : buffer.cursor.row ≤ buffer.height
  nonneg : 0 ≤ buffer.cursor.col

/-- The cursor is in the last line or below it. -/
def AtBottom (buffer : Buffer) : Prop :=
  buffer.cursor.row = buffer.height - 1 ∨ buffer.cursor.row = buffer.height

theorem caretPlace_eq_iff {first second : Buffer} (inFrame : first.InFrame)
    (inFrame' : second.InFrame) (height : first.height = second.height) :
    first.caretPlace = second.caretPlace ↔
      first.cursor.row = second.cursor.row ∨ first.AtBottom ∧ second.AtBottom := by
  have above := inFrame.above
  have above' := inFrame'.above
  have below := inFrame.below
  have below' := inFrame'.below
  unfold caretPlace AtBottom clamp
  omega

theorem caretPlace_eq_zero_iff {buffer : Buffer} (inFrame : buffer.InFrame) :
    buffer.caretPlace = 0 ↔ buffer.cursor.row = -1 := by
  have above := inFrame.above
  have filled := buffer.height_pos
  unfold caretPlace clamp
  omega

/-! ## Renderings that are made -/

theorem tryRender_eq {buffer : Buffer} (nonneg : 0 ≤ buffer.cursor.col) (room : Int) :
    buffer.tryRender room =
      if columnBound ≤ gutter + buffer.cursor.col then .error .columnOutOfReach
      else if room ≤ gutter + buffer.cursor.col then .error .caretRowTooLong
      else .ok buffer.render := by
  have fits : (!reachable (gutter + buffer.cursor.col)) =
      decide (columnBound ≤ gutter + buffer.cursor.col) := by
    rw [Bool.eq_iff_iff]
    simp only [reachable, Bool.not_eq_true', Bool.and_eq_false_iff, decide_eq_false_iff_not,
      decide_eq_true_eq]
    unfold columnBound
    omega
  simp only [tryRender, fits, decide_eq_true_eq]

/-- What can be said of a rendering by itself: it has the numbered lines and one caret row,
which no line can be taken for, and which comes first exactly for a cursor above the text.
It is made unless the caret row is too long, whatever room there is for it. -/
structure Renders (buffer : Buffer) : Prop where
  length_eq : buffer.render.length = buffer.height + 1
  oneCaret : ExistsUnique fun place : Nat => Exists fun shown =>
    buffer.render[place]? = some shown ∧ IsCaretRow shown
  others : forall (place : Nat) (shown : Line), buffer.render[place]? = some shown ->
    ¬ IsCaretRow shown ->
      Exists fun index => Exists fun line => shown = numberedRow index line
  lines : forall index line, ¬ IsCaretRow (numberedRow index line)
  first : (Exists fun shown => buffer.render[0]? = some shown ∧ IsCaretRow shown) ↔
    buffer.cursor.row = -1
  made : forall room : Int, buffer.tryRender room =
    if columnBound ≤ gutter + buffer.cursor.col then .error .columnOutOfReach
    else if room ≤ gutter + buffer.cursor.col then .error .caretRowTooLong
    else .ok buffer.render

theorem InFrame.renders {buffer : Buffer} (inFrame : buffer.InFrame) : buffer.Renders where
  length_eq := buffer.length_render
  oneCaret := by
    refine ⟨buffer.caretPlace, ?_, ?_⟩
    · exact ⟨_, buffer.getElem?_render_caretPlace, isCaretRow_caretRow _⟩
    · rintro place ⟨shown, read, isCaret⟩
      exact (isCaretRow_iff read).mp isCaret
  others := by
    intro place shown read text
    exact exists_numberedRow_of_ne read (mt (isCaretRow_iff read).mpr text)
  lines := not_isCaretRow_numberedRow
  first := by
    rw [← caretPlace_eq_zero_iff inFrame]
    constructor
    · rintro ⟨shown, read, isCaret⟩
      exact ((isCaretRow_iff read).mp isCaret).symm
    · intro first
      have read := buffer.getElem?_render_caretPlace
      rw [first] at read
      exact ⟨_, read, isCaretRow_caretRow _⟩
  made := tryRender_eq inFrame.nonneg

/-- Two buffers are rendered alike exactly if they have the same lines and the same column,
and the same row or both a row at the bottom.  Every rendering has one caret row among
its lines. -/
theorem renderings_tell_states {first second : Buffer} (inFrame : first.InFrame)
    (inFrame' : second.InFrame) :
    (first.render = second.render ↔ first.lines = second.lines ∧
      first.cursor.col = second.cursor.col ∧
      (first.cursor.row = second.cursor.row ∨ first.AtBottom ∧ second.AtBottom)) ∧
    first.Renders ∧ second.Renders := by
  refine ⟨?_, inFrame.renders, inFrame'.renders⟩
  rw [render_eq_iff, caretRow_eq_iff inFrame.nonneg inFrame'.nonneg]
  constructor
  · rintro ⟨lines, place, col⟩
    have height : first.height = second.height := congrArg List.length lines
    exact ⟨lines, col, (caretPlace_eq_iff inFrame inFrame' height).mp place⟩
  · rintro ⟨lines, col, row⟩
    have height : first.height = second.height := congrArg List.length lines
    exact ⟨lines, (caretPlace_eq_iff inFrame inFrame' height).mpr row, col⟩

/-- Two lines, the second of which looks like a caret row. -/
def caretInText (row : Int) : Buffer :=
  ⟨[['a', 'b'], [' ', ' ', '^']], ⟨row, 2⟩, List.cons_ne_nil _ _⟩

/-- The last line and the row below it are rendered alike, and the row above the text is
rendered in another way, although the text has a caret of its own. -/
theorem renderings_tell_states_caret_in_text :
    (caretInText 1).InFrame ∧ (caretInText 2).InFrame ∧ (caretInText (-1)).InFrame ∧
    (caretInText 1).render = (caretInText 2).render ∧
    (caretInText (-1)).render ≠ (caretInText 2).render ∧ (caretInText 2).Renders := by
  have last : (caretInText 1).InFrame := ⟨by decide, by decide, by decide⟩
  have below : (caretInText 2).InFrame := ⟨by decide, by decide, by decide⟩
  have above : (caretInText (-1)).InFrame := ⟨by decide, by decide, by decide⟩
  have alike := renderings_tell_states last below
  have apart := renderings_tell_states above below
  refine ⟨last, below, above, ?_, ?_, alike.2.2⟩
  · exact alike.1.mpr ⟨rfl, rfl, Or.inr ⟨Or.inl rfl, Or.inr rfl⟩⟩
  · intro same
    rcases (apart.1.mp same).2.2 with row | bottom
    · exact absurd row (by decide)
    · rcases bottom.1 with row | row
      · exact absurd row (by decide)
      · exact absurd row (by decide)

/-- A cursor so far to the right that its caret row does not fit into 64 bits. -/
def farRight : Buffer :=
  ⟨[['a'], ['b']], ⟨0, 9223372036854775804⟩, List.cons_ne_nil _ _⟩

/-- Not every state has a rendering that tells it: far to the right none is made, however
much room there is. -/
theorem far_caret_row_refused :
    ¬ (Exists fun room : Int => forall first second : Buffer, first.InFrame -> second.InFrame ->
      ((Exists fun rows => first.tryRender room = .ok rows ∧ second.tryRender room = .ok rows) ↔
        first.lines = second.lines ∧ first.cursor.col = second.cursor.col ∧
        (first.cursor.row = second.cursor.row ∨ first.AtBottom ∧ second.AtBottom))) := by
  rintro ⟨room, told⟩
  have inFrame : farRight.InFrame := ⟨by decide, by decide, by decide⟩
  have refused : farRight.tryRender room = .error .columnOutOfReach := by
    rw [tryRender_eq inFrame.nonneg]
    exact if_pos (by decide)
  rcases (told farRight farRight inFrame inFrame).mpr ⟨rfl, rfl, Or.inl rfl⟩ with ⟨rows, made, _⟩
  rw [refused] at made
  cases made

end Buffer
end ModalDrill
