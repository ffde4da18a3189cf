import ModalDrill.Text.Slice
import ModalDrill.Text.Word

namespace ModalDrill
namespace Text

/-!
# How far cuts and searches reach

A cut takes no more than there is, and a word character is found inside the
text that was searched.  These are the bounds on which the columns of a cursor
rest.
-/

theorem position_le (length : Nat) (column : Int) : position length column ≤ length := by
  unfold position
  split <;> omega

theorem length_before (text : List Char) (column : Int) :
    (before text column).length = position text.length column := by
  rw [before, List.length_take]
  exact Nat.min_eq_left (position_le text.length column)

/-- The part before a column of the text is as long as the column says. -/
theorem length_before_of_mem {text : List Char} {column : Int} (nonneg : 0 ≤ column)
    (inside : column ≤ text.length) : ((before text column).length : Int) = column := by
  rw [length_before, position_of_nonneg text.length nonneg]
  omega

theorem before_of_nonneg (text : List Char) {column : Int} (nonneg : 0 ≤ column) :
    before text column = text.take column.toNat := by
  rw [before, position_of_nonneg _ nonneg, ← List.take_eq_take_min]

theorem after_of_nonneg (text : List Char) {column : Int} (nonneg : 0 ≤ column) :
    after text column = text.drop column.toNat := by
  rw [after, position_of_nonneg _ nonneg, ← List.drop_eq_drop_min]

theorem before_append {front : List Char} {column : Int} (reaches : (front.length : Int) = column)
    (back : List Char) : before (front ++ back) column = front := by
  rw [← reaches, before_of_nonneg _ (Int.natCast_nonneg _), Int.toNat_natCast, List.take_left]

theorem after_append {front : List Char} {column : Int} (reaches : (front.length : Int) = column)
    (back : List Char) : after (front ++ back) column = back := by
  rw [← reaches, after_of_nonneg _ (Int.natCast_nonneg _), Int.toNat_natCast, List.drop_left]

theorem nextWordChar_lt {text : List Char} {start found : Nat}
    (search : nextWordChar text start = some found) : start ≤ found ∧ found < text.length := by
  unfold nextWordChar at search
  rcases Option.map_eq_some_iff.mp search with ⟨offset, isFirst, rfl⟩
  have inside := (List.findIdx?_eq_some_iff_getElem.mp isFirst).1
  rw [List.length_drop] at inside
  omega

theorem lastWordChar_lt {text : List Char} {found : Nat}
    (search : lastWordChar text = some found) : found < text.length := by
  induction text generalizing found with
  | nil => cases search
  | cons c rest inductionHypothesis =>
      simp only [lastWordChar] at search
      rw [List.length_cons]
      cases later : lastWordChar rest with
      | some position =>
          rw [later] at search
          cases search
          exact Nat.succ_lt_succ (inductionHypothesis later)
      | none =>
          simp only [later, Option.ite_none_right_eq_some] at search
          cases search.2
          exact Nat.succ_pos _

end Text
end ModalDrill
