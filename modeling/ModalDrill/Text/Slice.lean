namespace ModalDrill
namespace Text

/-!
# Cutting a text at a signed column

A column may be negative, and then it counts from the end of the text.  Every
column names a position between the two ends, so cutting never fails, and the
two parts of one cut are the whole text.
-/

/-- The position that a signed column names in a text of the given length. -/
def position (length : Nat) (column : Int) : Nat :=
  if column < 0 then (length + column).toNat else min column.toNat length

/-- The part of a text before a column. -/
def before (text : List Char) (column : Int) : List Char :=
  text.take (position text.length column)

/-- The part of a text from a column on. -/
def after (text : List Char) (column : Int) : List Char :=
  text.drop (position text.length column)

theorem before_append_after (text : List Char) (column : Int) :
    before text column ++ after text column = text :=
  List.take_append_drop _ text

theorem position_of_nonneg (length : Nat) {column : Int} (nonneg : 0 ≤ column) :
    position length column = min column.toNat length :=
  if_neg (Int.not_lt.mpr nonneg)

end Text
end ModalDrill
