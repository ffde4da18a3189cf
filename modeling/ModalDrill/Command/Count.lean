import ModalDrill.Text.Numeral

namespace ModalDrill

/-!
# Repeat counts

A counted command is a run of decimal digits followed by a word of small
letters, both in ASCII, and nothing else.  The count is capped, so that a
numeral of any length is read in bounded numbers.
-/

namespace Count

/-- The largest count.  It is beyond the height of any text that a drill shows. -/
def limit : Nat := 999999

def isSmallLetter (c : Char) : Bool :=
  decide ('a' ≤ c) && decide (c ≤ 'z')

/-- Read a numeral without ever holding more than the cap and one digit. -/
def capped (digits : List Char) : Nat :=
  digits.foldl (fun value digit => min limit (10 * value + Text.digitValue digit)) 0

/-- A typed text, cut into its count and its word.  A text that is not a
counted command is all word, once. -/
def split (typed : List Char) : Nat × List Char :=
  let digits := typed.takeWhile Text.isDigit
  let word := typed.dropWhile Text.isDigit
  if !digits.isEmpty && !word.isEmpty && word.all isSmallLetter then (capped digits, word)
  else (1, typed)

end Count
end ModalDrill
