namespace ModalDrill
namespace Text

/-!
# Blank characters and stripping

Names, typed commands and answers are compared after stripping: blank
characters are removed at both ends and kept inside.  The blank set is the
Unicode white space together with the four information separators.
-/

/-- The blank characters, as closed ranges of code points in increasing order. -/
def blankRanges : List (Nat × Nat) :=
  [(0x09, 0x0D), (0x1C, 0x20), (0x85, 0x85), (0xA0, 0xA0), (0x1680, 0x1680),
    (0x2000, 0x200A), (0x2028, 0x2029), (0x202F, 0x202F), (0x205F, 0x205F), (0x3000, 0x3000)]

/-- Membership of a character in a list of closed ranges. -/
def inRanges (ranges : List (Nat × Nat)) (c : Char) : Bool :=
  ranges.any fun range => decide (range.1 ≤ c.toNat) && decide (c.toNat ≤ range.2)

def isBlank (c : Char) : Bool :=
  inRanges blankRanges c

/-- Remove the blank characters at the front. -/
def trimStart (text : List Char) : List Char :=
  text.dropWhile isBlank

/-- Remove the blank characters at the back. -/
def trimEnd (text : List Char) : List Char :=
  (text.reverse.dropWhile isBlank).reverse

/-- Remove the blank characters at both ends. -/
def trim (text : List Char) : List Char :=
  trimEnd (trimStart text)

/-- `trim` on strings. -/
def strip (text : String) : String :=
  String.ofList (trim text.toList)

@[simp] theorem toList_strip (text : String) : (strip text).toList = trim text.toList :=
  String.toList_ofList

/-- ASCII letters become small letters.  This is the case folding of the
words that leave a menu: no other character folds to a letter of theirs. -/
def small (text : String) : String :=
  String.ofList (text.toList.map Char.toLower)

end Text
end ModalDrill
