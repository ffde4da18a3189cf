import Mathlib.Data.List.DropRight
import ModalDrill.Proofs.Text.Stripping
import ModalDrill.Text.Numeral

namespace ModalDrill
namespace Text

/-!
# Fields in columns

A field that fits into its column fills it up with blanks.  A numeral has no blank in
it, so it is read back as the last word of whatever stands before it and ends in a
blank; what is left is the field before it, as long as that one ends in no blank of its
own.
-/

/-! ## Columns -/

theorem length_alignRight {width : Nat} {text : List Char} (fits : text.length ≤ width) :
    (alignRight width text).length = width := by
  rw [alignRight, spaces, List.length_append, List.length_replicate]
  omega

theorem length_alignLeft {width : Nat} {text : List Char} (fits : text.length ≤ width) :
    (alignLeft width text).length = width := by
  rw [alignLeft, spaces, List.length_append, List.length_replicate]
  omega

theorem suffix_alignRight (width : Nat) (text : List Char) : text <:+ alignRight width text :=
  List.suffix_append _ text

theorem prefix_alignLeft (width : Nat) (text : List Char) : text <+: alignLeft width text :=
  List.prefix_append text _

/-- The space in front of a column can stand behind its filling as well. -/
theorem cons_alignRight (width : Nat) (text : List Char) :
    ' ' :: alignRight width text = spaces (width - text.length) ++ ' ' :: text := by
  rw [alignRight, spaces, ← List.cons_append, ← List.replicate_succ, List.replicate_succ',
    List.append_assoc, List.singleton_append]

/-! ## Words -/

/-- A text without a space in it. -/
def Unspaced (text : List Char) : Prop :=
  forall c, c ∈ text -> c ≠ ' '

/-- What stands behind the last space. -/
def lastWord (text : List Char) : List Char :=
  text.rtakeWhile fun c => c != ' '

/-- What stands before the last word, without the spaces between them. -/
def beforeLastWord (text : List Char) : List Char :=
  (text.rdropWhile fun c => c != ' ').rdropWhile fun c => c == ' '

theorem lastWord_append {word : List Char} (unspaced : Unspaced word) (front : List Char) :
    lastWord (front ++ ' ' :: word) = word := by
  have whole : forall c, c ∈ word.reverse -> (c != ' ') = true :=
    fun c listed => bne_iff_ne.mpr (unspaced c (List.mem_reverse.mp listed))
  rw [lastWord, List.rtakeWhile, List.reverse_append, List.reverse_cons, List.append_assoc,
    List.takeWhile_append_of_pos whole, List.singleton_append, List.takeWhile_cons_of_neg (by simp),
    List.append_nil, List.reverse_reverse]

theorem rdropWhile_append_word {word : List Char} (unspaced : Unspaced word) (front : List Char) :
    ((front ++ ' ' :: word).rdropWhile fun c => c != ' ') = front ++ [' '] := by
  have split := List.rdropWhile_append_rtakeWhile (p := fun c => c != ' ')
    (l := front ++ ' ' :: word)
  have last := lastWord_append unspaced front
  rw [lastWord] at last
  rw [last] at split
  exact List.append_cancel_right (split.trans (List.append_cons front ' ' word))

theorem rdropWhile_append_spaces {text : List Char}
    (ended : (text.rdropWhile fun c => c == ' ') = text) (count : Nat) :
    ((text ++ spaces count).rdropWhile fun c => c == ' ') = text := by
  rw [List.rdropWhile, List.reverse_append, List.dropWhile_append_of_pos, ← List.rdropWhile, ended]
  intro c listed
  rw [List.mem_reverse, spaces, List.mem_replicate] at listed
  exact beq_iff_eq.mpr listed.2

/-- A word and the text before it, over however many spaces. -/
theorem beforeLastWord_append {text word : List Char} (unspaced : Unspaced word)
    (ended : (text.rdropWhile fun c => c == ' ') = text) (count : Nat) :
    beforeLastWord (text ++ spaces count ++ ' ' :: word) = text := by
  have more : text ++ spaces count ++ [' '] = text ++ spaces (count + 1) := by
    rw [spaces, spaces, List.replicate_succ', List.append_assoc]
  rw [beforeLastWord, rdropWhile_append_word unspaced, more, rdropWhile_append_spaces ended]

/-- The last column of a line is read as the word in it. -/
theorem lastWord_alignRight {word : List Char} (unspaced : Unspaced word) (front : List Char)
    (width : Nat) : lastWord (front ++ ' ' :: alignRight width word) = word := by
  rw [cons_alignRight, ← List.append_assoc, lastWord_append unspaced]

/-- Of two columns that stand side by side, the left one is read as the text in it. -/
theorem beforeLastWord_alignLeft {text word : List Char} (unspaced : Unspaced word)
    (ended : (text.rdropWhile fun c => c == ' ') = text) (width width' : Nat) :
    beforeLastWord (alignLeft width text ++ ' ' :: alignRight width' word) = text := by
  have filling : alignLeft width text ++ spaces (width' - word.length) =
      text ++ spaces (width - text.length + (width' - word.length)) := by
    rw [alignLeft, spaces, spaces, spaces, List.replicate_add, List.append_assoc]
  rw [cons_alignRight, ← List.append_assoc, filling, beforeLastWord_append unspaced ended]

/-- A stripped text ends in no space. -/
theorem rdropWhile_of_strip {text : String} (stripped : strip text = text) :
    (text.toList.rdropWhile fun c => c == ' ') = text.toList := by
  have ended : text.toList.rdropWhile isBlank = text.toList := by
    have trimmed : trim text.toList = text.toList := by rw [← toList_strip, stripped]
    rw [← trimmed]
    exact trimEnd_trimEnd _
  rw [List.rdropWhile_eq_self_iff] at ended ⊢
  intro filled space
  rw [beq_iff_eq] at space
  exact ended filled (space ▸ rfl)

/-! ## Numerals -/

/-- The integer that a numeral with or without a sign stands for. -/
def signedValue : List Char -> Int
  | '-' :: digits => -numeralValue digits
  | digits => numeralValue digits

theorem numeralValue_numeral (value : Nat) : numeralValue (numeral value) = value :=
  Nat.ofDigitChars_ten_toDigits

theorem isDigit_of_mem_numeral {value : Nat} {c : Char} (listed : c ∈ numeral value) :
    c.isDigit = true :=
  Nat.isDigit_of_mem_toDigits (by decide) (by decide) listed

theorem numeral_unspaced (value : Nat) : Unspaced (numeral value) := by
  rintro c listed rfl
  exact absurd (isDigit_of_mem_numeral listed) (by decide)

theorem signedNumeral_unspaced (value : Int) : Unspaced (signedNumeral value) := by
  cases value with
  | ofNat value => exact numeral_unspaced value
  | negSucc value =>
      rintro c listed rfl
      rcases List.mem_cons.mp listed with sign | digit
      · exact absurd sign (by decide)
      · exact numeral_unspaced _ _ digit rfl

theorem signedValue_signedNumeral (value : Int) : signedValue (signedNumeral value) = value := by
  cases value with
  | ofNat value =>
      have digits : signedValue (numeral value) = numeralValue (numeral value) := by
        unfold signedValue
        split
        · next rest signed =>
            have sign : '-' ∈ numeral value := signed ▸ List.mem_cons_self
            exact absurd (isDigit_of_mem_numeral sign) (by decide)
        · rfl
      rw [signedNumeral, digits, numeralValue_numeral]
      rfl
  | negSucc value =>
      rw [signedNumeral, signedValue, numeralValue_numeral]
      rfl

end Text
end ModalDrill
