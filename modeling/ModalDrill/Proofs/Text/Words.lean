import Mathlib.Data.List.DropRight
import Mathlib.Logic.Function.Iterate
import ModalDrill.Text.Word

namespace ModalDrill
namespace Text

/-!
# Words one after the other

The stretch that a word deletion removes ends where the next word starts.  So taking
it away again and again goes through a text word by word, and a text in which no word
is left is used up.
-/

/-- The rest of a text from each of its words on, in a text that may start within a
word.  A word starts at a word character that has none in front of it. -/
def suffixesFrom (within : Bool) : List Char -> List (List Char)
  | [] => []
  | c :: rest =>
      if isWordChar c && !within then (c :: rest) :: suffixesFrom (isWordChar c) rest
      else suffixesFrom (isWordChar c) rest

/-- The rest of a text from each of its words on, the first word first. -/
def wordSuffixes (text : List Char) : List (List Char) :=
  suffixesFrom false text

/-- A text from its first word on. -/
def fromWord (text : List Char) : List Char :=
  text.dropWhile fun c => !isWordChar c

/-- What a word deletion leaves of a text. -/
def behindWord (text : List Char) : List Char :=
  match wordSpan text with
  | none => text
  | some span => text.drop span

/-! ## The first word -/

theorem suffixesFrom_separator {c : Char} (separator : isWordChar c = false) (within : Bool)
    (rest : List Char) : suffixesFrom within (c :: rest) = suffixesFrom false rest := by
  rw [suffixesFrom, separator]
  rfl

theorem suffixesFrom_within {c : Char} (wordChar : isWordChar c = true) (rest : List Char) :
    suffixesFrom true (c :: rest) = suffixesFrom true rest := by
  rw [suffixesFrom, wordChar]
  rfl

theorem suffixesFrom_start {c : Char} (wordChar : isWordChar c = true) (rest : List Char) :
    suffixesFrom false (c :: rest) = (c :: rest) :: suffixesFrom true rest := by
  rw [suffixesFrom, wordChar]
  rfl

/-- Separators in front of the first word make no difference. -/
theorem wordSuffixes_fromWord (text : List Char) :
    wordSuffixes (fromWord text) = wordSuffixes text := by
  induction text with
  | nil => rfl
  | cons c rest inductionHypothesis =>
      cases wordChar : isWordChar c with
      | true =>
          rw [fromWord, List.dropWhile_cons_of_neg (p := fun c => !isWordChar c) (by simp [wordChar])]
      | false =>
          rw [fromWord, List.dropWhile_cons_of_pos (p := fun c => !isWordChar c) (by simp [wordChar])]
          exact inductionHypothesis.trans (suffixesFrom_separator wordChar false rest).symm

/-- The next word starts behind the one that the text is in. -/
theorem suffixesFrom_true (text : List Char) :
    suffixesFrom true text = wordSuffixes (text.dropWhile isWordChar) := by
  induction text with
  | nil => rfl
  | cons c rest inductionHypothesis =>
      cases wordChar : isWordChar c with
      | true =>
          rw [suffixesFrom_within wordChar, List.dropWhile_cons_of_pos wordChar]
          exact inductionHypothesis
      | false =>
          rw [List.dropWhile_cons_of_neg (Bool.eq_false_iff.mp wordChar), wordSuffixes,
            suffixesFrom_separator wordChar, suffixesFrom_separator wordChar]

/-! ## What is left behind a word -/

theorem behindWord_of_noWord {text : List Char} (noWord : fromWord text = []) :
    behindWord text = text := by
  have span : wordSpan text = none := if_pos (List.isEmpty_iff.mpr noWord)
  rw [behindWord, span]

theorem behindWord_suffix (text : List Char) : behindWord text <:+ text := by
  unfold behindWord
  split
  · exact List.suffix_rfl
  · exact List.drop_suffix _ _

/-- A text with a word is left from its next word on. -/
theorem behindWord_of_word {text : List Char} (word : fromWord text ≠ []) :
    behindWord text = fromWord ((fromWord text).dropWhile isWordChar) := by
  have span : wordSpan text = some
      (text.length - (fromWord ((fromWord text).dropWhile isWordChar)).length) :=
    if_neg (mt List.isEmpty_iff.mp word)
  have suffix : fromWord ((fromWord text).dropWhile isWordChar) <:+ text :=
    ((List.dropWhile_suffix _).trans (List.dropWhile_suffix _)).trans (List.dropWhile_suffix _)
  rw [behindWord, span]
  exact (List.suffix_iff_eq_drop.mp suffix).symm

theorem fromWord_behindWord {text : List Char} (word : fromWord text ≠ []) :
    fromWord (behindWord text) = behindWord text := by
  rw [behindWord_of_word word]
  exact List.dropWhile_idempotent _ _

theorem wordSuffixes_of_noWord {text : List Char} (noWord : fromWord text = []) :
    wordSuffixes text = [] := by
  rw [← wordSuffixes_fromWord, noWord]
  rfl

theorem wordSuffixes_of_word {text : List Char} (word : fromWord text ≠ []) :
    wordSuffixes text = fromWord text :: wordSuffixes (behindWord text) := by
  rw [behindWord_of_word word, wordSuffixes_fromWord, ← wordSuffixes_fromWord text]
  cases first : fromWord text with
  | nil => exact absurd first word
  | cons c rest =>
      have wordChar : isWordChar c = true := by
        have stops := List.head?_dropWhile_not (fun c => !isWordChar c) text
        rw [← fromWord, first] at stops
        simpa using stops
      rw [wordSuffixes, suffixesFrom_start wordChar, suffixesFrom_true,
        List.dropWhile_cons_of_pos wordChar]

theorem wordSuffixes_eq_nil_iff {text : List Char} : wordSuffixes text = [] ↔ fromWord text = [] := by
  constructor
  · intro noWord
    by_contra word
    rw [wordSuffixes_of_word word] at noWord
    cases noWord
  · exact wordSuffixes_of_noWord

/-! ## Word by word -/

/-- From the start of a word, each step goes to the start of the next word. -/
theorem iterate_behindWord_of_start {text : List Char} (start : fromWord text = text) (words : Nat) :
    behindWord^[words] text = (wordSuffixes text)[words]?.getD [] := by
  induction words generalizing text with
  | zero =>
      by_cases empty : text = []
      · rw [empty]
        rfl
      · have filled : fromWord text ≠ [] := by rwa [start]
        rw [wordSuffixes_of_word filled, start]
        rfl
  | succ words inductionHypothesis =>
      rw [Function.iterate_succ_apply]
      by_cases empty : fromWord text = []
      · rw [behindWord_of_noWord empty, inductionHypothesis start, wordSuffixes_of_noWord empty]
        rfl
      · rw [inductionHypothesis (fromWord_behindWord empty), wordSuffixes_of_word empty,
          List.getElem?_cons_succ]

/-- In a text with a word, as many steps as there are words use it up, and fewer lead
to the word behind those that were passed. -/
theorem iterate_behindWord {text : List Char} (word : wordSuffixes text ≠ []) {words : Nat}
    (moves : 1 ≤ words) : behindWord^[words] text = (wordSuffixes text)[words]?.getD [] := by
  have filled : fromWord text ≠ [] := mt wordSuffixes_of_noWord word
  cases words with
  | zero => exact absurd moves (Nat.not_succ_le_zero 0)
  | succ words =>
      rw [Function.iterate_succ_apply, iterate_behindWord_of_start (fromWord_behindWord filled),
        wordSuffixes_of_word filled, List.getElem?_cons_succ]

end Text
end ModalDrill
