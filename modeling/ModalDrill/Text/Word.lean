namespace ModalDrill
namespace Text

/-!
# Words of a line

A word is a run of ASCII letters, digits and underscores; every other
character, accented letters included, separates words.
-/

def isWordChar (c : Char) : Bool :=
  c.isAlphanum || c == '_'

/-- The length of the stretch that a word deletion removes at the front of a
text: separators, the first word and the separators behind it.  A text
without a word has no such stretch. -/
def wordSpan (text : List Char) : Option Nat :=
  let fromWord := text.dropWhile fun c => !isWordChar c
  let behindWord := fromWord.dropWhile isWordChar
  let rest := behindWord.dropWhile fun c => !isWordChar c
  if fromWord.isEmpty then none else some (text.length - rest.length)

/-- The first position at or after `start` that holds a word character. -/
def nextWordChar (text : List Char) (start : Nat) : Option Nat :=
  ((text.drop start).findIdx? isWordChar).map (start + ·)

/-- The last position that holds a word character. -/
def lastWordChar : List Char -> Option Nat
  | [] => none
  | c :: rest =>
      match lastWordChar rest with
      | some found => some (found + 1)
      | none => if isWordChar c then some 0 else none

end Text
end ModalDrill
