import ModalDrill.Text.Blank

namespace ModalDrill

/-!
# Texts of code points

A numbered escape may name half a pair of surrogates, which is a code point but
no character.  A text of code points keeps such halves.  As a string it shows a
private character in the place of each half, so that its length is kept and two
halves that differ stay apart.  Every string is such a text, and nothing is
lost on the way there and back.

A text has a form in bytes only if it has no half in it.  Halves are kept by
everything that looks at the code points alone, such as stripping.
-/

/-- A character, or half a pair of surrogates. -/
inductive CodePoint
  | char (c : Char)
  | surrogate (unit : Nat)
deriving DecidableEq, Repr

namespace CodePoint

/-- A code point as a character: half a pair shows the private character of the
last plane that has the same four last digits. -/
def shown : CodePoint -> Char
  | char c => c
  | surrogate unit => Char.ofNat (0x100000 + unit)

def isChar : CodePoint -> Bool
  | char _ => true
  | surrogate _ => false

/-- No half of a pair is blank. -/
def isBlank : CodePoint -> Bool
  | char c => Text.isBlank c
  | surrogate _ => false

end CodePoint

/-- A text that may hold surrogates. -/
structure CodeText where
  points : List CodePoint
deriving DecidableEq, Repr

namespace CodeText

def ofString (text : String) : CodeText :=
  ⟨text.toList.map .char⟩

instance : Coe String CodeText :=
  ⟨ofString⟩

/-- The characters of a text, with a private one for each surrogate. -/
def toList (text : CodeText) : List Char :=
  text.points.map CodePoint.shown

def toString (text : CodeText) : String :=
  String.ofList text.toList

/-- Does a text have a form in bytes? -/
def isEncodable (text : CodeText) : Bool :=
  text.points.all CodePoint.isChar

/-- Remove the blank characters at both ends. -/
def strip (text : CodeText) : CodeText :=
  ⟨((text.points.dropWhile CodePoint.isBlank).reverse.dropWhile CodePoint.isBlank).reverse⟩

@[simp] theorem toList_ofString (text : String) : (ofString text).toList = text.toList := by
  simp [toList, ofString, Function.comp_def, CodePoint.shown]

@[simp] theorem toString_ofString (text : String) : (ofString text).toString = text := by
  simp [toString]

@[simp] theorem isEncodable_ofString (text : String) : (ofString text).isEncodable = true := by
  simp [isEncodable, ofString, CodePoint.isChar]

end CodeText
end ModalDrill
