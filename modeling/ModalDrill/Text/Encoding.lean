import ModalDrill.Text.Quoted

namespace ModalDrill
namespace Text

/-!
# Encoded texts

A text file holds UTF-8, with or without a byte order mark in front.  One mark
is not part of the text; a file that ends inside the mark holds no text.  A
text with half a pair of surrogates in it cannot be written like this.
-/

/-- The byte order mark. -/
def byteOrderMark : List UInt8 :=
  [0xEF, 0xBB, 0xBF]

/-- The bytes of the text itself. -/
def withoutMark (bytes : List UInt8) : List UInt8 :=
  if bytes.isPrefixOf byteOrderMark then []
  else if byteOrderMark.isPrefixOf bytes then bytes.drop byteOrderMark.length
  else bytes

/-- The text of a file, unless its bytes are not UTF-8. -/
def decode? (bytes : List UInt8) : Option String :=
  String.fromUTF8? (ByteArray.mk (withoutMark bytes).toArray)

/-- What is said about a text that has no form in bytes: the first halves of pairs in
a row, by its number if it is one, and where they are. -/
def unencodable (text : CodeText) : String :=
  let start := (text.points.takeWhile CodePoint.isChar).length
  let halves := (text.points.drop start).takeWhile fun point => !point.isChar
  let place :=
    match halves with
    | [.surrogate unit] =>
        " '\\u" ++ String.ofList (hexNumeral 4 unit) ++ "' in position " ++ shown start
    | _ => "s in position " ++ shown start ++ "-" ++ shown (start + halves.length - 1 : Nat)
  "'utf-8' codec can't encode character" ++ place ++ ": surrogates not allowed"

end Text
end ModalDrill
