import ModalDrill.Text.CodePoint
import ModalDrill.Text.Numeral
import ModalDrill.Text.Printable

namespace ModalDrill
namespace Text

/-!
# Quoted texts

A quoted text stands between two equal quotes and shows every character that
could be misread by an escape: the quote itself, the backslash, line and
column controls, and whatever is not printable.  It is the form in which names
and arguments appear inside messages.
-/

/-- The hexadecimal numeral of `value` in at least `width` small digits. -/
def hexNumeral (width value : Nat) : List Char :=
  let digits := Nat.toDigits 16 value
  List.replicate (width - digits.length) '0' ++ digits

/-- The shortest of the three numbered escapes that can hold a character. -/
def codeEscape (c : Char) : List Char :=
  if c.toNat ≤ 0xFF then '\\' :: 'x' :: hexNumeral 2 c.toNat
  else if c.toNat ≤ 0xFFFF then '\\' :: 'u' :: hexNumeral 4 c.toNat
  else '\\' :: 'U' :: hexNumeral 8 c.toNat

/-- One character between quotes of the given kind. -/
def escapeChar (quote c : Char) : List Char :=
  if c = quote ∨ c = '\\' then ['\\', c]
  else if c = '\t' then ['\\', 't']
  else if c = '\n' then ['\\', 'n']
  else if c = '\r' then ['\\', 'r']
  else if isPrintable c then [c]
  else codeEscape c

/-- Single quotes, unless the text holds some and holds no double quote. -/
def quoteFor (text : List Char) : Char :=
  if text.contains '\x27' && !text.contains '"' then '"' else '\x27'

/-- The quoted form of a text. -/
def quoted (text : List Char) : List Char :=
  let quote := quoteFor text
  quote :: text.flatMap (escapeChar quote) ++ [quote]

/-- One code point between quotes of the given kind.  Half a pair of surrogates
is always escaped. -/
def escapePoint (quote : Char) : CodePoint -> List Char
  | .char c => escapeChar quote c
  | .surrogate unit => '\\' :: 'u' :: hexNumeral 4 unit

end Text

/-- The quoted form of a text of code points. -/
def CodeText.quoted (text : CodeText) : List Char :=
  let quote := Text.quoteFor text.toList
  quote :: text.points.flatMap (Text.escapePoint quote) ++ [quote]

end ModalDrill
