import ModalDrill.Number.Binary64
import ModalDrill.Text.Blank
import ModalDrill.Text.DecimalDigit

namespace ModalDrill
namespace Number

/-!
# Reading numbers as people type them

A typed number may have a sign, a fraction and an exponent, blanks around it,
underscores between its digits, and the digits of any script; the words for
infinity and for an undefined number are accepted in any case.
-/

/-- The exponent at the front of a text, and what is behind it; without a digit
there is no exponent. -/
def exponentPart (input : List Char) : Option Int × List Char :=
  match input with
  | [] => (none, [])
  | mark :: rest =>
      if mark = 'e' ∨ mark = 'E' then
        let negative := rest.head? == some '-'
        let signed := negative || rest.head? == some '+'
        let body := if signed then rest.drop 1 else rest
        let digits := body.takeWhile Text.isDigit
        let size : Int := Text.numeralValue digits
        if digits.isEmpty then (none, input)
        else (some (if negative then -size else size), body.dropWhile Text.isDigit)
      else (none, input)

/-- The fraction at the front of a text, and what is behind it.  The fraction
may have no digits. -/
def fractionPart (input : List Char) : List Char × List Char :=
  match input with
  | '.' :: rest => (rest.takeWhile Text.isDigit, rest.dropWhile Text.isDigit)
  | _ => ([], input)

/-- A number behind its sign: digits on at least one side of the point. -/
def unsigned? (negative : Bool) (input : List Char) : Option Binary64 :=
  let whole := input.takeWhile Text.isDigit
  let (fraction, behind) := fractionPart (input.dropWhile Text.isDigit)
  let (exponent, rest) := exponentPart behind
  if (whole ++ fraction).isEmpty || !rest.isEmpty then none
  else some (Binary64.ofDecimal negative (Text.numeralValue (whole ++ fraction))
    (exponent.getD 0 - fraction.length))

/-- The numbers that are written as a word, behind their sign. -/
def word? (negative : Bool) (input : List Char) : Option Binary64 :=
  let folded := String.ofList (input.map Char.toLower)
  if folded = "inf" ∨ folded = "infinity" then some (.infinite negative)
  else if folded = "nan" then some .nan
  else none

/-- The blanks that may stand around a typed number.  Of the ASCII characters
these are the space and the line and column controls only. -/
def isMargin (c : Char) : Bool :=
  c == ' ' || (decide ('\t' ≤ c) && decide (c ≤ '\r'))

/-- A character as ASCII: blanks and digits of all scripts have a counterpart. -/
def toAscii? (c : Char) : Option Char :=
  if c.toNat < 128 then some c
  else if Text.isBlank c then some ' '
  else (Text.decimalValue? c).map fun value => Char.ofNat ('0'.toNat + value)

/-- Remove the underscores, if each of them stands between two digits. -/
def withoutUnderscores? (afterDigit : Bool) : List Char -> Option (List Char)
  | [] => some []
  | '_' :: c :: rest =>
      if afterDigit && Text.isDigit c then withoutUnderscores? false (c :: rest) else none
  | c :: rest =>
      if c = '_' then none
      else (withoutUnderscores? (Text.isDigit c) rest).map fun kept => c :: kept

/-- Remove the margins at both ends. -/
def withoutMargins (input : List Char) : List Char :=
  ((input.dropWhile isMargin).reverse.dropWhile isMargin).reverse

/-- The number that a text stands for. -/
def ofTyped? (typed : String) : Option Binary64 := do
  let ascii <- typed.toList.mapM toAscii?
  let body <- withoutUnderscores? false (withoutMargins ascii)
  let negative := body.head? == some '-'
  let signed := negative || body.head? == some '+'
  let size := if signed then body.drop 1 else body
  (word? negative size).or (unsigned? negative size)

end Number
end ModalDrill
