namespace ModalDrill
namespace Text

/-!
# Numerals and columns of a table

Numbers are written in decimal without leading zeros.  Padding counts
characters and never cuts: a text wider than its column is kept whole.
-/

def isDigit (c : Char) : Bool :=
  decide ('0' ≤ c) && decide (c ≤ '9')

/-- The value of a decimal digit. -/
def digitValue (c : Char) : Nat :=
  c.toNat - '0'.toNat

/-- The value of a run of decimal digits. -/
def numeralValue (digits : List Char) : Nat :=
  digits.foldl (fun value digit => 10 * value + digitValue digit) 0

/-- The value of a hexadecimal digit. -/
def hexValue? (c : Char) : Option Nat :=
  if '0' ≤ c ∧ c ≤ '9' then some (c.toNat - '0'.toNat)
  else if 'a' ≤ c ∧ c ≤ 'f' then some (c.toNat - 'a'.toNat + 10)
  else if 'A' ≤ c ∧ c ≤ 'F' then some (c.toNat - 'A'.toNat + 10)
  else none

/-- The decimal numeral of a natural number. -/
def numeral (value : Nat) : List Char :=
  Nat.toDigits 10 value

/-- The decimal numeral of an integer, with a sign only below zero. -/
def signedNumeral : Int -> List Char
  | .ofNat value => numeral value
  | .negSucc value => '-' :: numeral (value + 1)

/-- The numeral of an integer as a string. -/
def shown (value : Int) : String :=
  String.ofList (signedNumeral value)

def spaces (count : Nat) : List Char :=
  List.replicate count ' '

/-- Right-align a text in a column of the given width. -/
def alignRight (width : Nat) (text : List Char) : List Char :=
  spaces (width - text.length) ++ text

/-- Left-align a text in a column of the given width. -/
def alignLeft (width : Nat) (text : List Char) : List Char :=
  text ++ spaces (width - text.length)

end Text
end ModalDrill
