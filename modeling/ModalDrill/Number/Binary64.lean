import ModalDrill.Number.Rounding

namespace ModalDrill

/-!
# Binary floating point numbers of 64 bits

A finite number is a mantissa below `2 ^ 53` times a power of two; reading a
decimal rounds it once, to the nearest such number and to the even mantissa on
a tie.  A decimal beyond the largest number reads as infinite.  Sums are exact
sums that are rounded once; comparisons round nothing.
-/

inductive Binary64
  | finite (negative : Bool) (mantissa : Nat) (exponent : Int)
  | infinite (negative : Bool)
  | nan
deriving DecidableEq, Repr

namespace Binary64

/-- Two to the 52nd, the smallest mantissa that fills its place. -/
def fullMantissa : Nat := 4503599627370496

/-- The exponent of the smallest steps. -/
def lowestExponent : Int := -1074

/-- The exponent of the largest steps. -/
def highestExponent : Int := 971

/-- The exact value of a finite number. -/
def exactly (negative : Bool) (mantissa : Nat) (exponent : Int) : Rat :=
  Number.scaled (if negative then -mantissa else mantissa) 2 exponent

def toRat? : Binary64 -> Option Rat
  | finite negative mantissa exponent => some (exactly negative mantissa exponent)
  | _ => none

/-- The zero without a sign. -/
def zero : Binary64 :=
  finite false 0 lowestExponent

/-- The exponent of the steps between the numbers around a positive value. -/
def stepExponent (value : Rat) : Int :=
  let guess : Int := (value.num.natAbs.log2 : Int) - (value.den.log2 : Int) - 52
  max lowestExponent (if value < Number.scaled fullMantissa 2 guess then guess - 1 else guess)

/-- The number nearest to a value without a sign, and the given sign. -/
def ofMagnitude (negative : Bool) (value : Rat) : Binary64 :=
  if value ≤ 0 then finite negative 0 lowestExponent
  else
    let step := stepExponent value
    let steps := (Number.nearest (value / Number.scaled 1 2 step)).toNat
    let carried := decide (steps = 2 * fullMantissa)
    let exponent := if carried then step + 1 else step
    if highestExponent < exponent then infinite negative
    else finite negative (if carried then fullMantissa else steps) exponent

/-- The number nearest to a rational.  Zero gets no sign. -/
def ofRat (value : Rat) : Binary64 :=
  ofMagnitude (decide (value < 0)) (Number.magnitude value)

/-- The number nearest to an integer, unless that is beyond the largest number. -/
def ofInt? (value : Int) : Option Binary64 :=
  match ofRat value with
  | infinite _ => none
  | number => some number

/-- The number nearest to a decimal.  Decimals far outside the range of the
finite numbers are settled by their size, whatever their exponent. -/
def ofDecimal (negative : Bool) (digits : Nat) (exponent : Int) : Binary64 :=
  let size : Int := (Text.numeral digits).length + exponent
  if digits = 0 ∨ size < -330 then finite negative 0 lowestExponent
  else if 310 < size then infinite negative
  else ofMagnitude negative (Number.scaled digits 10 exponent)

/-! ## Sums and comparisons -/

/-- The same number with the other sign. -/
def neg : Binary64 -> Binary64
  | finite negative mantissa exponent => finite (!negative) mantissa exponent
  | infinite negative => infinite (!negative)
  | nan => nan

/-- The sum of two numbers.  A sum of zero has a sign only if both numbers have
one, and opposite infinities have no sum. -/
def add (first second : Binary64) : Binary64 :=
  match first, second with
  | finite negative mantissa exponent, finite negative' mantissa' exponent' =>
      let sum := exactly negative mantissa exponent + exactly negative' mantissa' exponent'
      if sum = 0 then finite (negative && negative') 0 lowestExponent else ofRat sum
  | infinite negative, infinite negative' => if negative = negative' then infinite negative else nan
  | nan, _ => nan
  | _, nan => nan
  | infinite negative, _ => infinite negative
  | _, infinite negative => infinite negative

def sub (first second : Binary64) : Binary64 :=
  first.add second.neg

/-- Is one number below another?  What is not a number is below and above
nothing. -/
def precedes (first second : Binary64) : Bool :=
  match first, second with
  | finite negative mantissa exponent, finite negative' mantissa' exponent' =>
      decide (exactly negative mantissa exponent < exactly negative' mantissa' exponent')
  | infinite negative, infinite negative' => negative && !negative'
  | infinite negative, finite .. => negative
  | finite .., infinite negative => !negative
  | _, _ => false

/-- Zero or less.  Both zeros are, and what is not a number is neither this nor
more than zero. -/
def isNonpositive : Binary64 -> Bool
  | finite negative mantissa _ => negative || mantissa == 0
  | infinite negative => negative
  | nan => false

/-- The text of a number with a fixed number of places.  A negative number
keeps its sign, even if all its printed digits are zero. -/
def fixed (places : Nat) : Binary64 -> List Char
  | finite negative mantissa exponent =>
      (if negative then ['-'] else []) ++
        Number.fixed places (Number.scaled mantissa 2 exponent)
  | infinite negative => (if negative then ['-'] else []) ++ "inf".toList
  | nan => "nan".toList

end Binary64
end ModalDrill
