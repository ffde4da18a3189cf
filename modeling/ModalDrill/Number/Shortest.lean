import ModalDrill.Number.Binary64

namespace ModalDrill
namespace Binary64

/-!
# The shortest decimal that reads back

A finite number is written with the fewest digits that read back as the same
number, and among those with the nearest ones.  If a decimal grid has a point
in the interval that rounds to the number, then one of the two grid points
around the number is such a point, so two points are tried on each grid.
-/

/-- A decimal: digits times a power of ten. -/
structure Decimal where
  digits : Nat
  exponent : Int
deriving DecidableEq, Repr

def Decimal.toRat (decimal : Decimal) : Rat :=
  Number.scaled decimal.digits 10 decimal.exponent

/-- Does a positive value round to the number with this mantissa and exponent?
The interval of such values reaches half a step to both sides, or a quarter
below a power of two; its ends belong to an even mantissa. -/
def roundsTo (mantissa : Nat) (exponent : Int) (value : Rat) : Bool :=
  let below := if mantissa = fullMantissa ∧ lowestExponent < exponent
    then Number.scaled (4 * mantissa - 1) 2 (exponent - 2)
    else Number.scaled (2 * mantissa - 1) 2 (exponent - 1)
  let above := Number.scaled (2 * mantissa + 1) 2 (exponent - 1)
  if mantissa % 2 = 0 then decide (below ≤ value) && decide (value ≤ above)
  else decide (below < value) && decide (value < above)

/-- The exponent of the leading decimal digit of a positive value. -/
def leadingExponent (value : Rat) : Int :=
  let guess : Int := ((Text.numeral value.num.natAbs).length : Int) - (Text.numeral value.den).length
  if Number.scaled 1 10 guess ≤ value then guess else guess - 1

/-- The better of the two neighbours of a value on the grid of the given
exponent, if one of them reads back. -/
def neighbour? (mantissa : Nat) (exponent : Int) (value : Rat) (grid : Int) : Option Decimal :=
  let ratio := value / Number.scaled 1 10 grid
  let lower : Decimal := ⟨ratio.floor.toNat, grid⟩
  let upper : Decimal := ⟨ratio.floor.toNat + 1, grid⟩
  match roundsTo mantissa exponent lower.toRat, roundsTo mantissa exponent upper.toRat with
  | true, true => some ⟨(Number.nearest ratio).toNat, grid⟩
  | true, false => some lower
  | false, true => some upper
  | false, false => none

/-- Seventeen digits always read back. -/
def longest : Nat := 17

/-- The shortest decimal of a number that is not zero. -/
def shortest (mantissa : Nat) (exponent : Int) : Decimal :=
  let value := Number.scaled mantissa 2 exponent
  let leading := leadingExponent value
  let grid := fun count : Nat => leading - count
  match (List.range longest).findSome? fun count => neighbour? mantissa exponent value (grid count) with
  | some found => found
  | none => ⟨(Number.nearest (value / Number.scaled 1 10 (grid longest))).toNat, grid longest⟩

/-- The layout of a number's text.  From the exponent `lowest` of the leading
digit up to but without `highest` all places are written out; outside, the
text has one digit before the point and an exponent of at least `width` digits. -/
structure Layout where
  lowest : Int
  highest : Int
  width : Nat

/-- Numbers from a ten-thousandth up to ten to the sixteenth are written out. -/
def layout : Layout :=
  ⟨-4, 16, 2⟩

/-- All places written out; an integral value shows one zero behind the point. -/
def positional (digits : List Char) (leading : Int) : List Char :=
  if leading < 0 then
    '0' :: '.' :: List.replicate (-leading - 1).toNat '0' ++ digits
  else
    let whole := leading.toNat + 1
    let padded := digits ++ List.replicate (whole - digits.length) '0'
    let places := padded.drop whole
    padded.take whole ++ '.' :: (if places.isEmpty then ['0'] else places)

/-- One digit before the point, and a signed exponent. -/
def exponential (width : Nat) (digits : List Char) (leading : Int) : List Char :=
  let power := Text.numeral leading.natAbs
  digits.take 1 ++ (if digits.length ≤ 1 then [] else '.' :: digits.drop 1) ++
    'e' :: (if leading < 0 then '-' else '+') ::
      (List.replicate (width - power.length) '0' ++ power)

/-- The digits of a decimal without zeros at the end. -/
def significant (digits : Nat) : List Char :=
  ((Text.numeral digits).reverse.dropWhile (· == '0')).reverse

/-- The text of a finite number without its sign. -/
def magnitudeText (mantissa : Nat) (exponent : Int) : List Char :=
  if mantissa = 0 then ['0', '.', '0']
  else
    let decimal := shortest mantissa exponent
    let leading : Int := (Text.numeral decimal.digits).length - 1 + decimal.exponent
    let digits := significant decimal.digits
    if layout.lowest ≤ leading ∧ leading < layout.highest then positional digits leading
    else exponential layout.width digits leading

def text : Binary64 -> List Char
  | finite negative mantissa exponent =>
      (if negative then ['-'] else []) ++ magnitudeText mantissa exponent
  | infinite negative => (if negative then ['-'] else []) ++ "inf".toList
  | nan => "nan".toList

end Binary64
end ModalDrill
