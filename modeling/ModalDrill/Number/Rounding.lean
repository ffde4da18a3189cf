import ModalDrill.Text.Numeral

namespace ModalDrill
namespace Number

/-!
# Exact scaling and rounding

Numbers between two printed forms are exact rationals.  Rounding happens once,
to the nearest integer, and a tie goes to the even neighbour.
-/

/-- `factor` times the power of `base` with a signed exponent. -/
def scaled (factor : Int) (base : Nat) (exponent : Int) : Rat :=
  if 0 ≤ exponent then ((factor * (Nat.pow base exponent.toNat : Nat) : Int) : Rat)
  else mkRat factor (Nat.pow base (-exponent).toNat)

/-- The nearest integer, and the even one of two that are equally near. -/
def nearest (value : Rat) : Int :=
  let below := value.floor
  let gap := value - below
  if gap < mkRat 1 2 then below
  else if mkRat 1 2 < gap then below + 1
  else if below % 2 = 0 then below
  else below + 1

/-- The size of a rational without its sign. -/
def magnitude (value : Rat) : Rat :=
  if value < 0 then -value else value

/-- A numeral cut in front of its last `places` digits, with zeros in front
where it is too short to leave a digit before the point. -/
def pointed (places : Nat) (digits : List Char) : List Char :=
  let padded := List.replicate (places + 1 - digits.length) '0' ++ digits
  if places = 0 then padded
  else padded.take (padded.length - places) ++ '.' :: padded.drop (padded.length - places)

/-- A rational in decimal with a fixed number of places.  A negative value
keeps its sign, even if all its printed digits are zero. -/
def fixed (places : Nat) (value : Rat) : List Char :=
  (if value < 0 then ['-'] else []) ++
    pointed places (Text.numeral (nearest (magnitude value * (Nat.pow 10 places : Nat))).toNat)

end Number
end ModalDrill
