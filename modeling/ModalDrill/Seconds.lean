import ModalDrill.Number.Binary64

namespace ModalDrill

/-!
# Seconds

Lengths of time and readings of the clock are seconds: whole numbers of any
size, or binary floating point numbers.  Whole numbers are added and compared
exactly.  Where a floating number is involved, a whole one is rounded to the
nearest floating number first; if it is beyond the largest of them, there is no
answer.  What is left until a deadline is never negative, and it is nothing
when the deadline or the reading is not a number.
-/

inductive Seconds
  | whole (amount : Int)
  | real (number : Binary64)
deriving DecidableEq

namespace Seconds

instance (amount : Nat) : OfNat Seconds amount :=
  ⟨whole amount⟩

/-- The floating number nearest to a time, unless the time is out of range. -/
def toBinary64? : Seconds -> Option Binary64
  | whole amount => Binary64.ofInt? amount
  | real number => some number

/-- The sum of two times. -/
def plus? (first second : Seconds) : Option Seconds :=
  match first, second with
  | whole first, whole second => some (whole (first + second))
  | first, second => do
      let first <- first.toBinary64?
      let second <- second.toBinary64?
      return real (first.add second)

/-- Is one time before another?  A time that is not a number is before or after
nothing. -/
def precedes? (first second : Seconds) : Option Bool :=
  match first, second with
  | whole first, whole second => some (decide (first < second))
  | first, second => do
      let first <- first.toBinary64?
      let second <- second.toBinary64?
      return first.precedes second

/-- What is left until a deadline. -/
def left? (deadline now : Seconds) : Option Seconds :=
  match deadline, now with
  | whole instant, whole reading =>
      some (if reading < instant then whole (instant - reading) else real Binary64.zero)
  | deadline, now => do
      let instant <- deadline.toBinary64?
      let reading <- now.toBinary64?
      return real (if reading.precedes instant then instant.sub reading else Binary64.zero)

/-- Is a deadline reached?  It is at the very instant that it names. -/
def reached? (deadline now : Seconds) : Option Bool :=
  (now.precedes? deadline).map fun before => !before

/-- The text of a time with a fixed number of places. -/
def fixed? (places : Nat) (seconds : Seconds) : Option (List Char) :=
  seconds.toBinary64?.map fun number => number.fixed places

/-! ## Floating numbers

A clock that shows floating numbers stays in range: every answer is there.
-/

@[simp] theorem toBinary64?_real (number : Binary64) : (real number).toBinary64? = some number :=
  rfl

@[simp] theorem plus?_real (first second : Binary64) :
    (real first).plus? (real second) = some (real (first.add second)) :=
  rfl

@[simp] theorem precedes?_real (first second : Binary64) :
    (real first).precedes? (real second) = some (first.precedes second) :=
  rfl

@[simp] theorem left?_real (deadline now : Binary64) :
    (real deadline).left? (real now) =
      some (real (if now.precedes deadline then deadline.sub now else Binary64.zero)) :=
  rfl

@[simp] theorem reached?_real (deadline now : Binary64) :
    (real deadline).reached? (real now) = some (!now.precedes deadline) :=
  rfl

/-! ## Whole numbers -/

@[simp] theorem plus?_whole (first second : Int) :
    (whole first).plus? (whole second) = some (whole (first + second)) :=
  rfl

@[simp] theorem reached?_whole (deadline now : Int) :
    (whole deadline).reached? (whole now) = some (decide (deadline ≤ now)) := by
  simp [reached?, precedes?, ← decide_not]

end Seconds
end ModalDrill
