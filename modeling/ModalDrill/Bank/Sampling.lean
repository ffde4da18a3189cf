import ModalDrill.Bank.Basic

namespace ModalDrill

/-!
# Sampling

A sampler draws positions of a pool.  What it draws is its own choice; every
position it names lies in the pool, so each draw is a question.
-/

/-- Draw `count` positions from a pool of `size`. -/
abbrev Sampler := (size : Nat) -> (count : Nat) -> List (Fin size)

/-- A sampler is fair when it draws as many positions as it is asked for, and
none of them twice. -/
def Sampler.Fair (sampler : Sampler) : Prop :=
  forall size count, count ≤ size ->
    (sampler size count).length = count ∧ (sampler size count).Nodup

/-- The position `start` places further on, around the end of the pool. -/
def Sampler.turned (start : Int) (size : Nat) (nonempty : 0 < size) : Fin size :=
  ⟨(start % size).toNat, by
    have below := Int.emod_lt_of_pos start (Int.natCast_pos.mpr nonempty)
    omega⟩

/-- The sampler that draws neighbouring positions from a given one on. -/
def Sampler.rotation (start : Int) : Sampler :=
  fun size count =>
    if nonempty : 0 < size then
      (List.range count).map fun offset : Nat => turned (start + offset) size nonempty
    else []

/-- The sampler that draws positions in the order of their keys, lower
positions first among equal keys. -/
def Sampler.byKey (key : Nat -> Nat) : Sampler :=
  fun size count =>
    ((List.finRange size).mergeSort fun first second => decide (key first ≤ key second)).take count

/-- The number of questions to draw: all of them, or as many as asked for, as
far as they go. -/
def drawCount (count : Option Int) (size : Nat) : Nat :=
  match count with
  | none => size
  | some wanted => (max 0 (min wanted size)).toNat

/-- Draw questions from a pool. -/
def draw (sampler : Sampler) (pool : List Question) (count : Option Int) : List Question :=
  (sampler pool.length (drawCount count pool.length)).map pool.get

end ModalDrill
