import Mathlib.Data.List.FinRange
import Mathlib.Data.List.Nodup
import Mathlib.Data.List.Perm.Subperm
import ModalDrill.Proofs.Bank.Soundness

namespace ModalDrill

/-!
# What a fair draw takes out of a pool

A draw takes questions at certain places of its pool.  If it is fair the places are
different, and there are as many as are asked for, as far as the pool goes.  If all
are asked for, the draw is the pool in another order.
-/

namespace Sampler

/-- The places that are drawn from a pool. -/
def places (sampler : Sampler) (size : Nat) (count : Option Int) : List (Fin size) :=
  sampler size (drawCount count size)

variable {sampler : Sampler}

/-- A number that is asked for is cut at both ends: below at zero, above at the size of the
pool. -/
theorem Fair.length_places (fair : sampler.Fair) (size : Nat) (count : Option Int) :
    ((sampler.places size count).length : Int) =
      match count with
      | none => (size : Int)
      | some wanted => max 0 (min wanted size) := by
  rw [places, (fair size _ (drawCount_le count size)).1]
  cases count with
  | none => rfl
  | some wanted => exact Int.toNat_of_nonneg (Int.le_max_left 0 _)

theorem Fair.nodup_places (fair : sampler.Fair) (size : Nat) (count : Option Int) :
    (sampler.places size count).Nodup :=
  (fair size _ (drawCount_le count size)).2

/-- As many different places as the pool has are all of its places. -/
theorem Fair.places_perm (fair : sampler.Fair) (size : Nat) :
    (sampler.places size none).Perm (List.finRange size) := by
  have within : (sampler.places size none).Subperm (List.finRange size) :=
    (fair.nodup_places size none).subperm fun place _ => List.mem_finRange place
  have length_eq : (sampler.places size none).length = size :=
    Int.ofNat_inj.mp (fair.length_places size none)
  refine within.perm_of_length_le ?_
  rw [List.length_finRange, length_eq]

end Sampler

theorem draw_eq (sampler : Sampler) (pool : List Question) (count : Option Int) :
    draw sampler pool count = (sampler.places pool.length count).map pool.get :=
  rfl

/-- A fair draw of all questions is the pool in another order. -/
theorem draw_perm {sampler : Sampler} (fair : sampler.Fair) (pool : List Question) :
    (draw sampler pool none).Perm pool := by
  have shuffled := (fair.places_perm pool.length).map pool.get
  rw [List.map_get_finRange] at shuffled
  exact shuffled

end ModalDrill
