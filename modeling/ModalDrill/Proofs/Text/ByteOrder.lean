import Mathlib.Data.String.Basic
import Mathlib.Tactic.SplitIfs

namespace ModalDrill
namespace Text

/-!
# The order of bytes

A database compares names by their bytes, and the drill compares them by their code
points.  Both orders are the same: a larger code point has a larger first byte, or
the same number of bytes and a larger one at the first place where they differ, and
no character begins with the bytes of another.
-/

/-- The bytes of a code point. -/
def pointBytes (point : Nat) : List UInt8 :=
  if point ≤ 0x7F then [.ofNat point]
  else if point ≤ 0x7FF then [.ofNat (point / 64 % 32 + 0xC0), .ofNat (point % 64 + 0x80)]
  else if point ≤ 0xFFFF then
    [.ofNat (point / 4096 % 16 + 0xE0), .ofNat (point / 64 % 64 + 0x80),
      .ofNat (point % 64 + 0x80)]
  else
    [.ofNat (point / 262144 % 8 + 0xF0), .ofNat (point / 4096 % 64 + 0x80),
      .ofNat (point / 64 % 64 + 0x80), .ofNat (point % 64 + 0x80)]

theorem utf8EncodeChar_eq (c : Char) : String.utf8EncodeChar c = pointBytes c.toNat :=
  rfl

/-- The bytes of a text. -/
def textBytes (text : String) : List UInt8 :=
  text.toList.flatMap String.utf8EncodeChar

/-! ## One character -/

theorem ofNat_lt_iff {first second : Nat} (low : first < 256) (low' : second < 256) :
    UInt8.ofNat first < UInt8.ofNat second ↔ first < second := by
  rw [UInt8.lt_iff_toNat_lt, UInt8.toNat_ofNat', UInt8.toNat_ofNat']
  omega

theorem ofNat_eq_iff {first second : Nat} (low : first < 256) (low' : second < 256) :
    UInt8.ofNat first = UInt8.ofNat second ↔ first = second := by
  rw [← UInt8.toNat_inj, UInt8.toNat_ofNat', UInt8.toNat_ofNat']
  omega

/-- Of two numbers the smaller one has the smaller last digit, if the others agree. -/
theorem digits_of_lt {first second : Nat} (less : first < second) :
    first / 64 < second / 64 ∨ first / 64 = second / 64 ∧ first % 64 < second % 64 := by
  omega

/-- A smaller code point comes first by its own bytes, whatever follows them. -/
theorem pointBytes_append_lt {first second : Nat} (less : first < second)
    (valid : second < 0x110000) (rest rest' : List UInt8) :
    pointBytes first ++ rest < pointBytes second ++ rest' := by
  have last := digits_of_lt less
  have middle : first / 64 < second / 64 -> _ := digits_of_lt
  have front : first / 64 / 64 < second / 64 / 64 -> _ := digits_of_lt
  simp only [Nat.div_div_eq_div_mul, Nat.reduceMul] at middle front
  have whole : first / 262144 % 8 = first / 262144 := Nat.mod_eq_of_lt (by omega)
  have whole' : second / 262144 % 8 = second / 262144 := Nat.mod_eq_of_lt (by omega)
  unfold pointBytes
  rw [whole, whole']
  split_ifs <;>
    simp (disch := omega) only [List.cons_append, List.nil_append, List.cons_lt_cons_iff,
      ofNat_lt_iff, ofNat_eq_iff] <;>
    omega

theorem toNat_lt (c : Char) : c.toNat < 0x110000 := by
  rcases c.valid with low | ⟨_, high⟩
  · exact Nat.lt_trans low (by decide)
  · exact high

theorem pointBytes_ne_nil (point : Nat) : pointBytes point ≠ [] := by
  unfold pointBytes
  split_ifs <;> exact List.cons_ne_nil _ _

/-! ## Texts -/

theorem flatMap_lt {first second : List Char} (less : first < second) :
    first.flatMap String.utf8EncodeChar < second.flatMap String.utf8EncodeChar := by
  induction first generalizing second with
  | nil =>
      cases second with
      | nil => exact absurd less (List.not_lt_nil _)
      | cons c rest =>
          rw [List.flatMap_nil, List.flatMap_cons]
          rw [utf8EncodeChar_eq]
          cases bytes : pointBytes c.toNat with
          | nil => exact absurd bytes (pointBytes_ne_nil c.toNat)
          | cons byte later => exact List.nil_lt_cons _ _
  | cons c rest inductionHypothesis =>
      cases second with
      | nil => exact absurd less (List.not_lt_nil _)
      | cons d rest' =>
          rw [List.flatMap_cons, List.flatMap_cons]
          rcases List.cons_lt_cons_iff.mp less with smaller | ⟨rfl, later⟩
          · rw [utf8EncodeChar_eq, utf8EncodeChar_eq]
            exact pointBytes_append_lt smaller (toNat_lt d) _ _
          · exact List.append_left_lt (inductionHypothesis later)

/-- Texts are in the order of their bytes exactly if they are in the order of their
code points. -/
theorem textBytes_lt_iff (first second : String) :
    textBytes first < textBytes second ↔ first < second := by
  rw [String.lt_iff_toList_lt]
  constructor
  · intro less
    rcases lt_trichotomy first.toList second.toList with smaller | same | larger
    · exact smaller
    · rw [textBytes, textBytes, same] at less
      exact absurd less (List.lt_irrefl _)
    · exact absurd less (List.lt_asymm (flatMap_lt larger))
  · exact flatMap_lt

end Text
end ModalDrill
