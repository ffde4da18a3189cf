import Mathlib.Data.List.DropRight
import ModalDrill.Text.CodePoint

namespace ModalDrill
namespace Text

/-!
# Stripping twice

A stripped text has no blank at either end, so stripping it again changes
nothing.  A name that is stripped on its way into the shell stays the same on
its way into the store.
-/

theorem trimStart_trimStart (text : List Char) : trimStart (trimStart text) = trimStart text :=
  List.dropWhile_idempotent isBlank text

theorem trimEnd_trimEnd (text : List Char) : trimEnd (trimEnd text) = trimEnd text :=
  List.rdropWhile_idempotent isBlank text

/-- What is cut at the back leaves the front of a list as it is. -/
private theorem dropWhile_rdropWhile {Point : Type} (isBlank : Point -> Bool) {points : List Point}
    (started : points.dropWhile isBlank = points) :
    (points.rdropWhile isBlank).dropWhile isBlank = points.rdropWhile isBlank := by
  have kept : points.rdropWhile isBlank <+: points := List.rdropWhile_prefix isBlank points
  rw [List.dropWhile_eq_self_iff] at started ⊢
  intro nonempty blank
  rw [List.IsPrefix.getElem kept nonempty] at blank
  exact started (Nat.lt_of_lt_of_le nonempty kept.length_le) blank

theorem trimStart_trimEnd {text : List Char} (trimmed : trimStart text = text) :
    trimStart (trimEnd text) = trimEnd text :=
  dropWhile_rdropWhile isBlank trimmed

theorem trim_trim (text : List Char) : trim (trim text) = trim text := by
  rw [trim, trim, trimStart_trimEnd (trimStart_trimStart text), trimEnd_trimEnd]

theorem strip_strip (text : String) : strip (strip text) = strip text := by
  rw [strip, toList_strip, trim_trim, strip]

/-- A text with something in front of it and behind it. -/
def padded (front : List Char) (text : String) (back : List Char) : String :=
  String.ofList (front ++ text.toList ++ back)

theorem trimStart_append_of_blank {front : List Char}
    (blank : forall c, c ∈ front -> isBlank c = true) (text : List Char) :
    trimStart (front ++ text) = trimStart text :=
  List.dropWhile_append_of_pos blank

theorem trimEnd_append_of_blank {back : List Char}
    (blank : forall c, c ∈ back -> isBlank c = true) (text : List Char) :
    trimEnd (text ++ back) = trimEnd text := by
  unfold trimEnd
  rw [List.reverse_append, List.dropWhile_append_of_pos]
  intro c listed
  exact blank c (List.mem_reverse.mp listed)

/-- Blanks around a text are stripped with those that it has at its ends. -/
theorem trim_append_of_blank {front back : List Char}
    (blankFront : forall c, c ∈ front -> isBlank c = true)
    (blankBack : forall c, c ∈ back -> isBlank c = true) (text : List Char) :
    trim (front ++ text ++ back) = trim text := by
  rw [trim, List.append_assoc, trimStart_append_of_blank blankFront, trimStart, List.dropWhile_append]
  split
  · next blank =>
      have nothing : text.dropWhile isBlank = [] := List.isEmpty_iff.mp blank
      rw [trim, trimStart, nothing, List.dropWhile_eq_nil_iff.mpr blankBack]
  · exact trimEnd_append_of_blank blankBack _

theorem strip_padding {front back : List Char}
    (blankFront : forall c, c ∈ front -> isBlank c = true)
    (blankBack : forall c, c ∈ back -> isBlank c = true) (text : String) :
    strip (padded front text back) = strip text := by
  rw [strip, padded, String.toList_ofList, trim_append_of_blank blankFront blankBack, strip]

/-- The blanks that are cut at the front of a text. -/
theorem exists_blanks_trimStart (text : List Char) :
    Exists fun front => (forall c, c ∈ front -> isBlank c = true) ∧ text = front ++ trimStart text :=
  ⟨text.takeWhile isBlank, fun _ => List.mem_takeWhile_imp, List.takeWhile_append_dropWhile.symm⟩

/-- The blanks that are cut at the back of a text. -/
theorem exists_blanks_trimEnd (text : List Char) :
    Exists fun back => (forall c, c ∈ back -> isBlank c = true) ∧ text = trimEnd text ++ back :=
  ⟨text.rtakeWhile isBlank, fun _ => List.mem_rtakeWhile_imp, List.rdropWhile_append_rtakeWhile.symm⟩

/-- A text is what is left of it when it is stripped, with blanks around. -/
theorem exists_blanks_trim (text : List Char) :
    Exists fun front => Exists fun back => (forall c, c ∈ front -> isBlank c = true) ∧
      (forall c, c ∈ back -> isBlank c = true) ∧ text = front ++ trim text ++ back := by
  rcases exists_blanks_trimStart text with ⟨front, blankFront, whole⟩
  rcases exists_blanks_trimEnd (trimStart text) with ⟨back, blankBack, middle⟩
  refine ⟨front, back, blankFront, blankBack, ?_⟩
  rw [List.append_assoc, trim, ← middle, ← whole]

theorem trimStart_cons_of_solid {c : Char} (solid : isBlank c = false) (rest : List Char) :
    trimStart (c :: rest) = c :: rest :=
  List.dropWhile_cons_of_neg (by rw [solid]; exact Bool.false_ne_true)

theorem trimEnd_concat_of_solid {c : Char} (solid : isBlank c = false) (front : List Char) :
    trimEnd (front ++ [c]) = front ++ [c] :=
  List.rdropWhile_concat_neg _ _ _ (by rw [solid]; exact Bool.false_ne_true)

/-- A text between two characters that are not blank is stripped. -/
theorem trim_between {first last : Char} (solid : isBlank first = false)
    (solid' : isBlank last = false) (middle : List Char) :
    trim (first :: (middle ++ [last])) = first :: (middle ++ [last]) := by
  rw [trim, trimStart_cons_of_solid solid, ← List.cons_append, trimEnd_concat_of_solid solid']

theorem trimStart_of_solid {text : List Char} (solid : forall c, c ∈ text -> isBlank c = false) :
    trimStart text = text := by
  rw [trimStart, List.dropWhile_eq_self_iff]
  intro nonempty blank
  rw [solid _ (List.getElem_mem nonempty)] at blank
  cases blank

/-- From a text without blanks nothing is stripped. -/
theorem trim_of_solid {text : List Char} (solid : forall c, c ∈ text -> isBlank c = false) :
    trim text = text := by
  have backward : trimStart text.reverse = text.reverse :=
    trimStart_of_solid fun c listed => solid c (List.mem_reverse.mp listed)
  rw [trim, trimStart_of_solid solid]
  exact (congrArg List.reverse backward).trans (List.reverse_reverse text)

end Text

/-! ## Texts of code points -/

/-- What is shown in the place of half a pair is no blank either. -/
theorem CodePoint.isBlank_shown (point : CodePoint) :
    Text.isBlank point.shown = point.isBlank := by
  cases point with
  | char c => rfl
  | surrogate unit =>
      change Text.isBlank (Char.ofNat (0x100000 + unit)) = false
      by_cases valid : (0x100000 + unit).isValidChar
      · have large : (Char.ofNat (0x100000 + unit)).toNat = 0x100000 + unit := by
          rw [Char.ofNat, dif_pos valid]
          rfl
        simp only [Text.isBlank, Text.inRanges, Text.blankRanges, List.any_cons, List.any_nil, large,
          Bool.or_false, Bool.or_eq_false_iff, Bool.and_eq_false_iff, decide_eq_false_iff_not]
        omega
      · rw [Char.ofNat, dif_neg valid]
        decide

namespace CodeText

/-- What is cut at the ends of a list is cut from its image as well. -/
private theorem map_cut {Point Shown : Type} (show' : Point -> Shown) (isBlank : Shown -> Bool)
    (points : List Point) :
    (((points.map show').dropWhile isBlank).reverse.dropWhile isBlank).reverse =
      ((points.dropWhile (isBlank ∘ show')).reverse.dropWhile (isBlank ∘ show')).reverse.map
        show' := by
  rw [List.dropWhile_map, ← List.map_reverse, List.dropWhile_map, List.map_reverse]

/-- A text is stripped as it is shown. -/
@[simp] theorem toString_strip (text : CodeText) :
    text.strip.toString = Text.strip text.toString := by
  have same : Text.isBlank ∘ CodePoint.shown = CodePoint.isBlank :=
    funext CodePoint.isBlank_shown
  have cut := map_cut CodePoint.shown Text.isBlank text.points
  rw [same] at cut
  rw [toString, Text.strip, toString, String.toList_ofList]
  exact congrArg String.ofList cut.symm

@[simp] theorem strip_strip (text : CodeText) : text.strip.strip = text.strip := by
  have started := Text.dropWhile_rdropWhile CodePoint.isBlank
    (List.dropWhile_idempotent CodePoint.isBlank text.points)
  have ended := List.rdropWhile_idempotent CodePoint.isBlank
    (text.points.dropWhile CodePoint.isBlank)
  refine congrArg CodeText.mk ?_
  change List.rdropWhile _ (List.dropWhile _ (List.rdropWhile _ _)) = _
  rw [started, ended]
  rfl

private theorem all_isChar_dropWhile (points : List CodePoint) :
    (points.dropWhile CodePoint.isBlank).all CodePoint.isChar = points.all CodePoint.isChar := by
  induction points with
  | nil => rfl
  | cons point rest inductionHypothesis =>
      cases point with
      | surrogate unit => rfl
      | char c =>
          rw [List.dropWhile_cons]
          split
          · exact inductionHypothesis
          · rfl

/-- Halves of pairs are no blanks, so none of them is stripped. -/
@[simp] theorem isEncodable_strip (text : CodeText) :
    text.strip.isEncodable = text.isEncodable := by
  rw [isEncodable, strip, List.all_reverse, all_isChar_dropWhile, List.all_reverse,
    all_isChar_dropWhile, isEncodable]

end CodeText
end ModalDrill
