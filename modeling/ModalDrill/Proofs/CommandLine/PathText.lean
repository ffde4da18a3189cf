import Mathlib.Data.List.Basic
import ModalDrill.CommandLine.Path

namespace ModalDrill

/-!
# Paths and their texts

A path keeps no empty names and no single dots, and no name of it has a slash in it.
So its text is read as the same path again.
-/

namespace Path

/-- What a piece between slashes stands for: a name, unless it is empty or a dot. -/
def nameOf? (piece : List Char) : Option String :=
  if piece.isEmpty || piece == ['.'] then none else some (String.ofList piece)

/-- The names of a path as it is read from a text. -/
structure IsName (name : String) : Prop where
  read : nameOf? name.toList = some name
  noSlash : '/' ∉ name.toList

theorem not_mem_of_mem_splitOn {mark : Char} {text piece : List Char}
    (cut : piece ∈ text.splitOn mark) : mark ∉ piece := by
  induction text generalizing piece with
  | nil =>
      rw [List.splitOn_nil, List.mem_singleton] at cut
      rw [cut]
      exact List.not_mem_nil
  | cons c rest inductionHypothesis =>
      rw [List.splitOn_cons_eq_if_modifyHead] at cut
      split at cut
      · rcases List.mem_cons.mp cut with rfl | later
        · exact List.not_mem_nil
        · exact inductionHypothesis later
      · next other =>
          cases pieces : rest.splitOn mark with
          | nil => exact absurd pieces (List.splitOn_ne_nil _ _)
          | cons first others =>
              rw [pieces] at cut inductionHypothesis
              rcases List.mem_cons.mp cut with rfl | later
              · rw [List.mem_cons, not_or]
                refine ⟨?_, inductionHypothesis List.mem_cons_self⟩
                rintro rfl
                exact other (beq_self_eq_true _)
              · exact inductionHypothesis (List.mem_cons_of_mem _ later)

theorem isName_of_mem_ofText {text name : String} (listed : name ∈ (ofText text).names) :
    IsName name := by
  rcases List.mem_filterMap.mp listed with ⟨piece, cut, read⟩
  have whole : name.toList = piece := by
    split at read
    · cases read
    · cases read
      exact String.toList_ofList
  rw [← whole] at cut read
  exact ⟨read, not_mem_of_mem_splitOn cut⟩

/-- Names with slashes between them are found again. -/
theorem filterMap_splitOn_intercalate {names : List String}
    (areNames : forall name, name ∈ names -> IsName name) :
    ((['/'].intercalate (names.map String.toList)).splitOn '/').filterMap nameOf? = names := by
  cases names with
  | nil => decide
  | cons first rest =>
      rw [List.splitOn_intercalate, List.filterMap_map]
      · exact (List.filterMap_congr fun name listed => (areNames name listed).read).trans
          List.filterMap_some
      · intro piece listed
        rcases List.mem_map.mp listed with ⟨name, member, rfl⟩
        exact (areNames name member).noSlash
      · exact List.cons_ne_nil _ _

/-- A text that starts with a name starts with no slash. -/
theorem head?_intercalate_ne {first : String} {rest : List String}
    (areNames : forall name, name ∈ first :: rest -> IsName name) :
    (['/'].intercalate ((first :: rest).map String.toList)).head? ≠ some '/' := by
  intro slash
  have pieces : (['/'].intercalate ((first :: rest).map String.toList)).splitOn '/' =
      (first :: rest).map String.toList := by
    refine List.splitOn_intercalate '/' ?_ (List.cons_ne_nil _ _)
    intro piece listed
    rcases List.mem_map.mp listed with ⟨name, member, rfl⟩
    exact (areNames name member).noSlash
  rcases List.head?_eq_some_iff.mp slash with ⟨later, text⟩
  rw [text, List.splitOn_cons_eq_if_modifyHead, if_pos (beq_self_eq_true _)] at pieces
  have read := (areNames first List.mem_cons_self).read
  rw [← (List.cons.inj pieces).1] at read
  cases read

/-- The text of a path of names is read as that path. -/
theorem ofText_text {path : Path} (areNames : forall name, name ∈ path.names -> IsName name) :
    ofText path.text = path := by
  rcases path with ⟨absolute, names⟩
  have found := filterMap_splitOn_intercalate areNames
  have ofText_eq : forall text : String,
      ofText text = ⟨text.toList.head? == some '/', (text.toList.splitOn '/').filterMap nameOf?⟩ :=
    fun _ => rfl
  rw [ofText_eq, text]
  dsimp only at found ⊢
  cases absolute with
  | true =>
      have characters : ("/" ++ String.intercalate "/" names).toList =
          '/' :: ['/'].intercalate (names.map String.toList) := by
        rw [String.toList_append, String.toList_intercalate]
        rfl
      rw [if_pos rfl, characters, List.splitOn_cons_eq_if_modifyHead, if_pos (beq_self_eq_true _)]
      rw [List.filterMap_cons, found]
      rfl
  | false =>
      rw [if_neg Bool.false_ne_true]
      cases names with
      | nil => decide
      | cons first rest =>
          rw [if_neg (List.cons_ne_nil _ _), String.toList_intercalate]
          have relative := head?_intercalate_ne areNames
          change Path.mk ((['/'].intercalate ((first :: rest).map String.toList)).head? == some '/')
            (((['/'].intercalate ((first :: rest).map String.toList)).splitOn '/').filterMap nameOf?) = _
          rw [found, beq_eq_false_iff_ne.mpr relative]

/-- Reading a text and writing the path down loses no more than the first reading. -/
theorem ofText_text_ofText (text : String) : ofText (ofText text).text = ofText text :=
  ofText_text fun _ listed => isName_of_mem_ofText listed

end Path
end ModalDrill
