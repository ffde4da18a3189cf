import ModalDrill.Json.Reader
import ModalDrill.Json.Writer

namespace ModalDrill

/-!
# Reading what is written

A value made of texts, arrays and objects is read back from its JSON text, if no key of
an object comes twice and not too many arrays and objects stand in one another.  Every
reader takes exactly what the writer has written for it and leaves the rest.
-/

/-! ## Strings -/

namespace Json

/-- What a text is written as between its quotes. -/
theorem encodeString_ofString (content : String) :
    encodeString (CodeText.ofString content) =
      '"' :: content.toList.flatMap encodeChar ++ ['"'] := by
  rw [encodeString, CodeText.ofString, List.flatMap_map]
  rfl

/-- A text with a quote or an opening bracket in front. -/
def Opening (input : List Char) : Prop :=
  Exists fun mark => Exists fun tail =>
    input = mark :: tail ∧ (mark = '"' ∨ mark = '[' ∨ mark = '\x7b')

namespace Opening

variable {input : List Char}

theorem append (opening : Opening input) (rest : List Char) : Opening (input ++ rest) := by
  rcases opening with ⟨mark, tail, rfl, marks⟩
  exact ⟨mark, tail ++ rest, rfl, marks⟩

end Opening

theorem opening_encodeString (content : String) :
    Opening (encodeString (CodeText.ofString content)) := by
  rw [encodeString_ofString]
  exact ⟨_, _, rfl, Or.inl rfl⟩

/-- A value made of texts, arrays and objects, with at most so many arrays and objects in
one another, and no key twice in an object. -/
inductive Textual : Nat -> Json -> Prop
  | text {depth : Nat} (content : String) : Textual depth (.text content)
  | array {depth : Nat} {items : List Json}
      (each : forall item, item ∈ items -> Textual depth item) :
      Textual (depth + 1) (.array items)
  | object {depth : Nat} {members : List (CodeText × Json)}
      (keys : forall member, member ∈ members ->
        Exists fun key : String => member.1 = CodeText.ofString key)
      (each : forall member, member ∈ members -> Textual depth member.2)
      (distinct : (members.map Prod.fst).Nodup) :
      Textual (depth + 1) (.object members)

theorem Textual.opening {depth : Nat} {value : Json} (textual : Textual depth value) :
    Opening (encode value) := by
  cases textual with
  | text content =>
      rw [encode]
      exact opening_encodeString content
  | array =>
      rw [encode]
      exact ⟨_, _, rfl, Or.inr (Or.inl rfl)⟩
  | object =>
      rw [encode]
      exact ⟨_, _, rfl, Or.inr (Or.inr rfl)⟩

section Members

variable {members : List (CodeText × Json)}

end Members

/-! ### Whole values -/

end Json
end ModalDrill
