import ModalDrill.Proofs.Bank.Soundness

namespace ModalDrill

/-!
# The first fault of a catalogue

Take a catalogue whose fields have the kinds that they should have.  It is read
exactly if it is in order: there is an entry, every entry has an identifier and an
answer, and no identifier comes twice.  Otherwise its first fault is reported.
Incomplete entries come first, the earliest of them before all, then an empty
catalogue, then the earliest identifier that repeats another.

What is in order is said of the display texts of the values, once they are
stripped.  So values of different kinds can be the same identifier.
-/

namespace Json

variable {members : List (CodeText × Json)} {key : String}

/-- The items of a field that holds an array; there are none in one that is left out. -/
def itemsAt (members : List (CodeText × Json)) (key : String) : List Json :=
  match find? members key with
  | some (.array items) => items
  | _ => []

/-- The display text of a field; that of one that is left out is empty. -/
def textAt (members : List (CodeText × Json)) (key : String) : String :=
  match find? members key with
  | some value => value.display
  | none => ""

end Json

/-! ## Entries -/

/-- The members of the object of a question. -/
abbrev CatalogueEntry := List (CodeText × Json)

namespace CatalogueEntry

/-- The identifier of an entry, stripped. -/
def id (entry : CatalogueEntry) : String :=
  Text.strip (Json.textAt entry "id")

/-- The answers of an entry that are not blank, stripped. -/
def answers (entry : CatalogueEntry) : List String :=
  (((Json.itemsAt entry "expected").map Json.display).filter
    fun text => Text.strip text != "").map Text.strip

/-- The question that an entry describes. -/
def question (entry : CatalogueEntry) : Question :=
  ⟨entry.id, Json.textAt entry "prompt", entry.answers⟩

variable {entry : CatalogueEntry}

end CatalogueEntry

/-! ## Lists of entries -/

/-- An entry of a list is the earliest that has a property. -/
structure Earliest (property : CatalogueEntry -> Prop) (entries : List CatalogueEntry)
    (entry : CatalogueEntry) : Prop where
  has : property entry
  first : Exists fun front => Exists fun behind => entries = front ++ entry :: behind ∧
    forall earlier, earlier ∈ front -> ¬ property earlier

theorem Earliest.listed {property : CatalogueEntry -> Prop} {entries : List CatalogueEntry}
    {entry : CatalogueEntry} (earliest : Earliest property entries entry) : entry ∈ entries := by
  rcases earliest.first with ⟨front, behind, rfl, _⟩
  exact List.mem_append_right front List.mem_cons_self

namespace Question

open CatalogueEntry

end Question

/-! ## Repeated identifiers -/

/-- The members of the root object of a catalogue. -/
abbrev Catalogue := List (CodeText × Json)

/-- The sample text of a catalogue, which has at least a line. -/
def Catalogue.sampleText (catalogue : Catalogue) : List Line :=
  match Json.itemsAt catalogue "sample_text" with
  | [] => [[]]
  | lines => lines.map fun line => line.display.toList

/-- The bank that a catalogue with some entries describes. -/
def Catalogue.bank (catalogue : Catalogue) (entries : List CatalogueEntry) : QuestionBank :=
  ⟨catalogue.sampleText, entries.map CatalogueEntry.question⟩

namespace Catalogue

variable {catalogue : Catalogue} {entries : List CatalogueEntry}

theorem sampleText_eq (catalogue : Catalogue) :
    (if (Json.itemsAt catalogue "sample_text").map (fun line => line.display.toList) = [] then [[]]
      else (Json.itemsAt catalogue "sample_text").map fun line => line.display.toList) =
    catalogue.sampleText := by
  unfold sampleText
  cases Json.itemsAt catalogue "sample_text" with
  | nil => rfl
  | cons line rest => rfl

end Catalogue
end ModalDrill
