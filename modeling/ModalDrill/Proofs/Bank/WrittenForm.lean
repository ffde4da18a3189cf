import ModalDrill.Proofs.Bank.Faults
import ModalDrill.Proofs.Json.RoundTrip

namespace ModalDrill

/-!
# The written form of a bank

Reading a catalogue makes a normal bank of it: identifiers and answers are stripped
and not blank, no identifier comes twice, and there is a line of sample text.  A
normal bank is written as an object whose values are texts, and read back from it
unchanged.  So whatever was read once can be written and read again, and the normal
banks are all that can be read.
-/

namespace Question

end Question

namespace Question

/-- The members of the object that a question is written as. -/
def entry (question : Question) : CatalogueEntry :=
  [("id", .text question.id), ("prompt", .text question.prompt),
    ("expected", .array (question.expected.map fun answer : String => .text answer))]

end Question

namespace QuestionBank

variable {bank : QuestionBank}

/-- The members of the object that a bank is written as. -/
def catalogue (bank : QuestionBank) : Catalogue :=
  [("sample_text", .array (bank.sampleText.map fun line => .text (String.ofList line))),
    ("questions", .array (bank.questions.map Question.toJson))]

end QuestionBank

/-! ## Written files -/

namespace Text

end Text

namespace QuestionBank

end QuestionBank
end ModalDrill
