import ModalDrill.Buffer.Basic

namespace ModalDrill

/-!
# Questions and their bank

A question asks for an edit and lists the commands that answer it.  A bank
holds the questions and the text on which every question starts.
-/

structure Question where
  id : String
  prompt : String
  expected : List String
deriving DecidableEq, Repr

/-- Is a command one of the listed answers? -/
def Question.accepts (question : Question) (command : String) : Bool :=
  question.expected.contains command

structure QuestionBank where
  sampleText : List Line
  questions : List Question
deriving DecidableEq

end ModalDrill
