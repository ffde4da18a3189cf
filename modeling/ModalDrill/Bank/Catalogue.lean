import ModalDrill.Bank.Basic
import ModalDrill.Json.Display
import ModalDrill.Json.Reader
import ModalDrill.Text.Blank
import ModalDrill.Text.Encoding

namespace ModalDrill

/-!
# Catalogue files

A catalogue file is a JSON object with the questions and the sample text.  It
is checked while it is read: every question has an identifier and an answer,
there is a question, and no identifier comes twice.  The first fault is
reported.  Values that are not strings stand for their display text.
-/

/-- Why a catalogue is refused. -/
inductive CatalogueError
  | missingFile
  | undecodable
  | unreadable (cause : Json.ReadError)
  | rootNotObject
  | questionNotObject
  | notIterable
  | missingId
  | noAnswers (id : String)
  | noQuestions
  | duplicateId (id : String)
deriving DecidableEq, Repr

def CatalogueError.message : CatalogueError -> String
  | missingFile => "There is no such file."
  | undecodable => "The file is not UTF-8."
  | unreadable cause => cause.message
  | rootNotObject => "Question bank root must be a JSON object."
  | questionNotObject => "A question must be a JSON object."
  | notIterable => "The value has no items."
  | missingId => "Question is missing an id."
  | noAnswers id => "Question '" ++ id ++ "' has no valid expected answers."
  | noQuestions => "Question bank has no questions."
  | duplicateId id => "Duplicate question id: " ++ id

/-- The items of a value: those of an array, the keys of an object, the
characters of a string.  Other values have none to offer. -/
def Json.items : Json -> Except CatalogueError (List Json)
  | array items => .ok items
  | object members => .ok (members.map fun member => text member.1)
  | text value => .ok (value.points.map fun point => text ⟨[point]⟩)
  | _ => .error .notIterable

/-- The value of a key, or another value if the object lacks the key. -/
def Json.fieldOr (members : List (CodeText × Json)) (key : String) (fallback : Json) : Json :=
  (find? members key).getD fallback

/-- The answers among some items: their display texts, stripped, without the
blank ones. -/
def answersOf (items : List Json) : List String :=
  (items.map fun item => Text.strip item.display).filter fun answer => answer != ""

/-- A question from the members of its object. -/
def Question.ofMembers (members : List (CodeText × Json)) : Except CatalogueError Question := do
  let id := Text.strip (Json.fieldOr members "id" (.text "")).display
  if id = "" then throw .missingId
  let items <- (Json.fieldOr members "expected" (.array [])).items
  let expected := answersOf items
  if expected = [] then throw (.noAnswers id)
  return ⟨id, (Json.fieldOr members "prompt" (.text "")).display, expected⟩

def Question.ofJson : Json -> Except CatalogueError Question
  | .object members => Question.ofMembers members
  | _ => .error .questionNotObject

/-- Read questions one after the other, up to the first fault. -/
def Question.ofItems : List Json -> Except CatalogueError (List Question)
  | [] => .ok []
  | item :: rest => do
      let question <- Question.ofJson item
      let others <- Question.ofItems rest
      return question :: others

/-- The earliest identifier that repeats an earlier one. -/
def firstRepeat (seen : List String) : List String -> Option String
  | [] => none
  | id :: rest => if seen.contains id then some id else firstRepeat (id :: seen) rest

namespace QuestionBank

/-- A bank from the members of the root object. -/
def ofMembers (members : List (CodeText × Json)) : Except CatalogueError QuestionBank := do
  let items <- (Json.fieldOr members "questions" (.array [])).items
  let questions <- Question.ofItems items
  if questions = [] then throw .noQuestions
  if let some id := firstRepeat [] (questions.map Question.id) then throw (.duplicateId id)
  let lines <- (Json.fieldOr members "sample_text" (.array [])).items
  let sampleText := lines.map fun line => line.display.toList
  return ⟨if sampleText = [] then [[]] else sampleText, questions⟩

def ofJson : Json -> Except CatalogueError QuestionBank
  | .object members => ofMembers members
  | _ => .error .rootNotObject

def ofText (content : String) : Except CatalogueError QuestionBank :=
  match Json.read content with
  | .error cause => .error (.unreadable cause)
  | .ok root => ofJson root

/-- A bank from the bytes of a catalogue file, if the file exists. -/
def ofFile (bytes : Option (List UInt8)) : Except CatalogueError QuestionBank :=
  match bytes with
  | none => .error .missingFile
  | some bytes =>
      match Text.decode? bytes with
      | none => .error .undecodable
      | some content => ofText content

end QuestionBank

/-! ## The written form of a bank -/

def Question.toJson (question : Question) : Json :=
  .object [("id", .text question.id), ("prompt", .text question.prompt),
    ("expected", .array (question.expected.map fun answer : String => .text answer))]

/-- The object that a bank is written as. -/
def QuestionBank.toJson (bank : QuestionBank) : Json :=
  .object [("sample_text", .array (bank.sampleText.map fun line => .text (String.ofList line))),
    ("questions", .array (bank.questions.map Question.toJson))]

end ModalDrill
