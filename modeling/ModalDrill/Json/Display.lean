import ModalDrill.Json.Value
import ModalDrill.Number.Shortest
import ModalDrill.Text.Quoted

namespace ModalDrill
namespace Json

/-!
# The display text of a value

Where a text is expected and another value is found, its display text stands
in: a string stands for itself, and every other value for its written form.
Inside a list or an object strings are quoted, so that items stay apart.
-/

/-- Texts with a comma and a blank between them. -/
def listed : List (List Char) -> List Char
  | [] => []
  | [item] => item
  | item :: rest => item ++ ',' :: ' ' :: listed rest

mutual

/-- The written form of a value. -/
def written : Json -> List Char
  | null => "None".toList
  | bool true => "True".toList
  | bool false => "False".toList
  | integer value => Text.signedNumeral value
  | real value => value.text
  | text value => value.quoted
  | array items => '[' :: listed (writtenItems items) ++ [']']
  | object members => '{' :: listed (writtenMembers members) ++ ['}']

def writtenItems : List Json -> List (List Char)
  | [] => []
  | item :: rest => written item :: writtenItems rest

def writtenMembers : List (CodeText × Json) -> List (List Char)
  | [] => []
  | (key, value) :: rest =>
      (key.quoted ++ ':' :: ' ' :: written value) :: writtenMembers rest

end

/-- The text that a value stands for. -/
def display : Json -> String
  | text value => value.toString
  | value => String.ofList (written value)

end Json
end ModalDrill
