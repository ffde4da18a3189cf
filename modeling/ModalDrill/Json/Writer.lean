import ModalDrill.Json.Value
import ModalDrill.Number.Shortest
import ModalDrill.Text.Quoted

namespace ModalDrill
namespace Json

/-!
# Writing JSON

A value is written on one line without blanks.  Control characters, quotes and
backslashes are escaped, and so are halves of surrogate pairs; every other
character stands for itself.
-/

/-- One character of a string. -/
def encodeChar (c : Char) : List Char :=
  if c = '"' ∨ c = '\\' then ['\\', c]
  else if c.toNat < 0x20 then '\\' :: 'u' :: Text.hexNumeral 4 c.toNat
  else [c]

/-- One code point of a string. -/
def encodePoint : CodePoint -> List Char
  | .char c => encodeChar c
  | .surrogate unit => '\\' :: 'u' :: Text.hexNumeral 4 unit

def encodeString (value : CodeText) : List Char :=
  '"' :: value.points.flatMap encodePoint ++ ['"']

def encodeReal : Binary64 -> List Char
  | .nan => "NaN".toList
  | .infinite negative => (if negative then ['-'] else []) ++ "Infinity".toList
  | finite => finite.text

mutual

/-- The JSON text of a value. -/
def encode : Json -> List Char
  | null => "null".toList
  | bool true => "true".toList
  | bool false => "false".toList
  | integer value => Text.signedNumeral value
  | real value => encodeReal value
  | text value => encodeString value
  | array items => '[' :: encodeItems items ++ [']']
  | object members => '{' :: encodeMembers members ++ ['}']

def encodeItems : List Json -> List Char
  | [] => []
  | [item] => encode item
  | item :: rest => encode item ++ ',' :: encodeItems rest

def encodeMembers : List (CodeText × Json) -> List Char
  | [] => []
  | [(key, value)] => encodeString key ++ ':' :: encode value
  | (key, value) :: rest => encodeString key ++ ':' :: encode value ++ ',' :: encodeMembers rest

end

/-- The JSON text of a value as a string. -/
def line (value : Json) : String :=
  String.ofList (encode value)

end Json
end ModalDrill
