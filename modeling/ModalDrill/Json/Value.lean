import ModalDrill.Number.Binary64
import ModalDrill.Text.CodePoint

namespace ModalDrill

/-!
# JSON values

Integers are exact and of any size; a number written with a point or an
exponent is a binary floating point number.  The members of an object keep
their order, and a repeated key keeps its first place and takes its last value.
Texts and keys may hold halves of surrogate pairs.
-/

inductive Json
  | null
  | bool (value : Bool)
  | integer (value : Int)
  | real (value : Binary64)
  | text (value : CodeText)
  | array (items : List Json)
  | object (members : List (CodeText × Json))

namespace Json

/-- Give a key a value: in place if the object has the key, else at the end. -/
def put (members : List (CodeText × Json)) (key : CodeText) (value : Json) :
    List (CodeText × Json) :=
  match members with
  | [] => [(key, value)]
  | member :: rest =>
      if member.1 = key then (key, value) :: rest else member :: put rest key value

/-- The value of a key. -/
def find? (members : List (CodeText × Json)) (key : String) : Option Json :=
  (members.find? fun member => member.1 == CodeText.ofString key).map Prod.snd

/-- The members in the order in which they are written, later keys winning. -/
def ofMembers (members : List (CodeText × Json)) : Json :=
  object (members.foldl (fun found member => put found member.1 member.2) [])

end Json
end ModalDrill
