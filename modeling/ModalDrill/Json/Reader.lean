import ModalDrill.Json.Value
import ModalDrill.Number.Notation

namespace ModalDrill
namespace Json

/-!
# Reading JSON

The grammar is that of JSON with three more numbers, `NaN`, `Infinity` and
`-Infinity`.  Strings may not hold control characters.  An integer has at most
4300 digits, and at most 989 arrays and objects stand in one another.  Every
reader takes the characters that are left and returns those behind what it has
read; the first fault ends the reading.
-/

/-- Why a text is not a JSON value. -/
inductive ReadError
  | malformed
  | integerTooLong (digits : Nat)
  | tooDeep
deriving DecidableEq, Repr

/-- The largest number of digits of an integer. -/
def maxDigits : Nat := 4300

/-- The largest number of arrays and objects in one another. -/
def maxDepth : Nat := 989

def ReadError.message : ReadError -> String
  | malformed => "The text is not a JSON value."
  | integerTooLong digits =>
      "An integer has " ++ Text.shown digits ++ " digits, more than " ++ Text.shown maxDigits ++ "."
  | tooDeep => "More than " ++ Text.shown maxDepth ++ " arrays and objects stand in one another."

def isSpace (c : Char) : Bool :=
  c == ' ' || c == '\t' || c == '\n' || c == '\r'

def skipSpace (input : List Char) : List Char :=
  input.dropWhile isSpace

/-- Four hexadecimal digits. -/
def readUnit (input : List Char) : Except ReadError (Nat × List Char) :=
  match input with
  | a :: b :: c :: d :: rest =>
      match Text.hexValue? a, Text.hexValue? b, Text.hexValue? c, Text.hexValue? d with
      | some a, some b, some c, some d => .ok (((a * 16 + b) * 16 + c) * 16 + d, rest)
      | _, _, _, _ => .error .malformed
  | _ => .error .malformed

def isHighSurrogate (unit : Nat) : Bool :=
  decide (0xD800 ≤ unit) && decide (unit < 0xDC00)

def isLowSurrogate (unit : Nat) : Bool :=
  decide (0xDC00 ≤ unit) && decide (unit < 0xE000)

/-- The code point of a numbered escape, read behind its `u`.  Two escapes that
make a pair of surrogates are one character; half a pair stands alone, and the
escape behind it is read anew. -/
def readCodeEscape (input : List Char) : Except ReadError (CodePoint × List Char) := do
  let (first, rest) <- readUnit input
  if isHighSurrogate first then
    match rest with
    | '\\' :: 'u' :: behind =>
        let (second, rest') <- readUnit behind
        if isLowSurrogate second then
          let value := 0x10000 + (first - 0xD800) * 0x400 + (second - 0xDC00)
          return (.char (Char.ofNat value), rest')
        else return (.surrogate first, rest)
    | _ => return (.surrogate first, rest)
  else if isLowSurrogate first then return (.surrogate first, rest)
  else return (.char (Char.ofNat first), rest)

/-- The character of an escape of one letter. -/
def plainEscape? (c : Char) : Option Char :=
  match c with
  | '"' => some '"'
  | '\\' => some '\\'
  | '/' => some '/'
  | 'b' => some '\x08'
  | 'f' => some '\x0c'
  | 'n' => some '\n'
  | 'r' => some '\r'
  | 't' => some '\t'
  | _ => none

/-- The rest of a string behind its opening quote, after the code points that
are already read, the last one first.  Each step consumes a character, so the
length of the input is fuel enough. -/
def readString : Nat -> List CodePoint -> List Char -> Except ReadError (CodeText × List Char)
  | 0, _, _ => .error .malformed
  | _ + 1, _, [] => .error .malformed
  | _ + 1, seen, '"' :: rest => .ok (⟨seen.reverse⟩, rest)
  | fuel + 1, seen, '\\' :: 'u' :: rest =>
      match readCodeEscape rest with
      | .error fault => .error fault
      | .ok (point, rest) => readString fuel (point :: seen) rest
  | fuel + 1, seen, '\\' :: letter :: rest =>
      match plainEscape? letter with
      | none => .error .malformed
      | some c => readString fuel (.char c :: seen) rest
  | fuel + 1, seen, c :: rest =>
      if c.toNat < 0x20 ∨ c = '\\' then .error .malformed
      else readString fuel (.char c :: seen) rest

/-- The digits behind a point; without a digit there is no fraction. -/
def readFraction (input : List Char) : List Char × List Char :=
  match input with
  | '.' :: rest =>
      let digits := rest.takeWhile Text.isDigit
      if digits.isEmpty then ([], input) else (digits, rest.dropWhile Text.isDigit)
  | _ => ([], input)

/-- The digits before the point: one zero, or digits that start with another. -/
def wholeDigits (input : List Char) : List Char :=
  match input with
  | '0' :: _ => ['0']
  | _ => input.takeWhile Text.isDigit

/-- A number behind its sign. -/
def readNumber (negative : Bool) (input : List Char) : Except ReadError (Json × List Char) :=
  let whole := wholeDigits input
  let behindWhole := input.drop whole.length
  let (fraction, behindFraction) := readFraction behindWhole
  let (exponent, rest) := Number.exponentPart behindFraction
  if whole.isEmpty then .error .malformed
  else if fraction.isEmpty && exponent.isNone then
    if maxDigits < whole.length then .error (.integerTooLong whole.length)
    else
      let value : Int := Text.numeralValue whole
      .ok (.integer (if negative then -value else value), rest)
  else
    .ok (.real (Binary64.ofDecimal negative (Text.numeralValue (whole ++ fraction))
      (exponent.getD 0 - fraction.length)), rest)

/-- The values that are written as a word. -/
def words : List (List Char × Json) :=
  [("null".toList, .null), ("true".toList, .bool true), ("false".toList, .bool false),
    ("NaN".toList, .real .nan), ("Infinity".toList, .real (.infinite false)),
    ("-Infinity".toList, .real (.infinite true))]

/-- A word or a number. -/
def readScalar (input : List Char) : Except ReadError (Json × List Char) :=
  match words.find? fun word => word.1.isPrefixOf input with
  | some (word, value) => .ok (value, input.drop word.length)
  | none =>
      match input with
      | '-' :: rest => readNumber true rest
      | _ => readNumber false input

mutual

/-- A value that starts at once, with as many arrays and objects in one another
as the depth says.  Each step consumes a character, so the length of the input
is fuel enough; `bound` is the length of the whole input, enough for any string
in it. -/
def readValue (bound : Nat) : Nat -> Nat -> List Char -> Except ReadError (Json × List Char)
  | 0, _, _ => .error .malformed
  | fuel + 1, depth, input =>
      match input, depth with
      | '"' :: rest, _ => do
          let (value, rest) <- readString bound [] rest
          return (.text value, rest)
      | '[' :: _, 0 => .error .tooDeep
      | '{' :: _, 0 => .error .tooDeep
      | '[' :: rest, depth + 1 =>
          match skipSpace rest with
          | ']' :: rest => .ok (.array [], rest)
          | rest => do
              let (items, rest) <- readItems bound fuel depth rest
              return (.array items, rest)
      | '{' :: rest, depth + 1 =>
          match skipSpace rest with
          | '}' :: rest => .ok (.object [], rest)
          | rest => do
              let (members, rest) <- readMembers bound fuel depth rest
              return (ofMembers members, rest)
      | _, _ => readScalar input

/-- The items of an array up to its end; at least one. -/
def readItems (bound : Nat) : Nat -> Nat -> List Char -> Except ReadError (List Json × List Char)
  | 0, _, _ => .error .malformed
  | fuel + 1, depth, input => do
      let (item, rest) <- readValue bound fuel depth input
      match skipSpace rest with
      | ']' :: rest => return ([item], rest)
      | ',' :: rest =>
          let (items, rest) <- readItems bound fuel depth (skipSpace rest)
          return (item :: items, rest)
      | _ => throw .malformed

/-- The members of an object up to its end; at least one. -/
def readMembers (bound : Nat) :
    Nat -> Nat -> List Char -> Except ReadError (List (CodeText × Json) × List Char)
  | 0, _, _ => .error .malformed
  | fuel + 1, depth, input =>
      match input with
      | '"' :: rest => do
          let (key, rest) <- readString bound [] rest
          match skipSpace rest with
          | ':' :: rest =>
              let (value, rest) <- readValue bound fuel depth (skipSpace rest)
              let member := (key, value)
              match skipSpace rest with
              | '}' :: rest => return ([member], rest)
              | ',' :: rest =>
                  let (members, rest) <- readMembers bound fuel depth (skipSpace rest)
                  return (member :: members, rest)
              | _ => throw .malformed
          | _ => throw .malformed
      | _ => .error .malformed

end

/-- The value of a whole text, with blanks around it. -/
def read (input : String) : Except ReadError Json := do
  let characters := skipSpace input.toList
  let bound := characters.length + 1
  let (value, rest) <- readValue bound bound maxDepth characters
  if (skipSpace rest).isEmpty then return value else throw .malformed

end Json
end ModalDrill
