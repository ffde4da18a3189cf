import ModalDrill.Text.Blank

namespace ModalDrill

/-!
# The version in a project manifest

A manifest is a list of lines, and a line in square brackets starts a table.
The version of a project is the first version line of its project table; of
several manifests the innermost one with a version counts.
-/

namespace Manifest

/-- The characters that end a line. -/
def isLineBreak (c : Char) : Bool :=
  Text.inRanges [(0x0A, 0x0D), (0x1C, 0x1E), (0x85, 0x85), (0x2028, 0x2029)] c

/-- The lines of a text, stripped.  A pair of line breaks leaves an empty line
between them, and empty lines mean nothing here. -/
def linesOf (text : List Char) : List (List Char) :=
  (text.splitOnP isLineBreak).map Text.trim

/-- Does a stripped line start a table? -/
def isHeader (line : List Char) : Bool :=
  line.head? == some '[' && line.getLast? == some ']'

/-- The header of the project table. -/
def projectHeader : List Char := "[project]".toList

/-- What follows a text at the front of another. -/
def behind? (start : List Char) (line : List Char) : Option (List Char) :=
  if start.isPrefixOf line then some (line.drop start.length) else none

/-- The version that a stripped line names: a text without quotes between two
quotes, with nothing behind it. -/
def versionOf? (line : List Char) : Option (List Char) := do
  let behindName <- behind? "version".toList line
  let behindSign <- behind? ['='] (Text.trimStart behindName)
  let quotedPart <- behind? ['"'] (Text.trimStart behindSign)
  let version := quotedPart.takeWhile (· != '"')
  if version.isEmpty || quotedPart.dropWhile (· != '"') != ['"'] then none else some version

/-- The first version line of the project table.  The flag tells whether the
lines are in that table. -/
def versionIn (inProject : Bool) : List (List Char) -> Option (List Char)
  | [] => none
  | line :: rest =>
      if isHeader line then versionIn (line == projectHeader) rest
      else if inProject then (versionOf? line).or (versionIn inProject rest)
      else versionIn inProject rest

/-- The version that a manifest names. -/
def version? (text : String) : Option String :=
  (versionIn false (linesOf text.toList)).map String.ofList

/-- The version of the innermost manifest that names one.  A folder may have
no manifest. -/
def innermostVersion? (manifests : List (Option String)) : Option String :=
  manifests.findSome? fun manifest => manifest.bind version?

/-- The version of a program of which nothing is known. -/
def unknownVersion : String := "0+unknown"

/-- The version of a program: that of its manifests, else the installed one. -/
def resolve (manifests : List (Option String)) (installed : Option String) : String :=
  ((innermostVersion? manifests).or installed).getD unknownVersion

end Manifest
end ModalDrill
