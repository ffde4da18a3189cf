import ModalDrill.Buffer.Edit
import ModalDrill.Buffer.Motion
import ModalDrill.Buffer.Reach

namespace ModalDrill

/-!
# Keys and what they do

The keys are the closed set of commands that the drill understands.  Each has
one canonical text.  An editor is what a key acts on: a buffer and the single
register, which holds the line yanked last.
-/

/-- The commands of the drill. -/
inductive Key
  | left | down | up | right
  | lineStart | lineEnd | top | bottom
  | deleteChar | deleteWord | changeWord
  | yankLine | pasteBelow | deleteLine
  | wordForward | wordBackward
  | yankPaste
deriving DecidableEq, Repr

namespace Key

/-- Every key, once. -/
def all : List Key :=
  [left, down, up, right, lineStart, lineEnd, top, bottom, deleteChar, deleteWord, changeWord,
    yankLine, pasteBelow, deleteLine, wordForward, wordBackward, yankPaste]

/-- The canonical text of a key. -/
def text : Key -> String
  | left => "h"
  | down => "j"
  | up => "k"
  | right => "l"
  | lineStart => "0"
  | lineEnd => "$"
  | top => "gg"
  | bottom => "G"
  | deleteChar => "x"
  | deleteWord => "dw"
  | changeWord => "cw"
  | yankLine => "yy"
  | pasteBelow => "p"
  | deleteLine => "dd"
  | wordForward => "w"
  | wordBackward => "b"
  | yankPaste => "yy p"

/-- The key that a text stands for.  Beside the canonical texts there is one
shorthand: a yank and a paste may be typed together without a blank. -/
def ofText? (typed : String) : Option Key :=
  if typed = "yyp" then some yankPaste else all.find? fun key => key.text == typed

/-- How far behind the cursor a key starts to look for words, if it looks for
any.  Looking backward it takes the whole part of the line before the cursor. -/
def searchDistance? : Key -> Option Int
  | deleteWord => some 0
  | changeWord => some 0
  | wordForward => some 1
  | _ => none

end Key

/-- A buffer and the register, which is empty until a line is yanked. -/
structure Editor where
  buffer : Buffer
  register : Option Line
deriving DecidableEq

namespace Editor

/-- Copy the line under the cursor into the register.  Above and below the
text that is an empty line. -/
def yank (editor : Editor) : Editor :=
  { editor with register := some editor.buffer.currentLine }

/-- Insert the register below the cursor.  An empty register gives an empty line. -/
def paste (editor : Editor) : Editor :=
  { editor with buffer := editor.buffer.pasteBelow (editor.register.getD []) }

/-- Change the buffer and leave the register alone. -/
def edit (editor : Editor) (change : Buffer -> Buffer) : Editor :=
  { editor with buffer := change editor.buffer }

/-- The effect of a key.  Only the deletion of lines repeats. -/
def press (editor : Editor) (count : Nat) : Key -> Editor
  | .left => editor.edit (·.moveBy 0 (-1))
  | .down => editor.edit (·.moveBy 1 0)
  | .up => editor.edit (·.moveBy (-1) 0)
  | .right => editor.edit (·.moveBy 0 1)
  | .lineStart => editor.edit Buffer.lineStart
  | .lineEnd => editor.edit Buffer.lineEnd
  | .top => editor.edit Buffer.parkAbove
  | .bottom => editor.edit Buffer.parkBelow
  | .deleteChar => editor.edit Buffer.deleteChar
  | .deleteWord => editor.edit Buffer.deleteWord
  | .changeWord => editor.edit Buffer.changeWord
  | .yankLine => editor.yank
  | .pasteBelow => editor.paste
  | .deleteLine => editor.edit (·.deleteLines count)
  | .wordForward => editor.edit Buffer.wordForward
  | .wordBackward => editor.edit Buffer.wordBackward
  | .yankPaste => editor.yank.paste

/-- Is the place where a key starts to look for words within reach? -/
def reaches (editor : Editor) (key : Key) : Bool :=
  match key.searchDistance? with
  | none => true
  | some distance => editor.buffer.searchable distance

/-- The effect of a key on an editor from anywhere. -/
def tryPress (editor : Editor) (count : Nat) (key : Key) : Except ReachError Editor :=
  if editor.reaches key then .ok (editor.press count key) else .error .columnOutOfReach

end Editor
end ModalDrill
