import ModalDrill.Command.Count
import ModalDrill.Command.Key
import ModalDrill.Text.Blank

namespace ModalDrill

/-!
# Typed commands

A typed text is stripped and split into a count and a word.  The word is a
key or else unknown; an unknown command is accepted and does nothing.
-/

/-- What a typed word asks for. -/
inductive Verb
  | key (key : Key)
  | unknown (word : String)
deriving DecidableEq, Repr

/-- A command with its repeat count. -/
structure Command where
  count : Nat
  verb : Verb
deriving DecidableEq, Repr

namespace Verb

def ofWord (word : String) : Verb :=
  match Key.ofText? word with
  | some found => .key found
  | none => .unknown word

/-- The canonical text of a verb; an unknown one is echoed. -/
def text : Verb -> String
  | .key found => found.text
  | .unknown word => word

end Verb

namespace Command

/-- The count and the word of a typed text. -/
def split (typed : String) : Nat × String :=
  let parts := Count.split (Text.trim typed.toList)
  (parts.1, String.ofList parts.2)

def parse (typed : String) : Command :=
  let parts := split typed
  ⟨parts.1, Verb.ofWord parts.2⟩

/-- The text under which a command is judged. -/
def text (command : Command) : String :=
  command.verb.text

def run (command : Command) (editor : Editor) : Editor :=
  match command.verb with
  | .key key => editor.press command.count key
  | .unknown _ => editor

/-- Run a command on an editor from anywhere. -/
def tryRun (command : Command) (editor : Editor) : Except ReachError Editor :=
  match command.verb with
  | .key key => editor.tryPress command.count key
  | .unknown _ => .ok editor

end Command

/-- Carry out what is typed, in an editor whose cursor keys have placed. -/
def Editor.type (editor : Editor) (typed : String) : Editor :=
  (Command.parse typed).run editor

/-- Carry out what is typed, in an editor from anywhere. -/
def Editor.tryType (editor : Editor) (typed : String) : Except ReachError Editor :=
  (Command.parse typed).tryRun editor

end ModalDrill
