import ModalDrill.Command.Basic
import ModalDrill.Proofs.Buffer.Cursor

namespace ModalDrill

/-!
# Runs of commands

A run of commands from a resting cursor never fails, and the cursor stays near
the text.  The keys fall into classes by where they leave the cursor.  Most of
them leave it on a character; the deletions inside a line and the motions by
words leave it in a row of the text.  Only a deletion inside a line brings the
cursor behind the end of a line, and only a command that does not place the
cursor anew lets it stay there.
-/

namespace Key

/-- The keys that leave the cursor on a character. -/
def resting : List Key :=
  [left, down, up, right, lineStart, lineEnd, pasteBelow, yankPaste, deleteLine]

/-- The deletions inside a line. -/
def cutting : List Key :=
  [deleteChar, deleteWord, changeWord]

/-- The motions by words. -/
def wordwise : List Key :=
  [wordForward, wordBackward]

theorem not_mem_resting_of_inLine :
    forall key, key ∈ cutting ++ wordwise -> key ∉ resting := by
  decide

end Key

/-- Where a command leaves the cursor, by the class of its key. -/
structure Verb.Leaves (verb : Verb) (before after : Buffer) : Prop where
  rests : forall key, key ∈ Key.resting -> verb = .key key -> after.Resting
  lands : forall key, key ∈ Key.cutting ++ Key.wordwise -> verb = .key key -> after.OnLine
  produced : after.BehindEnd -> ¬ before.BehindEnd ->
    Exists fun key => key ∈ Key.cutting ∧ verb = .key key
  survived : after.BehindEnd -> before.BehindEnd ->
    (Exists fun word => verb = .unknown word) ∨
      Exists fun key => key ∈ Key.cutting ++ Key.wordwise ++ [.yankLine] ∧ verb = .key key

namespace Verb.Leaves

theorem of_resting {verb : Verb} {before after : Buffer} (resting : after.Resting) :
    verb.Leaves before after where
  rests := fun _ _ _ => resting
  lands := fun _ _ _ => resting.onLine
  produced := fun behindEnd => absurd behindEnd resting.not_behindEnd
  survived := fun behindEnd => absurd behindEnd resting.not_behindEnd

theorem of_cutsLine {key : Key} {before after : Buffer} (cutting : key ∈ Key.cutting)
    (cuts : Buffer.CutsLine before after) : (Verb.key key).Leaves before after where
  rests := by
    rintro _ resting ⟨rfl⟩
    exact absurd resting (Key.not_mem_resting_of_inLine key (List.mem_append_left _ cutting))
  lands := fun _ _ _ => cuts.onLine
  produced := fun _ _ => ⟨key, cutting, rfl⟩
  survived := fun _ _ =>
    Or.inr ⟨key, List.mem_append_left _ (List.mem_append_left _ cutting), rfl⟩

theorem of_wordMotion {key : Key} {before after : Buffer} (wordwise : key ∈ Key.wordwise)
    (motion : Buffer.WordMotion before after) : (Verb.key key).Leaves before after where
  rests := by
    rintro _ resting ⟨rfl⟩
    exact absurd resting (Key.not_mem_resting_of_inLine key (List.mem_append_right _ wordwise))
  lands := fun _ _ _ => motion.onLine
  produced := fun behindEnd before => absurd (motion.behindEnd behindEnd) before
  survived := fun _ _ =>
    Or.inr ⟨key, List.mem_append_left _ (List.mem_append_right _ wordwise), rfl⟩

/-- A command that parks the cursor is in none of the classes. -/
theorem of_parked {key : Key} {before after : Buffer}
    (unclassed : key ∉ Key.resting ++ (Key.cutting ++ Key.wordwise))
    (parked : ¬ after.OnLine) : (Verb.key key).Leaves before after where
  rests := by
    rintro _ resting ⟨rfl⟩
    exact absurd (List.mem_append_left _ resting) unclassed
  lands := by
    rintro _ inLine ⟨rfl⟩
    exact absurd (List.mem_append_right _ inLine) unclassed
  produced := fun behindEnd => absurd behindEnd.onLine parked
  survived := fun behindEnd => absurd behindEnd.onLine parked

theorem of_yankLine (buffer : Buffer) : (Verb.key .yankLine).Leaves buffer buffer where
  rests := by
    rintro _ resting ⟨rfl⟩
    exact absurd resting (by decide)
  lands := by
    rintro _ inLine ⟨rfl⟩
    exact absurd inLine (by decide)
  produced := fun behindEnd before => absurd behindEnd before
  survived := fun _ _ => Or.inr ⟨.yankLine, by decide, rfl⟩

theorem of_unknown (word : String) (buffer : Buffer) : (Verb.unknown word).Leaves buffer buffer where
  rests := by
    rintro _ _ ⟨⟩
  lands := by
    rintro _ _ ⟨⟩
  produced := fun behindEnd before => absurd behindEnd before
  survived := fun _ _ => Or.inl ⟨word, rfl⟩

end Verb.Leaves

namespace Editor

/-! ## One command -/

theorem press_leaves (editor : Editor) (count : Nat) (key : Key) :
    (Verb.key key).Leaves editor.buffer (editor.press count key).buffer := by
  cases key with
  | left => exact .of_resting (Buffer.moveBy_resting _ _ _)
  | down => exact .of_resting (Buffer.moveBy_resting _ _ _)
  | up => exact .of_resting (Buffer.moveBy_resting _ _ _)
  | right => exact .of_resting (Buffer.moveBy_resting _ _ _)
  | lineStart => exact .of_resting (Buffer.lineStart_resting _)
  | lineEnd => exact .of_resting (Buffer.lineEnd_resting _)
  | top => exact .of_parked (by decide) (Buffer.parkAbove_not_onLine _)
  | bottom => exact .of_parked (by decide) (Buffer.parkBelow_not_onLine _)
  | deleteChar => exact .of_cutsLine (by decide) (Buffer.deleteChar_cutsLine _)
  | deleteWord => exact .of_cutsLine (by decide) (Buffer.deleteWord_cutsLine _)
  | changeWord => exact .of_cutsLine (by decide) (Buffer.deleteWord_cutsLine _)
  | yankLine => exact .of_yankLine _
  | pasteBelow => exact .of_resting (Buffer.pasteBelow_resting _ _)
  | deleteLine => exact .of_resting (Buffer.deleteLines_resting _ _)
  | wordForward => exact .of_wordMotion (by decide) (Buffer.wordForward_wordMotion _)
  | wordBackward => exact .of_wordMotion (by decide) (Buffer.wordBackward_wordMotion _)
  | yankPaste => exact .of_resting (Buffer.pasteBelow_resting _ _)

theorem press_near {editor : Editor} (near : editor.buffer.Near) (count : Nat) (key : Key) :
    (editor.press count key).buffer.Near := by
  cases key with
  | left => exact (Buffer.moveBy_resting _ _ _).near
  | down => exact (Buffer.moveBy_resting _ _ _).near
  | up => exact (Buffer.moveBy_resting _ _ _).near
  | right => exact (Buffer.moveBy_resting _ _ _).near
  | lineStart => exact (Buffer.lineStart_resting _).near
  | lineEnd => exact (Buffer.lineEnd_resting _).near
  | top => exact Buffer.parkAbove_near _
  | bottom => exact Buffer.parkBelow_near _
  | deleteChar => exact (Buffer.deleteChar_cutsLine _).near near
  | deleteWord => exact (Buffer.deleteWord_cutsLine _).near near
  | changeWord => exact (Buffer.deleteWord_cutsLine _).near near
  | yankLine => exact near
  | pasteBelow => exact (Buffer.pasteBelow_resting _ _).near
  | deleteLine => exact (Buffer.deleteLines_resting _ _).near
  | wordForward => exact (Buffer.wordForward_wordMotion _).near near
  | wordBackward => exact (Buffer.wordBackward_wordMotion _).near near
  | yankPaste => exact (Buffer.pasteBelow_resting _ _).near

/-- A cursor near the text is within the reach of every search: it starts at
the cursor or one column behind it. -/
theorem reaches_of_near {editor : Editor} (near : editor.buffer.Near) (key : Key) :
    editor.reaches key = true := by
  have col := near.anchor_col
  have searchable : forall distance, 0 ≤ distance -> distance ≤ 1 ->
      editor.buffer.searchable distance = true := by
    intro distance ahead next
    simp only [Buffer.searchable, Bool.or_eq_true, Bool.and_eq_true, decide_eq_true_eq]
    exact Or.inr ⟨by omega, by omega⟩
  cases key with
  | deleteWord => exact searchable 0 (by decide) (by decide)
  | changeWord => exact searchable 0 (by decide) (by decide)
  | wordForward => exact searchable 1 (by decide) (by decide)
  | _ => rfl

theorem tryType_of_near {editor : Editor} (near : editor.buffer.Near) (typed : String) :
    editor.tryType typed = .ok (editor.type typed) := by
  unfold tryType type Command.tryRun Command.run
  cases (Command.parse typed).verb with
  | key key => exact if_pos (reaches_of_near near key)
  | unknown word => rfl

theorem type_near {editor : Editor} (near : editor.buffer.Near) (typed : String) :
    (editor.type typed).buffer.Near := by
  unfold type Command.run
  cases (Command.parse typed).verb with
  | key key => exact press_near near _ key
  | unknown word => exact near

theorem type_leaves (editor : Editor) (typed : String) :
    (Command.parse typed).verb.Leaves editor.buffer (editor.type typed).buffer := by
  unfold type Command.run
  cases (Command.parse typed).verb with
  | key key => exact press_leaves editor _ key
  | unknown word => exact .of_unknown word _

/-! ## Many commands -/

/-- Carry out what is typed, one text after the other, up to the first one that
is refused. -/
def tryTypeAll (editor : Editor) (inputs : List String) : Except ReachError Editor :=
  inputs.foldlM tryType editor

/-- The invariant carries a run: no text is refused, and the cursor stays near. -/
theorem tryTypeAll_of_near {editor : Editor} (near : editor.buffer.Near) (inputs : List String) :
    Exists fun reached => editor.tryTypeAll inputs = .ok reached ∧ reached.buffer.Near := by
  induction inputs generalizing editor with
  | nil => exact ⟨editor, rfl, near⟩
  | cons typed rest inductionHypothesis =>
      rcases inductionHypothesis (type_near near typed) with ⟨reached, run, stays⟩
      refine ⟨reached, ?_, stays⟩
      rw [tryTypeAll, List.foldlM_cons, tryType_of_near near typed]
      exact run

/-- From a resting cursor every run of commands goes through, and so does every
next command.  The cursor stays near the text all the way, and each command
leaves it where its class says. -/
theorem runs_stay_near (editor : Editor) (resting : editor.buffer.Resting) (inputs : List String) :
    Exists fun reached => editor.tryTypeAll inputs = .ok reached ∧ reached.buffer.Near ∧
      forall typed, Exists fun next => reached.tryType typed = .ok next ∧ next.buffer.Near ∧
        (Command.parse typed).verb.Leaves reached.buffer next.buffer := by
  rcases tryTypeAll_of_near resting.near inputs with ⟨reached, run, near⟩
  refine ⟨reached, run, near, ?_⟩
  intro typed
  exact ⟨reached.type typed, tryType_of_near near typed, type_near near typed,
    type_leaves reached typed⟩

/-- A text of one line, with the cursor on its last character. -/
def lastCharacter : Editor :=
  ⟨⟨[['a', 'b']], ⟨0, 1⟩, List.cons_ne_nil _ _⟩, none⟩

/-- Deleting the last character of a longer line leaves the cursor behind its end. -/
theorem runs_stay_near_behind_end : lastCharacter.buffer.Resting ∧
    Exists fun reached => lastCharacter.tryTypeAll ["gg", "$", "x"] = .ok reached ∧
      reached.buffer.Near ∧
      forall typed, Exists fun next => reached.tryType typed = .ok next ∧ next.buffer.Near ∧
        (Command.parse typed).verb.Leaves reached.buffer next.buffer := by
  have resting : lastCharacter.buffer.Resting :=
    ⟨⟨by decide, by decide⟩, by decide, by decide⟩
  exact ⟨resting, runs_stay_near lastCharacter resting ["gg", "$", "x"]⟩

end Editor
end ModalDrill
