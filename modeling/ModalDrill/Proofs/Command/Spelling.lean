import ModalDrill.Proofs.Command.Counts
import ModalDrill.Session.Basic

namespace ModalDrill

/-!
# Spellings of a command

A command can be spelled with a count, with blanks around it, and in one case in a
shorter form.  Its canonical text is the one spelling that stands for itself.  It has
the verb of every other spelling, so it does the same wherever the count does not
matter, and that is for every command but the deletion of lines.
-/

namespace Count

/-- A text is a counted word of small letters, or it is all word. -/
theorem split_cases (typed : List Char) :
    (forall c, c ∈ (split typed).2 -> isSmallLetter c = true) ∨ split typed = (1, typed) := by
  dsimp only [split]
  split
  · next counted => exact Or.inl (List.all_eq_true.mp (Bool.and_eq_true_iff.mp counted).2)
  · exact Or.inr rfl

/-- The word behind a count has no count of its own. -/
theorem split_word_of_split (typed : List Char) : split (split typed).2 = (1, (split typed).2) := by
  rcases split_cases typed with small | uncounted
  · exact split_word small
  · rw [uncounted, uncounted]

/-- The word of a stripped text is stripped. -/
theorem trim_word_of_split {typed : List Char} (trimmed : Text.trim typed = typed) :
    Text.trim (split typed).2 = (split typed).2 := by
  rcases split_cases typed with small | uncounted
  · exact Text.trim_of_solid fun c listed => isBlank_of_counted (Or.inr (small c listed))
  · rw [uncounted, trimmed]

end Count

theorem Verb.word_of_unknown {word echoed : String} (unknown : ofWord word = .unknown echoed) :
    echoed = word := by
  unfold ofWord at unknown
  split at unknown
  · cases unknown
  · cases unknown
    rfl

namespace Command

/-! ## Reading a canonical text -/

theorem parse_eq (typed : String) :
    parse typed = ⟨(split typed).1, Verb.ofWord (split typed).2⟩ :=
  rfl

theorem parse_verb (typed : String) : (parse typed).verb = Verb.ofWord (split typed).2 := by
  rw [parse_eq]

theorem parse_key_text (key : Key) : parse key.text = ⟨1, .key key⟩ := by
  cases key <;> decide +kernel

/-- The word of a typed text, typed alone, is read as itself. -/
theorem split_word (typed : String) : split (split typed).2 = (1, (split typed).2) := by
  have word := Count.split_word_of_split (Text.trim typed.toList)
  have trimmed := Count.trim_word_of_split (Text.trim_trim typed.toList)
  dsimp only [split]
  rw [String.toList_ofList, trimmed, word]

/-- The canonical text of a command is read as the command, once. -/
theorem parse_text (typed : String) : parse (parse typed).text = ⟨1, (parse typed).verb⟩ := by
  cases verb : (parse typed).verb with
  | key key =>
      rw [text, verb]
      exact parse_key_text key
  | unknown echoed =>
      -- What is echoed is the word, and the word is read without a count.
      have word : echoed = (split typed).2 := by
        rw [parse_verb] at verb
        exact Verb.word_of_unknown verb
      have again : parse echoed = ⟨1, (parse typed).verb⟩ := by
        rw [word, parse_eq, split_word, parse_verb]
      rw [text, verb, Verb.text, again, verb]

theorem parse_padded {front back : List Char} (blankFront : forall c, c ∈ front -> Text.isBlank c = true)
    (blankBack : forall c, c ∈ back -> Text.isBlank c = true) (typed : String) :
    parse (Text.padded front typed back) = parse typed := by
  unfold parse split
  rw [Text.padded, String.toList_ofList, Text.trim_append_of_blank blankFront blankBack]

end Command

/-! ## Doing what a canonical text says -/

theorem Editor.press_eq_of_ne {key : Key} (other : key ≠ .deleteLine) (editor : Editor)
    (count count' : Nat) : editor.press count key = editor.press count' key := by
  cases key with
  | deleteLine => exact absurd rfl other
  | _ => rfl

theorem Editor.tryType_eq_of_verb_eq {typed other : String}
    (same : (Command.parse typed).verb = (Command.parse other).verb)
    (uncounted : (Command.parse typed).verb ≠ .key .deleteLine) (editor : Editor) :
    editor.tryType typed = editor.tryType other := by
  unfold tryType Command.tryRun
  rw [← same]
  cases verb : (Command.parse typed).verb with
  | unknown word => rfl
  | key key =>
      have counts := editor.press_eq_of_ne (fun deletes => uncounted (deletes ▸ verb))
        (Command.parse typed).count (Command.parse other).count
      dsimp only [tryPress]
      rw [counts]

theorem Session.submit_padded {front back : List Char}
    (blankFront : forall c, c ∈ front -> Text.isBlank c = true)
    (blankBack : forall c, c ∈ back -> Text.isBlank c = true) (session : Session)
    (register : Option Line) (now : Seconds) (input : String) :
    session.submit register now (Text.padded front input back) =
      session.submit register now input := by
  unfold submit
  rw [Text.strip_padding blankFront blankBack]

/-- The canonical text of a command is read as the same verb, once, and is its own
canonical text.  Blanks around a command change nothing, neither for an editor nor for
a session; and but for a deletion of lines, the canonical text does what was typed. -/
theorem Command.text_stands_for_command (typed : String) {front back : List Char}
    (blankFront : forall c, c ∈ front -> Text.isBlank c = true)
    (blankBack : forall c, c ∈ back -> Text.isBlank c = true) :
    (parse (parse typed).text = ⟨1, (parse typed).verb⟩ ∧
      (parse (parse typed).text).text = (parse typed).text) ∧
    parse (Text.padded front typed back) = parse typed ∧
    ((parse typed).verb ≠ .key .deleteLine -> forall editor : Editor,
      editor.tryType typed = editor.tryType (parse typed).text) ∧
    forall (session : Session) (register : Option Line) (now : Seconds),
      session.submit register now (Text.padded front typed back) =
        session.submit register now typed := by
  have canonical := parse_text typed
  refine ⟨⟨canonical, ?_⟩, parse_padded blankFront blankBack typed, ?_, ?_⟩
  · rw [text, canonical, text]
  · intro uncounted editor
    refine editor.tryType_eq_of_verb_eq ?_ uncounted
    rw [canonical]
  · intro session register now
    exact session.submit_padded blankFront blankBack register now typed

/-- A counted yank and paste in its shorter form, with blanks of two kinds around it,
is the spelled out one. -/
theorem Command.text_stands_for_command_yank_paste :
    (forall c, c ∈ ['\t'] -> Text.isBlank c = true) ∧
    (forall c, c ∈ [' ', '\n'] -> Text.isBlank c = true) ∧
    (parse "03yyp").verb ≠ .key .deleteLine ∧ (parse "03yyp").text = "yy p" ∧
    parse "yy p" = ⟨1, (parse "03yyp").verb⟩ ∧
    parse (Text.padded ['\t'] "03yyp" [' ', '\n']) = ⟨3, .key .yankPaste⟩ ∧
    forall editor : Editor, editor.tryType "03yyp" = editor.tryType "yy p" := by
  have blankFront : forall c, c ∈ ['\t'] -> Text.isBlank c = true := List.all_eq_true.mp rfl
  have blankBack : forall c, c ∈ [' ', '\n'] -> Text.isBlank c = true :=
    List.all_eq_true.mp rfl
  have uncounted : (parse "03yyp").verb ≠ .key .deleteLine := by decide +kernel
  have canonical : (parse "03yyp").text = "yy p" := by decide +kernel
  have stands := text_stands_for_command "03yyp" blankFront blankBack
  have read : parse "03yyp" = ⟨3, .key .yankPaste⟩ := by decide +kernel
  refine ⟨blankFront, blankBack, uncounted, canonical, ?_, stands.2.1.trans read, fun editor => ?_⟩
  · exact (congrArg parse canonical).symm.trans stands.1.1
  · exact (stands.2.2.1 uncounted editor).trans (congrArg editor.tryType canonical)

end ModalDrill
