import Mathlib.Data.List.TakeDrop
import ModalDrill.Proofs.Command.Effects
import ModalDrill.Proofs.Text.Words

namespace ModalDrill

/-!
# Words deleted one after the other

A deletion inside a line keeps what is in front of the cursor and changes what is
behind it.  Repeated, it changes that again and again, and so a word deletion takes
the words behind the cursor one by one.  Without a word it does nothing; only a search
that would start at a column that does not fit into 64 bits is refused.
-/

namespace Buffer

/-! ## Changes behind the cursor -/

/-- Change the part of the line behind the cursor. -/
def editBehind (buffer : Buffer) (change : List Char -> List Char) : Buffer :=
  buffer.setLine (Text.before buffer.currentLine buffer.cursor.col ++
    change (Text.after buffer.currentLine buffer.cursor.col))

theorem setLine_setLine (buffer : Buffer) (text text' : Line) :
    (buffer.setLine text).setLine text' = buffer.setLine text' := by
  simp only [setLine, List.set_set]

theorem setLine_currentLine_self {buffer : Buffer} (onLine : buffer.OnLine) :
    buffer.setLine buffer.currentLine = buffer := by
  have read := buffer.reads_currentLine.inside onLine
  rcases List.getElem?_eq_some_iff.mp read with ⟨inside, line⟩
  have same : buffer.lines.set buffer.cursor.row.toNat buffer.currentLine = buffer.lines := by
    rw [← line, List.set_getElem_self]
  simp only [setLine, same]

theorem editBehind_of_same {buffer : Buffer} (onLine : buffer.OnLine)
    {change : List Char -> List Char}
    (same : change (Text.after buffer.currentLine buffer.cursor.col) =
      Text.after buffer.currentLine buffer.cursor.col) : buffer.editBehind change = buffer := by
  rw [editBehind, same, Text.before_append_after, setLine_currentLine_self onLine]

theorem deleteWord_eq_editBehind {buffer : Buffer} (onLine : buffer.OnLine)
    (nonneg : 0 ≤ buffer.cursor.col) : buffer.deleteWord = buffer.editBehind Text.behindWord := by
  have place := Text.position_of_nonneg buffer.currentLine.length nonneg
  simp only [deleteWord, anchor_of_onLine onLine, ← place]
  split
  · next noWord =>
      refine (editBehind_of_same onLine ?_).symm
      rw [Text.behindWord, Text.after, noWord]
  · next span found =>
      rw [editBehind, Text.behindWord, Text.after, found, ← List.drop_drop]

theorem deleteChar_eq_editBehind {buffer : Buffer} (onLine : buffer.OnLine)
    (nonneg : 0 ≤ buffer.cursor.col) : buffer.deleteChar = buffer.editBehind List.tail := by
  simp only [deleteChar, anchor_of_onLine onLine]
  split
  · next nothing =>
      refine (editBehind_of_same onLine ?_).symm
      have behind : Text.after buffer.currentLine buffer.cursor.col = [] := by
        rw [Text.after_of_nonneg _ nonneg]
        apply List.drop_eq_nil_of_le
        rcases nothing with empty | behind
        · rw [empty]
          exact Nat.zero_le _
        · omega
      rw [behind]
      rfl
  · next onCharacter =>
      have next : (buffer.cursor.col + 1).toNat = buffer.cursor.col.toNat + 1 := by omega
      rw [editBehind, Text.after_of_nonneg _ nonneg, Text.after_of_nonneg _ (by omega), next,
        List.tail_drop]

/-! ## Repeated changes -/

theorem editBehind_onLine {buffer : Buffer} (onLine : buffer.OnLine)
    (change : List Char -> List Char) : (buffer.editBehind change).OnLine := by
  rw [OnLine, editBehind, setLine_height, setLine_cursor]
  exact onLine

section Near

variable {buffer : Buffer} (onLine : buffer.OnLine) (near : buffer.Near)

include onLine near

theorem length_before_cursor :
    ((Text.before buffer.currentLine buffer.cursor.col).length : Int) = buffer.cursor.col :=
  Text.length_before_of_mem (near.onLine onLine).1 (near.onLine onLine).2

theorem editBehind_near (change : List Char -> List Char) : (buffer.editBehind change).Near := by
  refine near.setLine onLine ?_
  have front := length_before_cursor onLine near
  rw [List.length_append]
  omega

theorem editBehind_editBehind (first second : List Char -> List Char) :
    (buffer.editBehind first).editBehind second = buffer.editBehind (second ∘ first) := by
  have front := length_before_cursor onLine near
  rw [editBehind, editBehind, setLine_currentLine onLine, setLine_cursor, Text.before_append front,
    Text.after_append front, setLine_setLine]
  rfl

/-- An operation that changes what is behind the cursor changes it again and again
when it is repeated. -/
theorem iterate_editBehind {act : Buffer -> Buffer} {change : List Char -> List Char}
    (acts : forall buffer : Buffer, buffer.OnLine -> 0 ≤ buffer.cursor.col ->
      act buffer = buffer.editBehind change) (times : Nat) :
    act^[times] buffer = buffer.editBehind change^[times] := by
  induction times with
  | zero => exact (editBehind_of_same onLine rfl).symm
  | succ times inductionHypothesis =>
      have reached := editBehind_onLine onLine change^[times]
      have column := ((editBehind_near onLine near change^[times]).onLine reached).1
      rw [Function.iterate_succ_apply', inductionHypothesis, acts _ reached column,
        editBehind_editBehind onLine near, Function.iterate_succ']

end Near

/-! ## Words -/

theorem deleteWord_of_noWord {buffer : Buffer} (onLine : buffer.OnLine)
    (nonneg : 0 ≤ buffer.cursor.col)
    (noWord : Text.wordSuffixes (buffer.currentLine.drop buffer.cursor.col.toNat) = []) :
    buffer.deleteWord = buffer := by
  rw [deleteWord_eq_editBehind onLine nonneg]
  refine editBehind_of_same onLine (Text.behindWord_of_noWord ?_)
  rw [Text.after_of_nonneg _ nonneg]
  exact Text.wordSuffixes_eq_nil_iff.mp noWord

/-- Words are only behind a cursor that is in its line. -/
theorem near_of_words {buffer : Buffer} (onLine : buffer.OnLine) (nonneg : 0 ≤ buffer.cursor.col)
    (words : Text.wordSuffixes (buffer.currentLine.drop buffer.cursor.col.toNat) ≠ []) :
    buffer.Near := by
  refine Near.of_onLine onLine nonneg ?_
  by_contra behind
  rw [List.drop_eq_nil_of_le (by omega)] at words
  exact words rfl

theorem iterate_deleteWord {buffer : Buffer} (onLine : buffer.OnLine)
    (nonneg : 0 ≤ buffer.cursor.col)
    (words : Text.wordSuffixes (buffer.currentLine.drop buffer.cursor.col.toNat) ≠ []) {times : Nat}
    (deletes : 1 ≤ times) :
    deleteWord^[times] buffer = buffer.setLine (buffer.currentLine.take buffer.cursor.col.toNat ++
      (Text.wordSuffixes (buffer.currentLine.drop buffer.cursor.col.toNat))[times]?.getD []) := by
  have near := near_of_words onLine nonneg words
  rw [iterate_editBehind onLine near (fun _ => deleteWord_eq_editBehind), editBehind,
    Text.before_of_nonneg _ nonneg, Text.after_of_nonneg _ nonneg,
    Text.iterate_behindWord words deletes]

/-- A word goes character by character. -/
theorem deleteWord_eq_iterate_deleteChar {buffer : Buffer} (onLine : buffer.OnLine)
    (nonneg : 0 ≤ buffer.cursor.col) :
    Exists fun removed : Nat =>
      removed + buffer.deleteWord.currentLine.length = buffer.currentLine.length ∧
        buffer.deleteWord = deleteChar^[removed] buffer := by
  by_cases words : Text.wordSuffixes (buffer.currentLine.drop buffer.cursor.col.toNat) = []
  · rw [deleteWord_of_noWord onLine nonneg words]
    exact ⟨0, Nat.zero_add _, rfl⟩
  · have near := near_of_words onLine nonneg words
    have whole := congrArg List.length
      (Text.before_append_after buffer.currentLine buffer.cursor.col)
    generalize behind : Text.after buffer.currentLine buffer.cursor.col = rest at whole
    have kept := Text.behindWord_suffix rest
    refine ⟨rest.length - (Text.behindWord rest).length, ?_, ?_⟩
    · rw [deleteWord_eq_editBehind onLine nonneg, editBehind, setLine_currentLine onLine, behind,
        List.length_append]
      have fewer := kept.length_le
      rw [List.length_append] at whole
      omega
    · rw [deleteWord_eq_editBehind onLine nonneg,
        iterate_editBehind onLine near (fun _ => deleteChar_eq_editBehind), editBehind, editBehind,
        behind, List.tail_iterate, ← List.suffix_iff_eq_drop.mp kept]

end Buffer

namespace Key

/-- The keys that delete a word. -/
def wordDeleting : List Key :=
  [deleteWord, changeWord]

end Key

namespace Editor

/-! ## Keys one after the other -/

/-- Press keys in turn, up to the first one that is refused. -/
def tryPressAll (editor : Editor) (keys : List Key) : Except ReachError Editor :=
  keys.foldlM (fun editor key => editor.tryPress 1 key) editor

/-- Keys that all do the same do it as often as there are keys, as long as it leads
to no place where they do not. -/
theorem tryPressAll_of_same (place : Buffer -> Prop) {act : Buffer -> Buffer} {keys : List Key}
    (same : forall key, key ∈ keys -> forall editor : Editor, place editor.buffer ->
      editor.tryPress 1 key = .ok (editor.edit act))
    (stays : forall buffer, place buffer -> place (act buffer)) {editor : Editor}
    (start : place editor.buffer) :
    editor.tryPressAll keys = .ok (editor.edit act^[keys.length]) := by
  induction keys generalizing editor with
  | nil => rfl
  | cons key rest inductionHypothesis =>
      have first := same key List.mem_cons_self editor start
      have next : place (editor.edit act).buffer := stays _ start
      rw [tryPressAll, List.foldlM_cons, first]
      exact inductionHypothesis (fun key listed => same key (List.mem_cons_of_mem _ listed)) next

/-- One key again and again, from a place that it never leaves. -/
theorem tryPressAll_replicate (place : Buffer -> Prop) {act : Buffer -> Buffer} {key : Key}
    (same : forall editor : Editor, place editor.buffer ->
      editor.tryPress 1 key = .ok (editor.edit act))
    (stays : forall buffer, place buffer -> place (act buffer)) {editor : Editor}
    (start : place editor.buffer) (times : Nat) :
    editor.tryPressAll (List.replicate times key) = .ok (editor.edit act^[times]) := by
  have each : forall key', key' ∈ List.replicate times key -> forall editor : Editor,
      place editor.buffer -> editor.tryPress 1 key' = .ok (editor.edit act) := by
    intro key' listed editor here
    rw [List.eq_of_mem_replicate listed]
    exact same editor here
  rw [tryPressAll_of_same place each stays start, List.length_replicate]

theorem tryPressAll_deleteChar (editor : Editor) (times : Nat) :
    editor.tryPressAll (List.replicate times .deleteChar) =
      .ok (editor.edit Buffer.deleteChar^[times]) :=
  tryPressAll_replicate (fun _ => True) (fun _ _ => rfl) (fun _ _ => trivial) trivial times

/-! ## Keys that delete a word -/

theorem tryPress_wordDeleting {key : Key} (deleting : key ∈ Key.wordDeleting) (editor : Editor) :
    editor.tryPress 1 key =
      if editor.buffer.searchable 0 then .ok (editor.edit Buffer.deleteWord)
      else .error .columnOutOfReach := by
  rcases List.mem_pair.mp deleting with rfl | rfl
  · rfl
  · rfl

theorem tryPress_wordDeleting_of_near {key : Key} (deleting : key ∈ Key.wordDeleting)
    {editor : Editor} (near : editor.buffer.Near) :
    editor.tryPress 1 key = .ok (editor.edit Buffer.deleteWord) := by
  have reaches : editor.reaches .deleteWord = true := reaches_of_near near .deleteWord
  rw [tryPress_wordDeleting deleting]
  exact if_pos reaches

theorem tryPressAll_wordDeleting {keys : List Key}
    (deleting : forall key, key ∈ keys -> key ∈ Key.wordDeleting) {editor : Editor}
    (near : editor.buffer.Near) :
    editor.tryPressAll keys = .ok (editor.edit Buffer.deleteWord^[keys.length]) :=
  tryPressAll_of_same Buffer.Near
    (fun _ listed _ near => tryPress_wordDeleting_of_near (deleting _ listed) near)
    (fun buffer near => (buffer.deleteWord_cutsLine).near near) near

/-- A search for words is refused far behind the line alone. -/
theorem searchable_from_iff {buffer : Buffer} (onLine : buffer.OnLine) (distance : Int)
    (nonneg : 0 ≤ buffer.cursor.col + distance) :
    buffer.searchable distance = true ↔ buffer.cursor.col + distance < columnBound ∨
      buffer.cursor.col + distance ≤ buffer.currentLine.length + 1 := by
  simp only [Buffer.searchable, reachable, Buffer.anchor_of_onLine onLine, Bool.or_eq_true,
    Bool.and_eq_true, decide_eq_true_eq]
  unfold columnBound
  omega

theorem searchable_iff {buffer : Buffer} (onLine : buffer.OnLine) (nonneg : 0 ≤ buffer.cursor.col) :
    buffer.searchable 0 = true ↔
      buffer.cursor.col < columnBound ∨ buffer.cursor.col ≤ buffer.currentLine.length + 1 := by
  simpa only [Int.add_zero] using
    searchable_from_iff onLine 0 (Int.add_nonneg nonneg (Int.le_refl 0))

/-- Word deletions take the words behind the cursor one by one, and then nothing is
left behind it; without a word there they do nothing.  One of them does what as many
deletions of a character do as it removes.  They are only refused far behind the line,
where there is no word. -/
theorem words_deleted_in_turn {editor : Editor} (onLine : editor.buffer.OnLine)
    (nonneg : 0 ≤ editor.buffer.cursor.col) {keys : List Key}
    (deleting : forall key, key ∈ keys -> key ∈ Key.wordDeleting) :
    let line := editor.buffer.currentLine
    let col := editor.buffer.cursor.col
    let words := Text.wordSuffixes (line.drop col.toNat)
    (words = [] -> forall key, key ∈ Key.wordDeleting ->
      (col < columnBound -> editor.tryPress 1 key = .ok editor) ∧
      (columnBound ≤ col -> line.length + 1 < col ->
        editor.tryPress 1 key = .error .columnOutOfReach)) ∧
    (1 ≤ keys.length -> forall fewer : keys.length < words.length,
      editor.tryPressAll keys =
        .ok (editor.edit (·.setLine (line.take col.toNat ++ words[keys.length])))) ∧
    (words ≠ [] -> words.length ≤ keys.length ->
      editor.tryPressAll keys = .ok (editor.edit (·.setLine (line.take col.toNat)))) ∧
    forall key, key ∈ Key.wordDeleting -> forall after, editor.tryPress 1 key = .ok after ->
      Exists fun removed : Nat => removed + after.buffer.currentLine.length = line.length ∧
        editor.tryPressAll (List.replicate removed .deleteChar) = .ok after := by
  intro line col words
  have deleted (some : words ≠ []) (moves : 1 ≤ keys.length) : editor.tryPressAll keys =
      .ok (editor.edit (·.setLine (line.take col.toNat ++ words[keys.length]?.getD []))) := by
    rw [tryPressAll_wordDeleting deleting (Buffer.near_of_words onLine nonneg some)]
    exact congrArg (fun buffer => Except.ok (Editor.mk buffer editor.register))
      (Buffer.iterate_deleteWord onLine nonneg some moves)
  refine ⟨fun none key listed => ⟨fun fits => ?_, fun far behind => ?_⟩, fun moves fewer => ?_,
    fun some all => ?_, fun key listed after done => ?_⟩
  · rw [tryPress_wordDeleting listed, if_pos ((searchable_iff onLine nonneg).mpr (Or.inl fits)), edit,
      Buffer.deleteWord_of_noWord onLine nonneg none]
  · rw [tryPress_wordDeleting listed, if_neg]
    rw [searchable_iff onLine nonneg, not_or]
    exact ⟨Int.not_lt.mpr far, Int.not_le.mpr behind⟩
  · have some : words ≠ [] := List.ne_nil_of_length_pos (by omega)
    rw [deleted some moves, List.getElem?_eq_getElem fewer, Option.getD_some]
  · have moves : 1 ≤ keys.length := Nat.le_trans (List.length_pos_iff.mpr some) all
    rw [deleted some moves, List.getElem?_eq_none all, Option.getD_none, List.append_nil]
  · rw [tryPress_wordDeleting listed] at done
    split at done
    · cases done
      rcases Buffer.deleteWord_eq_iterate_deleteChar onLine nonneg with ⟨removed, length, same⟩
      refine ⟨removed, length, ?_⟩
      rw [tryPressAll_deleteChar, edit, edit, same]
    · cases done

/-- A line of three words, with the cursor inside the first. -/
def insideWord : Editor :=
  ⟨⟨[['o', 'n', 'e', ',', ' ', 't', 'w', 'o', ' ', '-', ' ', 'x', '_', '3', 'é']], ⟨0, 1⟩,
    List.cons_ne_nil _ _⟩, none⟩

/-- Two deletions inside the first of three words leave its front and the third, and a
third one leaves the front alone.  The first of them takes four characters. -/
theorem words_deleted_in_turn_three :
    let twice : List Key := [.deleteWord, .changeWord]
    let thrice : List Key := [.changeWord, .deleteWord, .deleteWord]
    (insideWord.buffer.OnLine ∧ 0 ≤ insideWord.buffer.cursor.col) ∧
    (forall key, key ∈ twice -> key ∈ Key.wordDeleting) ∧
    (forall key, key ∈ thrice -> key ∈ Key.wordDeleting) ∧
    insideWord.tryPressAll twice =
      .ok (insideWord.edit (·.setLine ['o', 'x', '_', '3', 'é'])) ∧
    insideWord.tryPressAll thrice = .ok (insideWord.edit (·.setLine ['o'])) ∧
    insideWord.tryPressAll (List.replicate 4 .deleteChar) = insideWord.tryPress 1 .deleteWord := by
  intro twice thrice
  have onLine : insideWord.buffer.OnLine := ⟨by decide, by decide⟩
  have nonneg : 0 ≤ insideWord.buffer.cursor.col := by decide
  have deletingTwice : forall key, key ∈ twice -> key ∈ Key.wordDeleting := by decide
  have deletingThrice : forall key, key ∈ thrice -> key ∈ Key.wordDeleting := by decide
  have two := words_deleted_in_turn onLine nonneg deletingTwice
  have three := words_deleted_in_turn onLine nonneg deletingThrice
  refine ⟨⟨onLine, nonneg⟩, deletingTwice, deletingThrice, two.2.1 (by decide) (by decide),
    three.2.2.1 (by decide) (by decide), ?_⟩
  have once : insideWord.tryPress 1 .deleteWord = .ok (insideWord.edit Buffer.deleteWord) := rfl
  rcases two.2.2.2 .deleteWord (by decide) _ once with ⟨removed, length, same⟩
  have whole : insideWord.buffer.currentLine.length = 15 := by decide
  have left : (insideWord.edit Buffer.deleteWord).buffer.currentLine.length = 11 := by decide
  have four : removed = 4 := by omega
  rw [once, ← same, four]

/-- A cursor at the first column that does not fit into 64 bits. -/
def farBehind : Editor :=
  ⟨.ofLines [['a', 'b']] 0 columnBound, none⟩

/-- Not everywhere does a word deletion without a word leave the text as it is, nor is
it everywhere a number of deletions of characters: far behind the line it is refused. -/
theorem far_word_deletion_refused :
    ¬ (forall editor : Editor, editor.buffer.OnLine -> 0 ≤ editor.buffer.cursor.col ->
      Text.wordSuffixes (editor.buffer.currentLine.drop editor.buffer.cursor.col.toNat) = [] ->
      editor.tryPress 1 .deleteWord = .ok editor) ∧
    ¬ (forall editor : Editor, editor.buffer.OnLine -> 0 ≤ editor.buffer.cursor.col ->
      Exists fun removed : Nat =>
        editor.tryPress 1 .deleteWord = editor.tryPressAll (List.replicate removed .deleteChar)) := by
  have onLine : farBehind.buffer.OnLine := ⟨by decide, by decide⟩
  have nonneg : 0 ≤ farBehind.buffer.cursor.col := by decide
  have refused : farBehind.tryPress 1 .deleteWord = .error .columnOutOfReach := by decide
  refine ⟨fun unchanged => ?_, fun counted => ?_⟩
  · have none : farBehind.buffer.currentLine.drop farBehind.buffer.cursor.col.toNat = [] :=
      List.drop_eq_nil_of_le (by decide)
    have done := unchanged farBehind onLine nonneg (by rw [none]; rfl)
    rw [refused] at done
    cases done
  · rcases counted farBehind onLine nonneg with ⟨removed, same⟩
    rw [refused, tryPressAll_deleteChar] at same
    cases same

end Editor
end ModalDrill
