import ModalDrill.Proofs.Command.Words
import ModalDrill.Proofs.Text.Places

namespace ModalDrill

/-!
# Walking by words

A motion by words goes to the nearest place on its side of the cursor that holds a word
character, and stays if there is none.  Repeated, it comes to all of these places one by
one, with the nearest first, and stays at the last.  The two motions are mirror images of
each other: between two neighbouring places each leads back to where the other came from.
-/

namespace Buffer

/-! ## One motion -/

/-- The search backward is one of the line up to the cursor. -/
theorem before_cursor {buffer : Buffer} {col : Nat} (column : buffer.cursor.col = col) :
    Text.before buffer.currentLine buffer.cursor.col = buffer.currentLine.take col := by
  rw [column, Text.before_of_nonneg _ (Int.natCast_nonneg col), Int.toNat_natCast]

section OneMotion

variable {buffer : Buffer} (onLine : buffer.OnLine) {col : Nat} (column : buffer.cursor.col = col)

include onLine column

theorem wordForward_of_isLeast {place : Nat}
    (least : IsLeast {place | col < place ∧ Text.WordAt buffer.currentLine place} place) :
    buffer.wordForward = buffer.withCursor buffer.cursor.row place := by
  have start : (buffer.cursor.col + 1).toNat = col + 1 := by omega
  have search : Text.nextWordChar buffer.currentLine (col + 1) = some place :=
    Text.nextWordChar_eq_some_iff.mpr least
  simp only [wordForward, anchor_of_onLine onLine, start, search]

theorem wordForward_of_nowhere
    (nowhere : forall place, col < place -> ¬ Text.WordAt buffer.currentLine place) :
    buffer.wordForward = buffer := by
  have start : (buffer.cursor.col + 1).toNat = col + 1 := by omega
  have search : Text.nextWordChar buffer.currentLine (col + 1) = none :=
    Text.nextWordChar_eq_none_iff.mpr nowhere
  simp only [wordForward, anchor_of_onLine onLine, start, search]

theorem wordBackward_of_isGreatest {place : Nat}
    (greatest : IsGreatest {place | place < col ∧ Text.WordAt buffer.currentLine place} place) :
    buffer.wordBackward = buffer.withCursor buffer.cursor.row place := by
  have search : Text.lastWordChar (buffer.currentLine.take col) = some place := by
    simpa only [Text.lastWordChar_eq_some_iff, Text.wordAt_take] using greatest
  simp only [wordBackward, anchor_of_onLine onLine, before_cursor column, search]

theorem wordBackward_of_nowhere
    (nowhere : forall place, place < col -> ¬ Text.WordAt buffer.currentLine place) :
    buffer.wordBackward = buffer := by
  have search : Text.lastWordChar (buffer.currentLine.take col) = none := by
    simpa only [Text.lastWordChar_eq_none_iff, Text.wordAt_take, not_and] using nowhere
  simp only [wordBackward, anchor_of_onLine onLine, before_cursor column, search]

end OneMotion

/-! ## Many motions -/

/-- In one direction, a motion goes to the nearest place of a word character on the line
of the cursor, and stays where it is if there is none. -/
structure GoesAlong (beyond : Nat -> Nat -> Prop) (move : Buffer -> Buffer) : Prop where
  goes : forall {buffer : Buffer}, buffer.OnLine -> forall {col : Nat}, buffer.cursor.col = col ->
    forall {place rest}, Text.Along beyond buffer.currentLine col (place :: rest) ->
      move buffer = buffer.withCursor buffer.cursor.row place
  stays : forall {buffer : Buffer}, buffer.OnLine -> forall {col : Nat}, buffer.cursor.col = col ->
    Text.Along beyond buffer.currentLine col [] -> move buffer = buffer

theorem wordForward_goesAlong : GoesAlong (· < ·) wordForward where
  goes := fun onLine _ column _ _ along => wordForward_of_isLeast onLine column along.isLeast
  stays := fun onLine _ column along => wordForward_of_nowhere onLine column along.nowhere

theorem wordBackward_goesAlong : GoesAlong (· > ·) wordBackward where
  goes := fun onLine _ column _ _ along => wordBackward_of_isGreatest onLine column along.isGreatest
  stays := fun onLine _ column along => wordBackward_of_nowhere onLine column along.nowhere

/-- A motion that is repeated goes from place to place, up to the last of them. -/
theorem GoesAlong.iterate {beyond : Nat -> Nat -> Prop} [IsStrictOrder Nat beyond]
    {move : Buffer -> Buffer} (goesAlong : GoesAlong beyond move) {buffer : Buffer}
    (onLine : buffer.OnLine) {col : Nat} (column : buffer.cursor.col = col) {places : List Nat}
    (along : Text.Along beyond buffer.currentLine col places) (times : Nat) :
    move^[times] buffer =
      buffer.withCursor buffer.cursor.row ((places.take times).getLastD col : Nat) := by
  induction times generalizing buffer col places with
  | zero =>
      rw [List.take_zero, List.getLastD_nil, ← column]
      rfl
  | succ times inductionHypothesis =>
      rw [Function.iterate_succ_apply]
      cases places with
      | nil =>
          rw [goesAlong.stays onLine column along, inductionHypothesis onLine column along,
            List.take_nil, List.take_nil]
      | cons place rest =>
          rw [goesAlong.goes onLine column along, List.take_succ_cons, List.getLastD_cons]
          have arrived : (buffer.withCursor buffer.cursor.row place).OnLine := onLine
          exact inductionHypothesis arrived rfl along.tail

/-! ## Searches that are not refused -/

/-- The cursor is in a row of the text, and a search for a word behind it can start. -/
structure SeesAhead (buffer : Buffer) : Prop where
  onLine : buffer.OnLine
  nonneg : 0 ≤ buffer.cursor.col
  near : buffer.cursor.col + 1 < columnBound ∨ buffer.cursor.col ≤ buffer.currentLine.length

theorem searchable_iff_seesAhead {buffer : Buffer} (onLine : buffer.OnLine)
    (nonneg : 0 ≤ buffer.cursor.col) : buffer.searchable 1 = true ↔ buffer.SeesAhead := by
  rw [Editor.searchable_from_iff onLine 1 (by omega)]
  constructor
  · exact fun starts => ⟨onLine, nonneg, by omega⟩
  · intro sees
    have near := sees.near
    omega

/-- A place to which the cursor has gone is on its line. -/
theorem SeesAhead.wordForward {buffer : Buffer} (sees : buffer.SeesAhead) :
    buffer.wordForward.SeesAhead := by
  have motion := buffer.wordForward_wordMotion
  rw [WordMotion, anchor_of_onLine sees.onLine] at motion
  rcases motion with same | ⟨found, inside, same⟩
  · rw [same]
    exact sees
  · rw [same]
    exact ⟨sees.onLine, Int.natCast_nonneg found, Or.inr (Int.ofNat_le.mpr (Nat.le_of_lt inside))⟩

end Buffer

namespace Editor

/-! ## The keys of the two motions -/

/-- The cursor at another place of its line, and all else as it is. -/
def goneTo (editor : Editor) (place : Nat) : Editor :=
  editor.edit (·.withCursor editor.buffer.cursor.row place)

/-- What the keys of the two motions do from a column of a line: each goes to the nearest
word character on its side or stays, again and again it goes through all of them in order,
and from a word character the other one leads back. -/
structure WalksWords (editor : Editor) (col : Nat) : Prop where
  forward : forall place,
    IsLeast {place | col < place ∧ Text.WordAt editor.buffer.currentLine place} place ->
      editor.tryPress 1 .wordForward = .ok (editor.goneTo place)
  forwardStays : (forall place, col < place -> ¬ Text.WordAt editor.buffer.currentLine place) ->
    (col : Int) + 1 < columnBound ∨ col ≤ editor.buffer.currentLine.length ->
      editor.tryPress 1 .wordForward = .ok editor
  forwardRefused : columnBound ≤ (col : Int) + 1 -> editor.buffer.currentLine.length < col ->
    editor.tryPress 1 .wordForward = .error .columnOutOfReach
  backward : forall place,
    IsGreatest {place | place < col ∧ Text.WordAt editor.buffer.currentLine place} place ->
      editor.tryPress 1 .wordBackward = .ok (editor.goneTo place)
  backwardFromFront : forall place,
    IsLeast {place | Text.ClosedAt (editor.buffer.currentLine.take col) place} place ->
      editor.tryPress 1 .wordBackward = .ok (editor.goneTo place)
  backwardStays : (forall place, place < col -> ¬ Text.WordAt editor.buffer.currentLine place) ->
    editor.tryPress 1 .wordBackward = .ok editor
  ahead : Exists fun places => Text.Along (· < ·) editor.buffer.currentLine col places ∧
    ((col : Int) + 1 < columnBound ∨ col ≤ editor.buffer.currentLine.length -> forall times,
      editor.tryPressAll (List.replicate times .wordForward) =
        .ok (editor.goneTo ((places.take times).getLastD col)))
  behind : Exists fun places => Text.Along (· > ·) editor.buffer.currentLine col places ∧
    forall times, editor.tryPressAll (List.replicate times .wordBackward) =
      .ok (editor.goneTo ((places.take times).getLastD col))
  backAgain : Text.WordAt editor.buffer.currentLine col -> forall moved,
    editor.tryPress 1 .wordForward = .ok moved -> moved ≠ editor ->
      moved.tryPress 1 .wordBackward = .ok editor
  forthAgain : Text.WordAt editor.buffer.currentLine col -> forall moved,
    editor.tryPress 1 .wordBackward = .ok moved -> moved ≠ editor ->
      moved.tryPress 1 .wordForward = .ok editor

theorem edit_of_same {editor : Editor} {change : Buffer -> Buffer}
    (same : change editor.buffer = editor.buffer) : editor.edit change = editor := by
  rw [edit, same]

theorem edit_of_goneTo {editor : Editor} {change : Buffer -> Buffer} {place : Nat}
    (goes : change editor.buffer = editor.buffer.withCursor editor.buffer.cursor.row place) :
    editor.edit change = editor.goneTo place := by
  rw [goneTo, edit, edit, goes]

theorem goneTo_self {editor : Editor} {col : Nat} (column : editor.buffer.cursor.col = col) :
    editor.goneTo col = editor := by
  apply edit_of_same
  rw [← column]
  rfl

theorem tryPress_wordForward (editor : Editor) :
    editor.tryPress 1 .wordForward =
      if editor.buffer.searchable 1 then .ok (editor.edit Buffer.wordForward)
      else .error .columnOutOfReach :=
  rfl

theorem tryPress_wordForward_of_seesAhead {editor : Editor} (sees : editor.buffer.SeesAhead) :
    editor.tryPress 1 .wordForward = .ok (editor.edit Buffer.wordForward) := by
  rw [tryPress_wordForward]
  exact if_pos ((Buffer.searchable_iff_seesAhead sees.onLine sees.nonneg).mpr sees)

theorem eq_of_tryPress_wordForward {editor moved : Editor}
    (done : editor.tryPress 1 .wordForward = .ok moved) :
    moved = editor.edit Buffer.wordForward := by
  rw [tryPress_wordForward] at done
  split at done
  · cases done
    rfl
  · cases done

theorem tryPress_wordBackward (editor : Editor) :
    editor.tryPress 1 .wordBackward = .ok (editor.edit Buffer.wordBackward) :=
  rfl

theorem tryPressAll_wordForward {editor : Editor} (sees : editor.buffer.SeesAhead) (times : Nat) :
    editor.tryPressAll (List.replicate times .wordForward) =
      .ok (editor.edit Buffer.wordForward^[times]) :=
  tryPressAll_replicate Buffer.SeesAhead (fun _ => tryPress_wordForward_of_seesAhead)
    (fun _ => Buffer.SeesAhead.wordForward) sees times

theorem tryPressAll_wordBackward (editor : Editor) (times : Nat) :
    editor.tryPressAll (List.replicate times .wordBackward) =
      .ok (editor.edit Buffer.wordBackward^[times]) :=
  tryPressAll_replicate (fun _ => True) (fun editor _ => editor.tryPress_wordBackward)
    (fun _ _ => trivial) trivial times

section OnLine

variable {editor : Editor} (onLine : editor.buffer.OnLine) {col : Nat}
  (column : editor.buffer.cursor.col = col)

include onLine column

/-- A word character ahead is on the line, and so the cursor is. -/
theorem seesAhead_of_wordAt {place : Nat} (ahead : col < place)
    (word : Text.WordAt editor.buffer.currentLine place) : editor.buffer.SeesAhead := by
  have inside := word.lt_length
  exact ⟨onLine, by omega, by omega⟩

theorem tryPress_wordForward_of_isLeast {place : Nat}
    (least : IsLeast {place | col < place ∧ Text.WordAt editor.buffer.currentLine place} place) :
    editor.tryPress 1 .wordForward = .ok (editor.goneTo place) := by
  have sees := seesAhead_of_wordAt onLine column least.1.1 least.1.2
  rw [tryPress_wordForward_of_seesAhead sees,
    edit_of_goneTo (Buffer.wordForward_of_isLeast onLine column least)]

theorem tryPress_wordBackward_of_isGreatest {place : Nat}
    (greatest :
      IsGreatest {place | place < col ∧ Text.WordAt editor.buffer.currentLine place} place) :
    editor.tryPress 1 .wordBackward = .ok (editor.goneTo place) := by
  rw [tryPress_wordBackward,
    edit_of_goneTo (Buffer.wordBackward_of_isGreatest onLine column greatest)]

/-- The way back from the next word character leads to the word character before it. -/
theorem tryPress_wordBackward_of_moved (word : Text.WordAt editor.buffer.currentLine col)
    {moved : Editor} (done : editor.tryPress 1 .wordForward = .ok moved) (moves : moved ≠ editor) :
    moved.tryPress 1 .wordBackward = .ok editor := by
  rcases Text.exists_ahead editor.buffer.currentLine col with ⟨places, along⟩
  cases places with
  | nil =>
      rw [eq_of_tryPress_wordForward done] at moves
      exact absurd (edit_of_same (Buffer.wordForward_goesAlong.stays onLine column along)) moves
  | cons place rest =>
      rw [tryPress_wordForward_of_isLeast onLine column along.isLeast] at done
      cases done
      have back := Text.isGreatest_of_isLeast word along.isLeast
      have arrived : (editor.goneTo place).buffer.OnLine := onLine
      rw [tryPress_wordBackward_of_isGreatest arrived rfl back]
      exact congrArg Except.ok (goneTo_self column)

theorem tryPress_wordForward_of_moved (word : Text.WordAt editor.buffer.currentLine col)
    {moved : Editor} (done : editor.tryPress 1 .wordBackward = .ok moved) (moves : moved ≠ editor) :
    moved.tryPress 1 .wordForward = .ok editor := by
  rcases Text.exists_behind editor.buffer.currentLine col with ⟨places, along⟩
  cases places with
  | nil =>
      cases done
      exact absurd (edit_of_same (Buffer.wordBackward_goesAlong.stays onLine column along)) moves
  | cons place rest =>
      rw [tryPress_wordBackward_of_isGreatest onLine column along.isGreatest] at done
      cases done
      have forth := Text.isLeast_of_isGreatest word along.isGreatest
      have arrived : (editor.goneTo place).buffer.OnLine := onLine
      rw [tryPress_wordForward_of_isLeast arrived rfl forth]
      exact congrArg Except.ok (goneTo_self column)

end OnLine

/-- From any column of a line, and also from behind its end, the two motions by words walk
through the word characters on their sides, and undo each other from one word character
to the next.  A motion forward is only refused far behind the line, where there is no
word character to go to. -/
theorem motions_walk_words {editor : Editor} (onLine : editor.buffer.OnLine) {col : Nat}
    (column : editor.buffer.cursor.col = col) : editor.WalksWords col where
  forward := fun _ least => tryPress_wordForward_of_isLeast onLine column least
  forwardStays := by
    intro nowhere near
    have sees : editor.buffer.SeesAhead := ⟨onLine, by omega, by omega⟩
    rw [tryPress_wordForward_of_seesAhead sees,
      edit_of_same (Buffer.wordForward_of_nowhere onLine column nowhere)]
  forwardRefused := by
    intro far behind
    have blind : ¬ editor.buffer.SeesAhead := by
      intro sees
      have near := sees.near
      omega
    rw [tryPress_wordForward, if_neg]
    rw [Buffer.searchable_iff_seesAhead onLine (by omega)]
    exact blind
  backward := fun _ greatest => tryPress_wordBackward_of_isGreatest onLine column greatest
  backwardFromFront := by
    intro place least
    have greatest := Text.isLeast_closedAt_iff.mp least
    simp only [Text.wordAt_take] at greatest
    exact tryPress_wordBackward_of_isGreatest onLine column greatest
  backwardStays := by
    intro nowhere
    rw [tryPress_wordBackward, edit_of_same (Buffer.wordBackward_of_nowhere onLine column nowhere)]
  ahead := by
    rcases Text.exists_ahead editor.buffer.currentLine col with ⟨places, along⟩
    refine ⟨places, along, ?_⟩
    intro starts times
    have sees : editor.buffer.SeesAhead := ⟨onLine, by omega, by omega⟩
    rw [tryPressAll_wordForward sees,
      edit_of_goneTo (Buffer.wordForward_goesAlong.iterate onLine column along times)]
  behind := by
    rcases Text.exists_behind editor.buffer.currentLine col with ⟨places, along⟩
    refine ⟨places, along, ?_⟩
    intro times
    rw [tryPressAll_wordBackward,
      edit_of_goneTo (Buffer.wordBackward_goesAlong.iterate onLine column along times)]
  backAgain := fun word _ done moves => tryPress_wordBackward_of_moved onLine column word done moves
  forthAgain := fun word _ done moves => tryPress_wordForward_of_moved onLine column word done moves

/-- Two words with a gap between them, and an accented letter in the second, which is none
of a word.  The cursor is on the last character of the first. -/
def overGap : Editor :=
  ⟨⟨[['a', 'b', ',', ' ', 'c', '_', 'é', '1']], ⟨0, 1⟩, List.cons_ne_nil _ _⟩, none⟩

/-- The gap is passed in one step, forth and back, and three steps lead to the end. -/
theorem motions_walk_words_over_gap :
    (overGap.buffer.OnLine ∧ overGap.buffer.cursor.col = (1 : Nat)) ∧
    overGap.tryPress 1 .wordForward = .ok (overGap.goneTo 4) ∧
    (overGap.goneTo 4).tryPress 1 .wordBackward = .ok overGap ∧
    overGap.tryPress 1 .wordBackward = .ok (overGap.goneTo 0) ∧
    overGap.tryPressAll (List.replicate 5 .wordForward) = .ok (overGap.goneTo 7) := by
  have onLine : overGap.buffer.OnLine := ⟨by decide, by decide⟩
  have column : overGap.buffer.cursor.col = (1 : Nat) := rfl
  have walks := motions_walk_words onLine column
  have next : IsLeast {place | 1 < place ∧ Text.WordAt overGap.buffer.currentLine place} 4 := by
    refine ⟨⟨by decide, by decide⟩, ?_⟩
    rintro other ⟨ahead, word⟩
    by_contra nearer
    have inGap : other = 2 ∨ other = 3 := by omega
    rcases inGap with rfl | rfl
    · exact absurd word (by decide)
    · exact absurd word (by decide)
  have forth := walks.forward 4 next
  have back := walks.backAgain (by decide) _ forth (by decide)
  have first : IsGreatest {place | place < 1 ∧ Text.WordAt overGap.buffer.currentLine place} 0 :=
    ⟨⟨by decide, by decide⟩, fun _ before => Nat.le_of_lt_succ before.1⟩
  exact ⟨⟨onLine, column⟩, forth, back, walks.backward 0 first, by decide⟩

/-- Not everywhere does a motion forward stay when there is no word character ahead: far
behind the line it is refused. -/
theorem far_word_motion_refused :
    ¬ (forall (editor : Editor) (col : Nat), editor.buffer.OnLine ->
      editor.buffer.cursor.col = col ->
      (forall place, col < place -> ¬ Text.WordAt editor.buffer.currentLine place) ->
      editor.tryPress 1 .wordForward = .ok editor) := by
  intro stays
  have refused : farBehind.tryPress 1 .wordForward = .error .columnOutOfReach := by decide
  have nowhere : forall place, 9223372036854775808 < place ->
      ¬ Text.WordAt farBehind.buffer.currentLine place := by
    intro place far word
    have inside := word.lt_length
    have short : farBehind.buffer.currentLine.length = 2 := by decide
    omega
  rw [stays farBehind 9223372036854775808 ⟨by decide, by decide⟩ rfl nowhere] at refused
  cases refused

end Editor
end ModalDrill
