import Mathlib.Algebra.Group.Nat.Defs
import ModalDrill.Command.Basic
import ModalDrill.Proofs.Buffer.Deletion
import ModalDrill.Proofs.Text.Stripping

namespace ModalDrill

/-!
# Counts of any size

A count may be a numeral of any length.  It is read in bounded numbers, so that a
large one comes out as the cap.  No deletion of lines can tell the cap from the
number that was typed, unless more lines than the cap are left to delete.
-/

namespace Text

/-! ## The value of a numeral -/

theorem toNat_of_isDigit {c : Char} (digit : isDigit c = true) : 48 ≤ c.toNat ∧ c.toNat ≤ 57 := by
  unfold isDigit at digit
  rw [Bool.and_eq_true, decide_eq_true_eq, decide_eq_true_eq, Char.le_def, Char.le_def] at digit
  exact digit

theorem numeralValue_append (digits : List Char) (digit : Char) :
    numeralValue (digits ++ [digit]) = 10 * numeralValue digits + digitValue digit := by
  unfold numeralValue
  rw [List.foldl_append]
  rfl

theorem numeralValue_lt_pow {digits : List Char}
    (decimal : forall c, c ∈ digits -> isDigit c = true) :
    numeralValue digits < 10 ^ digits.length := by
  induction digits using List.reverseRecOn with
  | nil => exact Nat.zero_lt_one
  | append_singleton digits digit inductionHypothesis =>
      have bound := inductionHypothesis fun c listed => decimal c (List.mem_append_left _ listed)
      have last := toNat_of_isDigit (decimal digit (List.mem_append_right _ List.mem_cons_self))
      have value : digitValue digit = digit.toNat - 48 := rfl
      rw [numeralValue_append, List.length_append, List.length_singleton, Nat.pow_succ]
      omega

/-- A numeral whose first digit is not zero is worth at least that digit's place. -/
theorem pow_le_numeralValue {first : Char} {rest : List Char} (digit : isDigit first = true)
    (nonzero : first ≠ '0') : 10 ^ rest.length ≤ numeralValue (first :: rest) := by
  induction rest using List.reverseRecOn with
  | nil =>
      have range := toNat_of_isDigit digit
      have other : first.toNat ≠ 48 := fun zero => nonzero (Char.toNat_inj.mp zero)
      have value : numeralValue [first] = 10 * 0 + (first.toNat - 48) := rfl
      rw [value, List.length_nil, Nat.pow_zero]
      omega
  | append_singleton rest last inductionHypothesis =>
      rw [← List.cons_append, numeralValue_append, List.length_append, List.length_singleton,
        Nat.pow_succ]
      omega

/-- The digits from the first one on that is not zero. -/
def significant (digits : List Char) : List Char :=
  digits.dropWhile (· == '0')

theorem numeralValue_significant (digits : List Char) :
    numeralValue (significant digits) = numeralValue digits := by
  induction digits with
  | nil => rfl
  | cons first rest inductionHypothesis =>
      by_cases zero : first = '0'
      · rw [zero]
        exact inductionHypothesis
      · rw [significant, List.dropWhile_cons_of_neg (p := (· == '0')) (mt beq_iff_eq.mp zero)]

end Text

namespace Count

/-! ## Capped counts -/

theorem capped_append (digits : List Char) (digit : Char) :
    capped (digits ++ [digit]) = min limit (10 * capped digits + Text.digitValue digit) := by
  unfold capped
  rw [List.foldl_append]
  rfl

/-- Capping at every digit comes to the same as capping in the end. -/
theorem capped_eq_min (digits : List Char) :
    capped digits = min limit (Text.numeralValue digits) := by
  induction digits using List.reverseRecOn with
  | nil => rfl
  | append_singleton digits digit inductionHypothesis =>
      rw [capped_append, Text.numeralValue_append, inductionHypothesis]
      unfold limit
      omega

/-- At most six digits are ever read: behind the leading zeros either there are no
more than six, or the count is the cap. -/
theorem capped_eq_ite {digits : List Char}
    (decimal : forall c, c ∈ digits -> Text.isDigit c = true) :
    capped digits =
      if (Text.significant digits).length ≤ 6 then Text.numeralValue (Text.significant digits)
      else limit := by
  have kept : forall c, c ∈ Text.significant digits -> Text.isDigit c = true :=
    fun c listed => decimal c (List.dropWhile_subset _ listed)
  rw [capped_eq_min, ← Text.numeralValue_significant]
  split
  · next short =>
      have below := Text.numeralValue_lt_pow kept
      have power : 10 ^ (Text.significant digits).length ≤ 10 ^ 6 :=
        Nat.pow_le_pow_right (by decide) short
      unfold limit
      omega
  · next long =>
      cases first : Text.significant digits with
      | nil =>
          rw [first] at long
          exact absurd (Nat.zero_le 6) long
      | cons head rest =>
          rw [first] at long kept
          have nonzero : head ≠ '0' := by
            rintro rfl
            have stops := List.head?_dropWhile_not (· == '0') digits
            rw [← Text.significant, first] at stops
            cases stops
          have above : 10 ^ rest.length ≤ Text.numeralValue (head :: rest) :=
            Text.pow_le_numeralValue (kept head List.mem_cons_self) nonzero
          have power : 10 ^ 6 ≤ 10 ^ rest.length :=
            Nat.pow_le_pow_right (by decide) (Nat.le_of_lt_succ (Nat.lt_of_not_le long))
          unfold limit
          omega

/-! ## Splitting a count from its word -/

theorem toNat_of_isSmallLetter {c : Char} (small : isSmallLetter c = true) :
    97 ≤ c.toNat ∧ c.toNat ≤ 122 := by
  unfold isSmallLetter at small
  rw [Bool.and_eq_true, decide_eq_true_eq, decide_eq_true_eq, Char.le_def, Char.le_def] at small
  exact small

theorem isDigit_of_isSmallLetter {c : Char} (small : isSmallLetter c = true) :
    Text.isDigit c = false := by
  apply Bool.eq_false_iff.mpr
  intro digit
  have letter := toNat_of_isSmallLetter small
  have numeral := Text.toNat_of_isDigit digit
  omega

/-- The characters of a counted command are none of the blanks. -/
theorem isBlank_of_counted {c : Char} (counted : Text.isDigit c = true ∨ isSmallLetter c = true) :
    Text.isBlank c = false := by
  have range : 48 ≤ c.toNat ∧ c.toNat ≤ 122 := by
    rcases counted with digit | small
    · have range := Text.toNat_of_isDigit digit
      omega
    · have range := toNat_of_isSmallLetter small
      omega
  simp only [Text.isBlank, Text.inRanges, Text.blankRanges, List.any_cons, List.any_nil,
    Bool.or_eq_false_iff, Bool.and_eq_false_iff, decide_eq_false_iff_not, and_true]
  omega

theorem takeWhile_isDigit_of_word {word : List Char}
    (small : forall c, c ∈ word -> isSmallLetter c = true) : word.takeWhile Text.isDigit = [] := by
  cases word with
  | nil => rfl
  | cons first rest =>
      exact List.takeWhile_cons_of_neg
        (Bool.eq_false_iff.mp (isDigit_of_isSmallLetter (small first List.mem_cons_self)))

/-- A word of small letters has no count. -/
theorem split_word {word : List Char} (small : forall c, c ∈ word -> isSmallLetter c = true) :
    split word = (1, word) := by
  unfold split
  rw [takeWhile_isDigit_of_word small]
  rfl

theorem split_counted {digits word : List Char} (some : digits ≠ []) (named : word ≠ [])
    (decimal : forall c, c ∈ digits -> Text.isDigit c = true)
    (small : forall c, c ∈ word -> isSmallLetter c = true) :
    split (digits ++ word) = (capped digits, word) := by
  have front : (digits ++ word).takeWhile Text.isDigit = digits := by
    rw [List.takeWhile_append_of_pos decimal, takeWhile_isDigit_of_word small, List.append_nil]
  have back : (digits ++ word).dropWhile Text.isDigit = word := by
    have whole := List.takeWhile_append_dropWhile (p := Text.isDigit) (l := digits ++ word)
    rw [front] at whole
    exact List.append_cancel_left whole
  have counted : (!digits.isEmpty && !word.isEmpty && word.all isSmallLetter) = true := by
    rw [List.isEmpty_eq_false_iff.mpr some, List.isEmpty_eq_false_iff.mpr named,
      List.all_eq_true.mpr small]
    rfl
  unfold split
  rw [front, back]
  exact if_pos counted

end Count

namespace Command

/-- A counted word is read as its count and its verb, whatever blanks are around it. -/
theorem parse_counted {digits word front back : List Char} (some : digits ≠ []) (named : word ≠ [])
    (decimal : forall c, c ∈ digits -> Text.isDigit c = true)
    (small : forall c, c ∈ word -> Count.isSmallLetter c = true)
    (blankFront : forall c, c ∈ front -> Text.isBlank c = true)
    (blankBack : forall c, c ∈ back -> Text.isBlank c = true) :
    parse (Text.padded front (String.ofList (digits ++ word)) back) =
      ⟨Count.capped digits, Verb.ofWord (String.ofList word)⟩ := by
  have solid : forall c, c ∈ digits ++ word -> Text.isBlank c = false := by
    intro c listed
    exact Count.isBlank_of_counted ((List.mem_append.mp listed).imp (decimal c) (small c))
  unfold parse split
  rw [Text.padded, String.toList_ofList, String.toList_ofList,
    Text.trim_append_of_blank blankFront blankBack, Text.trim_of_solid solid,
    Count.split_counted some named decimal small]

end Command

namespace Buffer

/-- No text of the drill is so long that the cap of a count can be seen. -/
theorem deleteLines_capped {buffer : Buffer} (onLine : buffer.OnLine)
    (few : buffer.height - buffer.cursor.row ≤ Count.limit) (digits : List Char) :
    buffer.deleteLines (Count.capped digits) = buffer.deleteLines (Text.numeralValue digits) := by
  have same : buffer.taken (Count.capped digits) = buffer.taken (Text.numeralValue digits) := by
    rw [Count.capped_eq_min]
    unfold taken
    omega
  rw [deleteLines_eq_holding onLine, deleteLines_eq_holding onLine, same]

end Buffer

namespace Editor

/-- A counted deletion removes as many lines as its numeral says, at least one and no
more than there are, although no more than six digits of the numeral are read. -/
theorem type_counted_deletion {editor : Editor} (onLine : editor.buffer.OnLine)
    (few : editor.buffer.height - editor.buffer.cursor.row ≤ Count.limit)
    {digits front back : List Char} (some : digits ≠ [])
    (decimal : forall c, c ∈ digits -> Text.isDigit c = true)
    (blankFront : forall c, c ∈ front -> Text.isBlank c = true)
    (blankBack : forall c, c ∈ back -> Text.isBlank c = true) :
    let typed := Text.padded front (String.ofList (digits ++ ['d', 'd'])) back
    let exact := editor.edit (·.deleteLines (Text.numeralValue digits))
    editor.tryType typed = .ok exact ∧ (Command.parse typed).text = "dd" ∧
    exact.register = editor.register ∧
    (Exists fun removed : Nat =>
      (removed : Int) =
        min (max (Text.numeralValue digits : Int) 1) (editor.buffer.height - editor.buffer.cursor.row) ∧
      exact.buffer.lines =
        if editor.buffer.remaining removed = [] then [[]] else editor.buffer.remaining removed) ∧
    (Command.parse typed).count =
      if (Text.significant digits).length ≤ 6 then Text.numeralValue (Text.significant digits)
      else Count.limit := by
  have parsed := Command.parse_counted some (by decide : ['d', 'd'] ≠ []) decimal
    (List.all_eq_true.mp rfl) blankFront blankBack
  have verb : Verb.ofWord (String.ofList ['d', 'd']) = .key .deleteLine := by decide +kernel
  rw [verb] at parsed
  intro typed exact
  refine ⟨?_, ?_, rfl, ⟨editor.buffer.taken (Text.numeralValue digits),
    Buffer.natCast_taken onLine _, ?_⟩, ?_⟩
  · have same : exact = editor.edit (·.deleteLines (Count.capped digits)) :=
      congrArg (Editor.mk · editor.register) (Buffer.deleteLines_capped onLine few digits).symm
    rw [same, tryType, parsed]
    rfl
  · rw [parsed]
    rfl
  · exact (congrArg Buffer.lines (Buffer.deleteLines_eq_holding onLine _)).trans
      (Buffer.holding_lines _ _ _)
  · rw [parsed]
    exact Count.capped_eq_ite decimal

/-- A text of three lines with the cursor on the second, and a line in the register. -/
def secondOfThree : Editor :=
  ⟨⟨[['a'], ['b'], ['c']], ⟨1, 0⟩, List.cons_ne_nil _ _⟩, some ['z']⟩

/-- Two million lines, typed with leading zeros and blanks, are more than the cap, and
the two lines that are there are deleted. -/
theorem type_counted_deletion_two_million :
    let digits := ['0', '0', '2', '0', '0', '0', '0', '0', '0']
    let typed := Text.padded [' ', '\t'] (String.ofList (digits ++ ['d', 'd'])) [' ']
    secondOfThree.buffer.OnLine ∧
    secondOfThree.buffer.height - secondOfThree.buffer.cursor.row ≤ Count.limit ∧
    (digits ≠ [] ∧ forall c, c ∈ digits -> Text.isDigit c = true) ∧
    Text.numeralValue digits = 2000000 ∧ (Command.parse typed).count = 999999 ∧
    secondOfThree.tryType typed = .ok (secondOfThree.edit (·.deleteLines 2000000)) ∧
    secondOfThree.edit (·.deleteLines 2000000) =
      ⟨⟨[['a']], ⟨0, 0⟩, List.cons_ne_nil _ _⟩, some ['z']⟩ := by
  intro digits typed
  have onLine : secondOfThree.buffer.OnLine := ⟨by decide, by decide⟩
  have few : secondOfThree.buffer.height - secondOfThree.buffer.cursor.row ≤ Count.limit := by
    decide
  have decimal : forall c, c ∈ digits -> Text.isDigit c = true := List.all_eq_true.mp rfl
  have deleted := type_counted_deletion onLine few (List.cons_ne_nil _ _) decimal
    (List.all_eq_true.mp (rfl : [' ', '\t'].all Text.isBlank = true))
    (List.all_eq_true.mp (rfl : [' '].all Text.isBlank = true))
  exact ⟨onLine, few, ⟨List.cons_ne_nil _ _, decimal⟩, by decide, deleted.2.2.2.2, deleted.1, by decide⟩

end Editor
end ModalDrill
