import Mathlib.Data.List.Basic
import ModalDrill.Manifest

namespace ModalDrill
namespace Manifest

/-!
# Manifests as tables

A manifest is written line by line: lines that belong to no table, and then the tables,
each with its header in front.  The scanner carries nothing along but whether the last
header that it saw was the one of the project table.  So it looks at the lines of the
project tables, one such table after the other, and at nothing else.
-/

/-! ## Layouts -/

/-- A line in square brackets, whatever blanks are around them. -/
def Bracketed (line : List Char) : Prop :=
  Exists fun inner => Text.trim line = '[' :: (inner ++ [']'])

theorem isHeader_iff (line : List Char) : isHeader (Text.trim line) = true ↔ Bracketed line := by
  rw [isHeader, Bool.and_eq_true, beq_iff_eq, beq_iff_eq, Bracketed]
  constructor
  · rintro ⟨first, last⟩
    rcases List.head?_eq_some_iff.mp first with ⟨rest, whole⟩
    rw [whole] at last ⊢
    rcases List.eq_nil_or_concat rest with rfl | ⟨inner, c, rfl⟩
    · exact absurd last (by decide)
    · rw [List.concat_eq_append, ← List.cons_append, List.getLast?_concat, Option.some.injEq] at last
      exact ⟨inner, by rw [List.concat_eq_append, last]⟩
  · rintro ⟨inner, whole⟩
    rw [whole]
    refine ⟨rfl, ?_⟩
    rw [← List.cons_append, List.getLast?_concat]

instance (line : List Char) : Decidable (Bracketed line) :=
  decidable_of_iff _ (isHeader_iff line)

/-- A table: its header, and the lines up to the next header. -/
structure Table where
  header : List Char
  lines : List (List Char)
  bracketed : Bracketed header
  plain : forall line, line ∈ lines -> ¬ Bracketed line

/-- The lines in front of all tables, and the tables. -/
structure Layout where
  preamble : List (List Char)
  tables : List Table
  plain : forall line, line ∈ preamble -> ¬ Bracketed line

def Table.isProject (table : Table) : Bool :=
  Text.trim table.header == projectHeader

namespace Layout

/-- All lines, in order. -/
def lines (layout : Layout) : List (List Char) :=
  layout.preamble ++ layout.tables.flatMap fun table => table.header :: table.lines

def projectTables (layout : Layout) : List Table :=
  layout.tables.filter Table.isProject

def projectLines (layout : Layout) : List (List Char) :=
  layout.projectTables.flatMap Table.lines

/-- Every list of lines is laid out. -/
theorem exists_of_lines (lines : List (List Char)) :
    Exists fun layout : Layout => layout.lines = lines := by
  induction lines with
  | nil => exact ⟨⟨[], [], List.forall_mem_nil _⟩, rfl⟩
  | cons line rest inductionHypothesis =>
      rcases inductionHypothesis with ⟨layout, rfl⟩
      by_cases bracketed : Bracketed line
      · -- A header takes the lines in front of the tables into its own table.
        exact ⟨⟨[], ⟨line, layout.preamble, bracketed, layout.plain⟩ :: layout.tables,
          List.forall_mem_nil _⟩, rfl⟩
      · exact ⟨⟨line :: layout.preamble, layout.tables,
          List.forall_mem_cons.mpr ⟨bracketed, layout.plain⟩⟩, rfl⟩

end Layout

/-! ## Written lines -/

/-- A line without a line break in it. -/
def Unbroken (line : List Char) : Prop :=
  forall c, c ∈ line -> isLineBreak c = false

theorem all_not_isLineBreak_iff (line : List Char) :
    (line.all fun c => !isLineBreak c) = true ↔ Unbroken line := by
  simp only [List.all_eq_true, Bool.not_eq_true', Unbroken]

instance (line : List Char) : Decidable (Unbroken line) :=
  decidable_of_iff _ (all_not_isLineBreak_iff line)

/-- What ends a line: one line break, or two of them that count as one. -/
inductive EndsLine : List Char -> Prop
  | single (c : Char) (breaks : isLineBreak c = true) : EndsLine [c]
  | pair : EndsLine ['\r', '\n']

/-- A text that consists of some lines.  The last one need not be ended. -/
inductive Written : List (List Char) -> List Char -> Prop
  | empty : Written [] []
  | last {line : List Char} (unbroken : Unbroken line) : Written [line] line
  | ended {line ending text : List Char} {lines : List (List Char)} (unbroken : Unbroken line)
      (ends : EndsLine ending) (rest : Written lines text) :
      Written (line :: lines) (line ++ ending ++ text)

/-- A text is written as a layout says. -/
def Layout.Writes (layout : Layout) (text : String) : Prop :=
  Written layout.lines text.toList

theorem exists_written (text : List Char) : Exists fun lines => Written lines text := by
  induction text with
  | nil => exact ⟨[], .empty⟩
  | cons c rest inductionHypothesis =>
      rcases inductionHypothesis with ⟨lines, written⟩
      cases breaks : isLineBreak c with
      | true => exact ⟨[] :: lines, .ended (List.forall_mem_nil _) (.single c breaks) written⟩
      | false =>
          cases written with
          | empty => exact ⟨[[c]], .last (List.forall_mem_singleton.mpr breaks)⟩
          | last unbroken =>
              exact ⟨[c :: rest], .last (List.forall_mem_cons.mpr ⟨breaks, unbroken⟩)⟩
          | @ended line ending text lines unbroken ends rest =>
              exact ⟨(c :: line) :: lines,
                .ended (List.forall_mem_cons.mpr ⟨breaks, unbroken⟩) ends rest⟩

/-- Every text is written as some layout says. -/
theorem Layout.exists_writes (text : String) : Exists fun layout : Layout => layout.Writes text := by
  rcases exists_written text.toList with ⟨lines, written⟩
  rcases Layout.exists_of_lines lines with ⟨layout, rfl⟩
  exact ⟨layout, written⟩

/-! ## The scanner -/

theorem versionIn_empty_line (inProject : Bool) (rest : List (List Char)) :
    versionIn inProject ([] :: rest) = versionIn inProject rest := by
  cases inProject <;> rfl

theorem versionIn_cons_congr {rest rest' : List (List Char)}
    (same : forall inProject, versionIn inProject rest = versionIn inProject rest')
    (inProject : Bool) (line : List Char) :
    versionIn inProject (line :: rest) = versionIn inProject (line :: rest') := by
  rw [versionIn, versionIn, same, same]

theorem linesOf_ended {line : List Char} (unbroken : Unbroken line) {c : Char}
    (breaks : isLineBreak c = true) (text : List Char) :
    linesOf (line ++ c :: text) = Text.trim line :: linesOf text := by
  rw [linesOf, List.splitOnP_append_cons_of_forall_mem unbroken c breaks, List.map_cons, linesOf]

/-- The scanner sees the lines that were written, but for empty ones. -/
theorem Written.versionIn_eq {lines : List (List Char)} {text : List Char}
    (written : Written lines text) (inProject : Bool) :
    versionIn inProject (linesOf text) = versionIn inProject (lines.map Text.trim) := by
  induction written generalizing inProject with
  | empty => exact versionIn_empty_line inProject []
  | last unbroken => rw [linesOf, List.splitOnP_eq_singleton unbroken]
  | @ended line ending text lines unbroken ends rest inductionHypothesis =>
      rw [List.append_assoc, List.map_cons]
      cases ends with
      | single c breaks =>
          rw [List.singleton_append, linesOf_ended unbroken breaks]
          exact versionIn_cons_congr inductionHypothesis inProject _
      | pair =>
          have nothing : Unbroken [] := List.forall_mem_nil _
          have empty : linesOf ('\n' :: text) = [] :: linesOf text :=
            linesOf_ended nothing (by decide) text
          rw [List.cons_append, List.singleton_append, linesOf_ended unbroken (by decide), empty]
          refine versionIn_cons_congr (fun inProject => ?_) inProject _
          rw [versionIn_empty_line, inductionHypothesis]

/-- Lines without a header leave the scanner in the table it is in. -/
theorem versionIn_plain {lines : List (List Char)}
    (plain : forall line, line ∈ lines -> ¬ Bracketed line) (rest : List (List Char)) :
    versionIn false (lines.map Text.trim ++ rest) = versionIn false rest ∧
      versionIn true (lines.map Text.trim ++ rest) =
        (lines.findSome? fun line => versionOf? (Text.trim line)).or (versionIn true rest) := by
  induction lines with
  | nil => exact ⟨rfl, rfl⟩
  | cons line lines inductionHypothesis =>
      rcases List.forall_mem_cons.mp plain with ⟨first, others⟩
      rcases inductionHypothesis others with ⟨outside, inside⟩
      have noHeader : ¬ isHeader (Text.trim line) = true := mt (isHeader_iff line).mp first
      rw [List.map_cons, List.cons_append, versionIn, if_neg noHeader, versionIn, if_neg noHeader,
        if_neg Bool.false_ne_true, if_pos rfl, outside, inside, List.findSome?_cons]
      refine ⟨rfl, ?_⟩
      cases versionOf? (Text.trim line) <;> rfl

/-- What the scanner finds in tables is what the lines of the project tables say. -/
theorem versionIn_tables (tables : List Table) (inProject : Bool) :
    versionIn inProject ((tables.flatMap fun table => table.header :: table.lines).map Text.trim) =
      ((tables.filter Table.isProject).flatMap Table.lines).findSome? fun line =>
        versionOf? (Text.trim line) := by
  -- Whatever table the scanner is in, the next header decides where it is.
  induction tables generalizing inProject with
  | nil => rfl
  | cons table rest inductionHypothesis =>
      have header : isHeader (Text.trim table.header) = true :=
        (isHeader_iff table.header).mpr table.bracketed
      rw [List.flatMap_cons, List.map_append, List.map_cons, List.cons_append, versionIn,
        if_pos header, List.filter_cons, ← Table.isProject]
      have scanned := versionIn_plain table.plain
        ((rest.flatMap fun table => table.header :: table.lines).map Text.trim)
      cases table.isProject with
      | false =>
          rw [scanned.1, if_neg Bool.false_ne_true]
          exact inductionHypothesis false
      | true =>
          rw [scanned.2, if_pos rfl, List.flatMap_cons, List.findSome?_append, inductionHypothesis]

/-- The first version in the project tables of a layout. -/
def Layout.version? (layout : Layout) : Option (List Char) :=
  layout.projectLines.findSome? fun line => versionOf? (Text.trim line)

theorem Layout.Writes.version?_eq {layout : Layout} {text : String} (writes : layout.Writes text) :
    Manifest.version? text = layout.version?.map String.ofList := by
  have read := Written.versionIn_eq writes false
  rw [Layout.lines, List.map_append, (versionIn_plain layout.plain _).1, versionIn_tables] at read
  rw [Manifest.version?, read]
  rfl

end Manifest
end ModalDrill
