import Mathlib.Order.Bounds.Basic
import ModalDrill.Proofs.Text.Cutting

namespace ModalDrill
namespace Text

/-!
# Places of word characters

A search forward finds the first place from a start on that holds a word character, and
a search backward the last one of a text.  The last one is also the only one behind which
there are nothing but separators, so that it makes no difference whether it is looked for
from the back or, with a look at what follows, from the front.

The places beyond a start, in one direction or the other, are listed with the nearest
first.  From the nearest one on, the places that are left are those beyond it.
-/

/-- A text has a word character at a place. -/
def WordAt (text : List Char) (place : Nat) : Prop :=
  Exists fun c => text[place]? = some c ∧ isWordChar c = true

instance (text : List Char) (place : Nat) : Decidable (WordAt text place) :=
  decidable_of_iff (text[place]?.any isWordChar = true) (Option.any_eq_true _ _)

/-! ## Word characters of a text and of its parts -/

theorem WordAt.lt_length {text : List Char} {place : Nat} (word : WordAt text place) :
    place < text.length := by
  rcases word with ⟨c, read, _⟩
  exact (List.getElem?_eq_some_iff.mp read).1

theorem wordAt_getElem_iff {text : List Char} {place : Nat} (inside : place < text.length) :
    WordAt text place ↔ isWordChar text[place] = true := by
  simp only [WordAt, List.getElem?_eq_getElem inside, Option.some.injEq, exists_eq_left']

theorem wordAt_cons_zero (c : Char) (rest : List Char) :
    WordAt (c :: rest) 0 ↔ isWordChar c = true :=
  wordAt_getElem_iff (Nat.succ_pos rest.length)

theorem wordAt_cons_succ (c : Char) (rest : List Char) (place : Nat) :
    WordAt (c :: rest) (place + 1) ↔ WordAt rest place := by
  simp only [WordAt, List.getElem?_cons_succ]

theorem wordAt_drop (text : List Char) (start place : Nat) :
    WordAt (text.drop start) place ↔ WordAt text (start + place) := by
  simp only [WordAt, List.getElem?_drop]

theorem wordAt_take (text : List Char) (stop place : Nat) :
    WordAt (text.take stop) place ↔ place < stop ∧ WordAt text place := by
  simp only [WordAt, List.getElem?_take]
  split
  · next before => simp only [before, true_and]
  · next behind => simp only [behind, false_and, reduceCtorEq, exists_false]

/-! ## Searching forward -/

theorem isLeast_of_nextWordChar {text : List Char} {start place : Nat}
    (found : nextWordChar text start = some place) :
    IsLeast {place | start ≤ place ∧ WordAt text place} place := by
  rcases Option.map_eq_some_iff.mp found with ⟨offset, first, rfl⟩
  rcases List.findIdx?_eq_some_iff_getElem.mp first with ⟨inside, word, before⟩
  constructor
  · refine ⟨Nat.le_add_right start offset, ?_⟩
    rw [← wordAt_drop, wordAt_getElem_iff inside]
    exact word
  · rintro other ⟨ahead, wordThere⟩
    by_contra nearer
    have skipped := before (other - start) (by omega)
    rw [← wordAt_getElem_iff (by omega), wordAt_drop, Nat.add_sub_cancel' ahead] at skipped
    exact skipped wordThere

theorem nextWordChar_eq_none_iff {text : List Char} {start : Nat} :
    nextWordChar text start = none ↔ forall place, start ≤ place -> ¬ WordAt text place := by
  rw [nextWordChar, Option.map_eq_none_iff, List.findIdx?_eq_none_iff]
  constructor
  · rintro separators place ahead ⟨c, read, word⟩
    have listed : c ∈ text.drop start := by
      apply List.mem_of_getElem? (i := place - start)
      rw [List.getElem?_drop, Nat.add_sub_cancel' ahead, read]
    rw [separators c listed] at word
    cases word
  · intro nowhere c listed
    rcases List.getElem?_of_mem listed with ⟨offset, read⟩
    apply Bool.eq_false_iff.mpr
    intro word
    apply nowhere (start + offset) (Nat.le_add_right start offset)
    rw [← wordAt_drop]
    exact ⟨c, read, word⟩

theorem nextWordChar_eq_some_iff {text : List Char} {start place : Nat} :
    nextWordChar text start = some place ↔
      IsLeast {place | start ≤ place ∧ WordAt text place} place := by
  constructor
  · exact isLeast_of_nextWordChar
  · intro least
    cases search : nextWordChar text start with
    | none => exact absurd least.1.2 (nextWordChar_eq_none_iff.mp search place least.1.1)
    | some found => rw [(isLeast_of_nextWordChar search).unique least]

/-! ## Searching backward -/

theorem lastWordChar_eq_none_iff {text : List Char} :
    lastWordChar text = none ↔ forall place, ¬ WordAt text place := by
  induction text with
  | nil =>
      refine iff_of_true rfl ?_
      rintro place ⟨c, read, _⟩
      cases read
  | cons c rest inductionHypothesis =>
      constructor
      · intro nothing place
        cases later : lastWordChar rest with
        | some found => simp only [lastWordChar, later, reduceCtorEq] at nothing
        | none =>
            cases place with
            | zero =>
                rw [wordAt_cons_zero]
                intro word
                simp only [lastWordChar, later, word, if_true, reduceCtorEq] at nothing
            | succ place =>
                rw [wordAt_cons_succ]
                exact inductionHypothesis.mp later place
      · intro nowhere
        have later : lastWordChar rest = none := by
          apply inductionHypothesis.mpr
          intro place
          rw [← wordAt_cons_succ c]
          exact nowhere (place + 1)
        have separator : ¬ isWordChar c = true := by
          rw [← wordAt_cons_zero c rest]
          exact nowhere 0
        simp only [lastWordChar, later, if_neg separator]

theorem isGreatest_of_lastWordChar {text : List Char} {place : Nat}
    (found : lastWordChar text = some place) : IsGreatest {place | WordAt text place} place := by
  induction text generalizing place with
  | nil => cases found
  | cons c rest inductionHypothesis =>
      cases later : lastWordChar rest with
      | some position =>
          simp only [lastWordChar, later, Option.some.injEq] at found
          have greatest := inductionHypothesis later
          rw [← found]
          constructor
          · exact (wordAt_cons_succ c rest position).mpr greatest.1
          · intro other word
            cases other with
            | zero => exact Nat.zero_le _
            | succ other =>
                have later := greatest.2 ((wordAt_cons_succ c rest other).mp word)
                exact Nat.succ_le_succ later
      | none =>
          simp only [lastWordChar, later, Option.ite_none_right_eq_some, Option.some.injEq] at found
          rcases found with ⟨word, rfl⟩
          constructor
          · exact (wordAt_cons_zero c rest).mpr word
          · intro other wordThere
            cases other with
            | zero => exact Nat.le_refl 0
            | succ other =>
                have nowhere := lastWordChar_eq_none_iff.mp later other
                exact absurd ((wordAt_cons_succ c rest other).mp wordThere) nowhere

theorem lastWordChar_eq_some_iff {text : List Char} {place : Nat} :
    lastWordChar text = some place ↔ IsGreatest {place | WordAt text place} place := by
  constructor
  · exact isGreatest_of_lastWordChar
  · intro greatest
    cases search : lastWordChar text with
    | none => exact absurd greatest.1 (lastWordChar_eq_none_iff.mp search place)
    | some found => rw [(isGreatest_of_lastWordChar search).unique greatest]

/-- Only separators follow a word character, up to the end of the text or to a newline
that ends it. -/
structure ClosedAt (text : List Char) (place : Nat) : Prop where
  word : WordAt text place
  separators : Exists fun stop => place < stop ∧
    (stop = text.length ∨ text[stop]? = some '\n' ∧ stop + 1 = text.length) ∧
    forall between, place < between -> between < stop -> ¬ WordAt text between

/-- The newline at the end is a separator like the others. -/
theorem closedAt_iff {text : List Char} {place : Nat} :
    ClosedAt text place ↔ IsGreatest {place | WordAt text place} place := by
  constructor
  · intro closed
    rcases closed.separators with ⟨stop, ahead, ends, separators⟩
    refine ⟨closed.word, ?_⟩
    intro other word
    by_contra behind
    have inside := WordAt.lt_length word
    have stops : ¬ other < stop := fun before =>
      separators other (Nat.lt_of_not_le behind) before word
    rcases ends with whole | ⟨newline, last⟩
    · omega
    · have same : other = stop := by omega
      rcases word with ⟨c, read, wordChar⟩
      rw [same, newline, Option.some.injEq] at read
      rw [← read] at wordChar
      cases wordChar
  · intro greatest
    refine ⟨greatest.1, text.length, WordAt.lt_length greatest.1, Or.inl rfl, ?_⟩
    intro between ahead _ word
    exact Nat.not_le_of_lt ahead (greatest.2 word)

/-- There is at most one place behind which only separators follow, and so the first such
place is the last one of a word character. -/
theorem isLeast_closedAt_iff {text : List Char} {place : Nat} :
    IsLeast {place | ClosedAt text place} place ↔ IsGreatest {place | WordAt text place} place := by
  constructor
  · exact fun least => closedAt_iff.mp least.1
  · intro greatest
    refine ⟨closedAt_iff.mpr greatest, ?_⟩
    intro other closed
    exact Nat.le_of_eq (greatest.unique (closedAt_iff.mp closed))

/-! ## Places in order -/

/-- All places of word characters beyond a start, in the order in which a motion in this
direction comes to them. -/
structure Along (beyond : Nat -> Nat -> Prop) (text : List Char) (start : Nat)
    (places : List Nat) : Prop where
  ordered : places.Pairwise beyond
  mem_iff : forall place, place ∈ places ↔ beyond start place ∧ WordAt text place

/-- All places of word characters in a text. -/
def wordPlaces (text : List Char) : List Nat :=
  (List.range text.length).filter fun place => decide (WordAt text place)

theorem mem_wordPlaces {text : List Char} {place : Nat} :
    place ∈ wordPlaces text ↔ WordAt text place := by
  rw [wordPlaces, List.mem_filter, List.mem_range, decide_eq_true_eq]
  exact and_iff_right_of_imp WordAt.lt_length

theorem wordPlaces_pairwise (text : List Char) : (wordPlaces text).Pairwise (· < ·) :=
  List.Pairwise.filter _ List.pairwise_lt_range

theorem exists_ahead (text : List Char) (start : Nat) :
    Exists fun places => Along (· < ·) text start places := by
  refine ⟨(wordPlaces text).filter fun place => decide (start < place), ?_, ?_⟩
  · exact List.Pairwise.filter _ (wordPlaces_pairwise text)
  · intro place
    rw [List.mem_filter, mem_wordPlaces, decide_eq_true_eq]
    exact and_comm

theorem exists_behind (text : List Char) (start : Nat) :
    Exists fun places => Along (· > ·) text start places := by
  refine ⟨((wordPlaces text).filter fun place => decide (place < start)).reverse, ?_, ?_⟩
  · exact List.pairwise_reverse.mpr (List.Pairwise.filter _ (wordPlaces_pairwise text))
  · intro place
    rw [List.mem_reverse, List.mem_filter, mem_wordPlaces, decide_eq_true_eq]
    exact and_comm

namespace Along

variable {beyond : Nat -> Nat -> Prop} {text : List Char} {start place : Nat} {rest : List Nat}

theorem head (along : Along beyond text start (place :: rest)) :
    beyond start place ∧ WordAt text place :=
  (along.mem_iff place).mp List.mem_cons_self

/-- Any other place is beyond the nearest one. -/
theorem nearest (along : Along beyond text start (place :: rest)) {other : Nat}
    (ahead : beyond start other) (word : WordAt text other) :
    other = place ∨ beyond place other := by
  rcases List.mem_cons.mp ((along.mem_iff other).mpr ⟨ahead, word⟩) with same | later
  · exact Or.inl same
  · exact Or.inr (List.rel_of_pairwise_cons along.ordered later)

/-- The places behind the nearest one are those beyond it. -/
theorem tail [IsStrictOrder Nat beyond] (along : Along beyond text start (place :: rest)) :
    Along beyond text place rest where
  ordered := along.ordered.of_cons
  mem_iff := by
    intro other
    constructor
    · intro later
      have word := ((along.mem_iff other).mp (List.mem_cons_of_mem place later)).2
      exact ⟨List.rel_of_pairwise_cons along.ordered later, word⟩
    · rintro ⟨further, word⟩
      have ahead := IsTrans.trans _ _ _ along.head.1 further
      rcases List.mem_cons.mp ((along.mem_iff other).mpr ⟨ahead, word⟩) with same | later
      · rw [same] at further
        exact absurd further (irrefl place)
      · exact later

theorem nowhere (along : Along beyond text start []) (other : Nat) (ahead : beyond start other) :
    ¬ WordAt text other :=
  fun word => List.not_mem_nil ((along.mem_iff other).mpr ⟨ahead, word⟩)

end Along

theorem Along.isLeast {text : List Char} {start place : Nat} {rest : List Nat}
    (along : Along (· < ·) text start (place :: rest)) :
    IsLeast {place | start < place ∧ WordAt text place} place := by
  refine ⟨along.head, ?_⟩
  rintro other ⟨ahead, word⟩
  rcases along.nearest ahead word with same | later
  · exact Nat.le_of_eq same.symm
  · exact Nat.le_of_lt later

theorem Along.isGreatest {text : List Char} {start place : Nat} {rest : List Nat}
    (along : Along (· > ·) text start (place :: rest)) :
    IsGreatest {place | place < start ∧ WordAt text place} place := by
  refine ⟨along.head, ?_⟩
  rintro other ⟨ahead, word⟩
  rcases along.nearest ahead word with same | later
  · exact Nat.le_of_eq same
  · exact Nat.le_of_lt later

/-! ## Neighbouring places -/

/-- From the next place of a word character, a word character is the last one before it. -/
theorem isGreatest_of_isLeast {text : List Char} {start place : Nat} (word : WordAt text start)
    (least : IsLeast {place | start < place ∧ WordAt text place} place) :
    IsGreatest {place' | place' < place ∧ WordAt text place'} start := by
  refine ⟨⟨least.1.1, word⟩, ?_⟩
  rintro other ⟨before, wordThere⟩
  by_contra behind
  exact Nat.not_le_of_lt before (least.2 ⟨Nat.lt_of_not_le behind, wordThere⟩)

theorem isLeast_of_isGreatest {text : List Char} {start place : Nat} (word : WordAt text start)
    (greatest : IsGreatest {place | place < start ∧ WordAt text place} place) :
    IsLeast {place' | place < place' ∧ WordAt text place'} start := by
  refine ⟨⟨greatest.1.1, word⟩, ?_⟩
  rintro other ⟨behind, wordThere⟩
  by_contra before
  exact Nat.not_le_of_lt behind (greatest.2 ⟨Nat.lt_of_not_le before, wordThere⟩)

end Text
end ModalDrill
