import ModalDrill.Bank.Catalogue
import ModalDrill.Bank.Sampling
import ModalDrill.Proofs.Text.Stripping

namespace ModalDrill

/-!
# What the checks of a catalogue file ensure

A bank that has been read has a question, and every question of it has an
answer.  The answers are stripped and none of them is blank.  Draws from such a
bank are never empty as long as a question is asked for.
-/

structure Question.Sound (question : Question) : Prop where
  answered : question.expected ≠ []
  stripped : forall answer, answer ∈ question.expected -> Text.strip answer = answer
  filled : forall answer, answer ∈ question.expected -> answer ≠ ""

structure QuestionBank.Sound (bank : QuestionBank) : Prop where
  filled : bank.questions ≠ []
  questions : forall question, question ∈ bank.questions -> question.Sound

theorem ok_of_bind {α β : Type} {first : Except CatalogueError α}
    {next : α -> Except CatalogueError β} {result : β}
    (bound : first >>= next = .ok result) :
    Exists fun value => first = .ok value ∧ next value = .ok result := by
  cases first with
  | error cause => cases bound
  | ok value => exact ⟨value, rfl, bound⟩

theorem mem_answersOf {items : List Json} {answer : String} (listed : answer ∈ answersOf items) :
    Text.strip answer = answer ∧ answer ≠ "" := by
  rcases List.mem_filter.mp listed with ⟨shown, filled⟩
  rcases List.mem_map.mp shown with ⟨item, _, rfl⟩
  exact ⟨Text.strip_strip _, bne_iff_ne.mp filled⟩

namespace Question

theorem sound_of_ofMembers {members : List (CodeText × Json)} {question : Question}
    (read : ofMembers members = .ok question) : question.Sound := by
  unfold ofMembers at read
  dsimp only at read
  split at read
  · cases read
  · rcases ok_of_bind read with ⟨items, _, read⟩
    split at read
    · cases read
    · next answered =>
        rw [← Except.ok.inj read]
        exact ⟨answered, fun answer listed => (mem_answersOf listed).1,
          fun answer listed => (mem_answersOf listed).2⟩

theorem sound_of_ofJson {item : Json} {question : Question} (read : ofJson item = .ok question) :
    question.Sound := by
  cases item with
  | object members =>
      rw [ofJson] at read
      exact sound_of_ofMembers read
  | _ => cases read

/-- What holds of every question that is read from an item holds of all that are read
from a list. -/
theorem forall_of_ofItems {property : Question -> Prop}
    (each : forall item question, ofJson item = .ok question -> property question)
    {items : List Json} {questions : List Question} (read : ofItems items = .ok questions) :
    forall question, question ∈ questions -> property question := by
  induction items generalizing questions with
  | nil =>
      cases read
      rintro question ⟨⟩
  | cons item rest inductionHypothesis =>
      rcases ok_of_bind read with ⟨first, readFirst, read⟩
      rcases ok_of_bind read with ⟨others, readOthers, read⟩
      cases read
      exact List.forall_mem_cons.mpr ⟨each item first readFirst, inductionHypothesis readOthers⟩

theorem sound_of_ofItems {items : List Json} {questions : List Question}
    (read : ofItems items = .ok questions) :
    forall question, question ∈ questions -> question.Sound :=
  forall_of_ofItems (fun _ _ => sound_of_ofJson) read

end Question

namespace QuestionBank

/-- What is known of a bank that was read from the members of an object. -/
structure Checked (bank : QuestionBank) : Prop where
  read : Exists fun items => Question.ofItems items = .ok bank.questions
  filled : bank.questions ≠ []
  unrepeated : firstRepeat [] (bank.questions.map Question.id) = none
  worded : bank.sampleText ≠ []

theorem checked_of_ofMembers {members : List (CodeText × Json)} {bank : QuestionBank}
    (read : ofMembers members = .ok bank) : bank.Checked := by
  unfold ofMembers at read
  rcases ok_of_bind read with ⟨items, _, read⟩
  rcases ok_of_bind read with ⟨questions, readQuestions, read⟩
  dsimp only at read
  split at read
  · cases read
  · next filled =>
      split at read
      · cases read
      · next unrepeated =>
          rcases ok_of_bind read with ⟨lines, _, read⟩
          cases read
          refine ⟨⟨items, readQuestions⟩, filled, Option.eq_none_iff_forall_ne_some.mpr unrepeated, ?_⟩
          dsimp only
          split
          · exact List.cons_ne_nil _ _
          · assumption

theorem sound_of_ofMembers {members : List (CodeText × Json)} {bank : QuestionBank}
    (read : ofMembers members = .ok bank) : bank.Sound := by
  have checked := checked_of_ofMembers read
  rcases checked.read with ⟨items, readQuestions⟩
  exact ⟨checked.filled, Question.sound_of_ofItems readQuestions⟩

theorem sound_of_ofJson {root : Json} {bank : QuestionBank} (read : ofJson root = .ok bank) :
    bank.Sound := by
  cases root with
  | object members =>
      rw [ofJson] at read
      exact sound_of_ofMembers read
  | _ => cases read

end QuestionBank

/-! ## Draws -/

theorem mem_of_mem_draw {sampler : Sampler} {pool : List Question} {count : Option Int}
    {question : Question} (drawn : question ∈ draw sampler pool count) : question ∈ pool := by
  rcases List.mem_map.mp drawn with ⟨place, _, rfl⟩
  exact List.get_mem _ _

theorem drawCount_le (count : Option Int) (size : Nat) : drawCount count size ≤ size := by
  unfold drawCount
  cases count with
  | none => exact Nat.le_refl size
  | some wanted =>
      dsimp only
      omega

/-- Neighbouring positions are different as long as they do not go around. -/
theorem Sampler.rotation_fair (start : Int) : (rotation start).Fair := by
  intro size count within
  unfold rotation
  by_cases nonempty : 0 < size
  · rw [dif_pos nonempty]
    refine ⟨by rw [List.length_map, List.length_range], ?_⟩
    refine List.pairwise_map.mpr (List.nodup_range.imp_of_mem ?_)
    intro first second firstIn secondIn different same
    have firstBelow := List.mem_range.mp firstIn
    have secondBelow := List.mem_range.mp secondIn
    have turned_eq : (start + first) % size = (start + second) % size := by
      have places := congrArg Fin.val same
      have firstNonneg := Int.emod_nonneg (start + first) (b := size) (by omega)
      have secondNonneg := Int.emod_nonneg (start + second) (b := size) (by omega)
      unfold turned at places
      dsimp only at places
      omega
    have divides : (size : Int) ∣ (first : Int) - second := by
      rw [← Int.add_sub_add_left start first second]
      exact Int.dvd_of_emod_eq_zero (Int.emod_eq_emod_iff_emod_sub_eq_zero.mp turned_eq)
    have equal := Int.eq_zero_of_dvd_of_natAbs_lt_natAbs divides (by omega)
    omega
  · have empty : count = 0 := by omega
    rw [dif_neg nonempty, empty]
    exact ⟨rfl, List.nodup_nil⟩

end ModalDrill
