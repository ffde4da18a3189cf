import Mathlib.Data.List.Induction
import ModalDrill.Session.Round

namespace ModalDrill

/-!
# The history of a round

The outcomes of the inputs to a round, in order, are its history.  What the
counters of a session mean is said by functions of the history alone; how they
go on with one more outcome is what an induction over a round needs.
-/

namespace Outcome

def isCorrect : Outcome -> Bool
  | correct .. => true
  | _ => false

def isHint : Outcome -> Bool
  | hint _ => true
  | _ => false

def isTimeout : Outcome -> Bool
  | timeout _ => true
  | _ => false

/-- Did a hint come after the last correct answer, or after the start if there
is none? -/
def hintPending (outcomes : List Outcome) : Bool :=
  (outcomes.reverse.takeWhile fun outcome => !outcome.isCorrect).any isHint

/-- Is there a correct answer at a place of a history, without a hint between
it and the correct answer before it? -/
def unaidedAt (outcomes : List Outcome) (place : Nat) : Bool :=
  outcomes[place]?.any isCorrect && !hintPending (outcomes.take place)

/-- The number of correct answers that were given without a hint. -/
def unaided (outcomes : List Outcome) : Nat :=
  (List.range outcomes.length).countP (unaidedAt outcomes)

theorem hintPending_append (outcomes : List Outcome) (outcome : Outcome) :
    hintPending (outcomes ++ [outcome]) =
      (!outcome.isCorrect && (outcome.isHint || hintPending outcomes)) := by
  unfold hintPending
  rw [List.reverse_append, List.reverse_singleton, List.singleton_append, List.takeWhile_cons]
  cases outcome.isCorrect with
  | true => rfl
  | false => exact List.any_cons

theorem unaidedAt_append_of_lt {outcomes : List Outcome} {place : Nat}
    (earlier : place < outcomes.length) (outcome : Outcome) :
    unaidedAt (outcomes ++ [outcome]) place = unaidedAt outcomes place := by
  unfold unaidedAt
  rw [List.getElem?_append_left earlier, List.take_append_of_le_length (Nat.le_of_lt earlier)]

theorem unaidedAt_append_length (outcomes : List Outcome) (outcome : Outcome) :
    unaidedAt (outcomes ++ [outcome]) outcomes.length =
      (outcome.isCorrect && !hintPending outcomes) := by
  unfold unaidedAt
  rw [List.getElem?_concat_length, List.take_left]
  rfl

theorem unaided_append (outcomes : List Outcome) (outcome : Outcome) :
    unaided (outcomes ++ [outcome]) =
      unaided outcomes + (outcome.isCorrect && !hintPending outcomes).toNat := by
  have earlier : (List.range outcomes.length).countP (unaidedAt (outcomes ++ [outcome])) =
      unaided outcomes := by
    apply List.countP_congr
    intro place listed
    rw [unaidedAt_append_of_lt (List.mem_range.mp listed)]
  have last : [outcomes.length].countP (unaidedAt (outcomes ++ [outcome])) =
      (outcome.isCorrect && !hintPending outcomes).toNat := by
    rw [List.countP_singleton, unaidedAt_append_length]
    cases outcome.isCorrect && !hintPending outcomes <;> rfl
  rw [unaided, List.length_append, List.length_singleton, List.range_succ, List.countP_append,
    earlier, last]

end Outcome

namespace Round

/-- The verdict in an answer, if there is one. -/
def verdict? : Except Failure (Option Verdict) -> Option Verdict
  | .ok (some verdict) => some verdict
  | _ => none

theorem verdict?_submit (round : Round) (input : String) :
    verdict? (round.answer (.submit input)) =
      (round.session.submit round.register round.clock input).result.toOption := by
  dsimp only [answer]
  cases (round.session.submit round.register round.clock input).result <;> rfl

theorem verdict?_wait (round : Round) (seconds : Seconds) :
    verdict? (round.answer (.wait seconds)) = none := by
  dsimp only [answer]
  split <;> rfl

/-- The outcomes on the way through a list of events. -/
def outcomes (round : Round) (events : List Event) : List Outcome :=
  (round.trace events).filterMap fun step => (verdict? step.1).map Verdict.outcome

theorem run_append (round : Round) (events later : List Event) :
    round.run (events ++ later) = (round.run events).run later :=
  List.foldl_append

theorem trace_append (round : Round) (events later : List Event) :
    round.trace (events ++ later) = round.trace events ++ (round.run events).trace later := by
  induction events generalizing round with
  | nil => rfl
  | cons event rest inductionHypothesis =>
      exact congrArg (List.cons _) (inductionHypothesis (round.after event))

theorem outcomes_append (round : Round) (events later : List Event) :
    round.outcomes (events ++ later) =
      round.outcomes events ++ (round.run events).outcomes later := by
  unfold outcomes
  rw [trace_append, List.filterMap_append]

theorem outcomes_singleton (round : Round) (event : Event) :
    round.outcomes [event] = ((verdict? (round.answer event)).map Verdict.outcome).toList := by
  cases answer : (verdict? (round.answer event)).map Verdict.outcome <;>
    simp only [outcomes, trace, answer, List.filterMap_cons, List.filterMap_nil, Option.toList]

end Round
end ModalDrill
