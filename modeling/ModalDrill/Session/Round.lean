import ModalDrill.Session.Basic

namespace ModalDrill

/-!
# Rounds

A round is a session together with the register and the clock.  It goes on by
events: inputs, moves of the clock in either direction, an early end, and a
register that is overwritten from outside.
-/

/-- A session with what it depends on. -/
structure Round where
  session : Session
  register : Option Line
  clock : Seconds
deriving DecidableEq

/-- What can happen in a round. -/
inductive Round.Event
  | submit (input : String)
  | wait (seconds : Seconds)
  | finish
  | setRegister (line : Option Line)
deriving DecidableEq

/-- Why an event is refused. -/
inductive Round.Failure
  | submit (cause : SubmitError)
  | clockOutOfRange
deriving DecidableEq, Repr

namespace Round

/-- A round that starts now, with an empty register. -/
def start (user : CodeText) (questions : List Question) (sampleText : List Line)
    (duration now : Seconds) : Except StartError Round :=
  (Session.start user questions sampleText duration now).map fun session =>
    ⟨session, none, now⟩

/-- The round after an event.  A move that leaves the range of the clock is not
made. -/
def after (round : Round) : Event -> Round
  | .submit input =>
      let submission := round.session.submit round.register round.clock input
      { round with session := submission.session, register := submission.register }
  | .wait seconds => { round with clock := (round.clock.plus? seconds).getD round.clock }
  | .finish => { round with session := round.session.finish }
  | .setRegister line => { round with register := line }

/-- The answer to an event; of those that are carried out only inputs have one. -/
def answer (round : Round) : Event -> Except Failure (Option Verdict)
  | .submit input =>
      match (round.session.submit round.register round.clock input).result with
      | .error cause => .error (.submit cause)
      | .ok verdict => .ok (some verdict)
  | .wait seconds =>
      if (round.clock.plus? seconds).isSome then .ok none else .error .clockOutOfRange
  | _ => .ok none

/-- The round after a list of events. -/
def run (round : Round) (events : List Event) : Round :=
  events.foldl after round

/-- Every answer on the way, with the round after it. -/
def trace (round : Round) : List Event -> List (Except Failure (Option Verdict) × Round)
  | [] => []
  | event :: rest => (round.answer event, round.after event) :: (round.after event).trace rest

end Round
end ModalDrill
