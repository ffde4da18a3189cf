import ModalDrill.Service.Basic

namespace ModalDrill

/-!
# A hall of sessions

Many sessions of one service may be under way at a time.  A hall keeps them,
numbered from zero in the order in which they started, beside the service and
the clock that they share.  The clock shows binary floating point numbers.  What
the hall does not decide itself comes in as operations too: moves of the clock,
a register that is overwritten from outside, and a new shuffle, so that every
start may draw in an order of its own.
-/

structure Hall where
  service : Service
  sessions : List Session
  clock : Binary64

/-- What can be done in a hall.  A session that is left ends without a record;
one that is finished is recorded. -/
inductive Hall.Operation
  | start (username : Json) (count : Option Int)
  | submit (number : Nat) (input : String)
  | look (number : Nat)
  | leave (number : Nat)
  | finish (number : Nat)
  | wait (seconds : Seconds)
  | setRegister (line : Option Line)
  | shuffle (sampler : Sampler)
  | record (username score : Json)
  | leaderboard (limit : Json)
  | stats (username : Json)

/-- Why an operation fails. -/
inductive Hall.Failure
  | start (cause : StartError)
  | submit (cause : SubmitError)
  | store (cause : StoreError)
  | noSuchSession
  | clockOutOfRange
deriving DecidableEq, Repr

/-- What an operation answers. -/
inductive Hall.Answer
  | started (number : Nat) (session : Session)
  | submitted (verdict : Verdict) (session : Session)
  | session (session : Session)
  | finished (stats : PlayerStats)
  | done
  | recorded (stats : PlayerStats)
  | leaderboard (players : List PlayerStats)
  | stats (stats : Option PlayerStats)

namespace Hall

/-- A hall without sessions, at the start of its clock. -/
def new (service : Service) : Hall :=
  ⟨service, [], Binary64.zero⟩

/-- Put a changed session back in its place. -/
def withSession (hall : Hall) (number : Nat) (session : Session) : Hall :=
  { hall with sessions := hall.sessions.set number session }

/-- Submit an input to one session; the register that comes of it is the
register of all. -/
def submit (hall : Hall) (number : Nat) (session : Session) (input : String) :
    Hall × Except Failure Answer :=
  let submission := session.submit hall.service.register (.real hall.clock) input
  let hall := { hall with service := { hall.service with register := submission.register } }
  (hall.withSession number submission.session,
    match submission.result with
    | .error cause => .error (.submit cause)
    | .ok verdict => .ok (.submitted verdict submission.session))

/-- Start a session for a player whose name is a text. -/
def start (hall : Hall) (username : Json) (count : Option Int) : Hall × Except Failure Answer :=
  match username with
  | .text name =>
      match hall.service.start (.real hall.clock) name count with
      | (service, .error cause) => ({ hall with service := service }, .error (.start cause))
      | (service, .ok session) =>
          ({ hall with service := service, sessions := hall.sessions ++ [session] },
            .ok (.started hall.sessions.length session))
  | _ => (hall, .error (.store .usernameNotText))

/-- Carry out one operation. -/
def perform (hall : Hall) : Operation -> Hall × Except Failure Answer
  | .start username count => hall.start username count
  | .submit number input =>
      match hall.sessions[number]? with
      | none => (hall, .error .noSuchSession)
      | some session => hall.submit number session input
  | .look number =>
      match hall.sessions[number]? with
      | none => (hall, .error .noSuchSession)
      | some session => (hall, .ok (.session session))
  | .leave number =>
      match hall.sessions[number]? with
      | none => (hall, .error .noSuchSession)
      | some session => (hall.withSession number session.finish, .ok .done)
  | .finish number =>
      match hall.sessions[number]? with
      | none => (hall, .error .noSuchSession)
      | some session =>
          let (service, session, answer) := hall.service.finish session
          ({ hall with service := service }.withSession number session,
            match answer with
            | .error cause => .error (.store cause)
            | .ok stats => .ok (.finished stats))
  | .wait seconds =>
      match seconds.toBinary64? with
      | none => (hall, .error .clockOutOfRange)
      | some passed => ({ hall with clock := hall.clock.add passed }, .ok .done)
  | .setRegister line =>
      ({ hall with service := { hall.service with register := line } }, .ok .done)
  | .shuffle sampler =>
      ({ hall with service := { hall.service with sampler := sampler } }, .ok .done)
  | .record username score =>
      match hall.service.store.record username score with
      | (store, answer) =>
          ({ hall with service := { hall.service with store := store } },
            match answer with
            | .error cause => .error (.store cause)
            | .ok stats => .ok (.recorded stats))
  | .leaderboard limit =>
      (hall,
        match hall.service.leaderboard limit with
        | .error cause => .error (.store cause)
        | .ok players => .ok (.leaderboard players))
  | .stats username =>
      (hall,
        match hall.service.store.player? username with
        | .error cause => .error (.store cause)
        | .ok stats => .ok (.stats stats))

/-- The hall after a list of operations. -/
def run (hall : Hall) (operations : List Operation) : Hall :=
  operations.foldl (fun hall operation => (hall.perform operation).1) hall

end Hall
end ModalDrill
