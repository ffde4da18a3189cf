import ModalDrill.Bank.Sampling
import ModalDrill.Session.Basic
import ModalDrill.Store.Basic

namespace ModalDrill

/-!
# The service

A service ties a bank, a store and one register together.  It starts sessions
for named players and records a session once, when it is finished.
-/

structure Service where
  bank : QuestionBank
  duration : Seconds
  sampler : Sampler
  register : Option Line
  store : Store

namespace Service

/-- A service with an empty register. -/
def new (bank : QuestionBank) (duration : Seconds) (sampler : Sampler) (store : Store) : Service :=
  ⟨bank, duration, sampler, none, store⟩

/-- The questions of the next session. -/
def drawn (service : Service) (count : Option Int) : List Question :=
  draw service.sampler service.bank.questions count

/-- Start a session for a player.  It empties the register, also if the deadline
is out of range; without a name or a question the register is left alone. -/
def start (service : Service) (now : Seconds) (username : CodeText) (count : Option Int) :
    Service × Except StartError Session :=
  let started := Session.start username.strip (service.drawn count) service.bank.sampleText
    service.duration now
  let cleared := { service with register := none }
  if Text.strip username.toString = "" then (service, .error .usernameRequired)
  else
    match started with
    | .error .deadlineOutOfRange => (cleared, .error .deadlineOutOfRange)
    | .error cause => (service, .error cause)
    | .ok session => (cleared, .ok session)

/-- Finish a session.  The first time its score is recorded; later on the
aggregate of that time is the answer. -/
def finish (service : Service) (session : Session) :
    Service × Session × Except StoreError PlayerStats :=
  let session := session.finish
  match session.stats with
  | some stats => (service, session, .ok stats)
  | none =>
      match service.store.record (.text session.user) (.integer session.score) with
      | (store, .error cause) => ({ service with store := store }, session, .error cause)
      | (store, .ok stats) =>
          ({ service with store := store }, { session with stats := some stats }, .ok stats)

/-- The first players of the leaderboard. -/
def leaderboard (service : Service) (limit : Json) : Except StoreError (List PlayerStats) :=
  service.store.top limit

/-- The aggregate of a player, if there is one. -/
def stats? (service : Service) (username : CodeText) : Except StoreError (Option PlayerStats) :=
  service.store.player? (.text username)

end Service
end ModalDrill
