import ModalDrill.Shell.Message

namespace ModalDrill

/-!
# The desk

A desk is what the shell works with: the service, the clock and the entries so
far.  The clock shows binary floating point numbers, and whatever the shell is
doing breaks off when it cannot be moved.

Two things come from the surroundings: the time that printing takes, and the
order in which the questions of a round are drawn.  Either may be another one
each time, so both are given for each history of entries; no history comes
twice in a play, because every print and every start adds an entry.
-/

/-- The times that pass, one after the other, while the last entry of a history is
printed. -/
abbrev Delay := List Entry -> List Seconds

/-- How questions are drawn behind a history. -/
abbrev Draws := List Entry -> Sampler

structure Desk where
  service : Service
  draws : Draws
  clock : Binary64
  entries : List Entry

namespace Desk

/-- A desk with nothing said, at the start of its clock. -/
def new (service : Service) (draws : Draws) : Desk :=
  ⟨service, draws, Binary64.zero, []⟩

def add (desk : Desk) (entry : Entry) : Desk :=
  { desk with entries := desk.entries ++ [entry] }

/-- The service as it draws now. -/
def shuffled (desk : Desk) : Service :=
  { desk.service with sampler := desk.draws desk.entries }

/-- The messages that were printed, in order. -/
def messages (desk : Desk) : List Message :=
  desk.entries.filterMap fun entry =>
    match entry with
    | .printed message => some message
    | _ => none

end Desk

namespace Shell

/-- Why the shell stops in the middle. -/
inductive Failure
  | submit (cause : SubmitError)
  | store (cause : StoreError)
  | clockOutOfRange
deriving DecidableEq, Repr

/-- Something that is done at a desk.  It may break off; what was said and
recorded before stays. -/
abbrev Act := EStateM Failure Desk

def say (entry : Entry) : Act Unit :=
  modify fun desk => desk.add entry

/-- Let time pass. -/
def wait (seconds : Seconds) : Act Unit :=
  match seconds.toBinary64? with
  | none => throw .clockOutOfRange
  | some passed => modify fun desk => { desk with clock := desk.clock.add passed }

/-- Print a message, and let its time pass. -/
def print (delay : Delay) (message : Message) : Act Unit := do
  say (.printed message)
  (delay (<- get).entries).forM wait

/-- Print messages one after the other. -/
def printAll (delay : Delay) (messages : List Message) : Act Unit :=
  messages.forM (print delay)

end Shell
end ModalDrill
