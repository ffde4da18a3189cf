import ModalDrill.Proofs.Shell.Transcript
import ModalDrill.Shell.Play

namespace ModalDrill

/-!
# What an action leads to

An action of the shell comes to its end or breaks off, and leaves a desk behind
either way.  The rules below carry a fact about desks through an action one
step at a time; what is printed is noted even if the clock stops in the middle
of it.
-/

/-- The clock can make every move that the printing of a message causes, whenever it is
printed. -/
def Delay.Passes (delay : Delay) (message : Message) : Prop :=
  forall entries seconds, seconds ∈ delay (entries ++ [.printed message]) ->
    seconds.toBinary64? ≠ none

namespace Desk

/-- From one desk to a later one some messages were printed, and the service
did not change. -/
structure Said (desk : Desk) (messages : List Message) (later : Desk) : Prop where
  service_eq : later.service = desk.service
  messages_eq : later.messages = desk.messages ++ messages

/-- From one desk to a later one nothing was printed or recorded. -/
structure Stays (desk later : Desk) : Prop where
  store_eq : later.service.store = desk.service.store
  messages_eq : later.messages = desk.messages

/-- From one desk to a later one nothing happened but asides. -/
def Drifts (desk later : Desk) : Prop :=
  Exists fun messages => Asides messages ∧ desk.Said messages later

theorem Said.refl (desk : Desk) : desk.Said [] desk :=
  ⟨rfl, (List.append_nil _).symm⟩

theorem Said.stays {desk later : Desk} (said : desk.Said [] later) : desk.Stays later :=
  ⟨congrArg Service.store said.service_eq, said.messages_eq.trans (List.append_nil _)⟩

theorem Stays.trans {desk between later : Desk} (stays : desk.Stays between)
    (stays' : between.Stays later) : desk.Stays later :=
  ⟨stays'.store_eq.trans stays.store_eq, stays'.messages_eq.trans stays.messages_eq⟩

theorem Said.trans {desk between later : Desk} {first second : List Message}
    (said : desk.Said first between) (said' : between.Said second later) :
    desk.Said (first ++ second) later where
  service_eq := said'.service_eq.trans said.service_eq
  messages_eq := by
    rw [said'.messages_eq, said.messages_eq, List.append_assoc]

theorem Drifts.refl (desk : Desk) : desk.Drifts desk :=
  ⟨[], fun _ listed => absurd listed List.not_mem_nil, Said.refl desk⟩

theorem Drifts.trans {desk between later : Desk} (drifts : desk.Drifts between)
    (drifts' : between.Drifts later) : desk.Drifts later := by
  rcases drifts with ⟨first, asides, said⟩
  rcases drifts' with ⟨second, asides', said'⟩
  exact ⟨first ++ second, asides.append asides', said.trans said'⟩

theorem messages_add (desk : Desk) (entry : Entry) :
    (desk.add entry).messages =
      desk.messages ++ Desk.messages ⟨desk.service, desk.draws, desk.clock, [entry]⟩ :=
  List.filterMap_append

/-- Printing a message says it. -/
theorem said_printed (desk : Desk) (message : Message) :
    desk.Said [message] (desk.add (.printed message)) :=
  ⟨rfl, messages_add desk _⟩

/-- A prompt is not a message. -/
theorem said_asked (desk : Desk) (prompt : Prompt) : desk.Said [] (desk.add (.asked prompt)) :=
  ⟨rfl, messages_add desk _⟩

/-- A note is not a message. -/
theorem said_noted (desk : Desk) (note : Note) : desk.Said [] (desk.add (.noted note)) :=
  ⟨rfl, messages_add desk _⟩

end Desk

namespace Shell

variable {Value Other : Type} {desk : Desk} {broken : Failure -> Desk -> Prop}

/-- What holds after an action: one thing if it comes to its end, another one
if it breaks off. -/
structure Leads (act : Act Value) (desk : Desk) (done : Value -> Desk -> Prop)
    (broken : Failure -> Desk -> Prop) : Prop where
  outcome : match act.run desk with
    | .ok value later => done value later
    | .error cause later => broken cause later

/-- Nothing breaks off. -/
abbrev Never : Failure -> Desk -> Prop :=
  fun _ _ => False

/-! ## Rules -/

theorem leads_pure {value : Value} {done : Value -> Desk -> Prop} (holds : done value desk) :
    Leads (pure value) desk done broken :=
  ⟨holds⟩

theorem leads_throw {cause : Failure} {done : Value -> Desk -> Prop} (holds : broken cause desk) :
    Leads (throw cause) desk done broken :=
  ⟨holds⟩

theorem leads_get {next : Desk -> Act Other} {done : Other -> Desk -> Prop}
    (leads : Leads (next desk) desk done broken) : Leads (get >>= next) desk done broken :=
  ⟨leads.outcome⟩

theorem leads_modify (change : Desk -> Desk) (desk : Desk) (broken : Failure -> Desk -> Prop) :
    Leads (modify change) desk (fun _ later => later = change desk) broken :=
  ⟨rfl⟩

theorem leads_set (changed desk : Desk) (broken : Failure -> Desk -> Prop) :
    Leads (set changed) desk (fun _ later => later = changed) broken :=
  ⟨rfl⟩

theorem leads_say (entry : Entry) (desk : Desk) (broken : Failure -> Desk -> Prop) :
    Leads (say entry) desk (fun _ later => later = desk.add entry) broken :=
  ⟨rfl⟩

theorem Leads.bind {act : Act Value} {next : Value -> Act Other} {middle : Value -> Desk -> Prop}
    {done : Other -> Desk -> Prop} (leads : Leads act desk middle broken)
    (onward : forall value later, middle value later -> Leads (next value) later done broken) :
    Leads (act >>= next) desk done broken := by
  have outcome := leads.outcome
  constructor
  change match EStateM.bind act next desk with
    | .ok value later => done value later
    | .error cause later => broken cause later
  unfold EStateM.run at outcome
  unfold EStateM.bind
  cases result : act desk with
  | ok value later =>
      rw [result] at outcome
      exact (onward value later outcome).outcome
  | error cause later =>
      rw [result] at outcome
      exact outcome

theorem Leads.weaken {act : Act Value} {done done' : Value -> Desk -> Prop}
    {broken' : Failure -> Desk -> Prop} (leads : Leads act desk done broken)
    (ended : forall value later, done value later -> done' value later)
    (stopped : forall cause later, broken cause later -> broken' cause later) :
    Leads act desk done' broken' := by
  have outcome := leads.outcome
  constructor
  cases result : act.run desk with
  | ok value later =>
      rw [result] at outcome
      exact ended value later outcome
  | error cause later =>
      rw [result] at outcome
      exact stopped cause later outcome

theorem Leads.imp {act : Act Value} {done done' : Value -> Desk -> Prop}
    (leads : Leads act desk done broken)
    (ended : forall value later, done value later -> done' value later) :
    Leads act desk done' broken :=
  leads.weaken ended fun _ _ stopped => stopped

/-- What does not break off does not break off badly. -/
theorem Leads.unbroken {act : Act Value} {done : Value -> Desk -> Prop}
    (leads : Leads act desk done Never) : Leads act desk done broken :=
  leads.weaken (fun _ _ holds => holds) fun _ _ contrary => contrary.elim

/-- The next action follows if the first one ends; if it breaks off, that is where all ends. -/
theorem Leads.andThen {act : Act Value} {next : Value -> Act Other}
    {middle : Value -> Desk -> Prop} {stopped : Failure -> Desk -> Prop}
    {done : Other -> Desk -> Prop} (leads : Leads act desk middle stopped)
    (breaks : forall cause later, stopped cause later -> broken cause later)
    (onward : forall value later, middle value later -> Leads (next value) later done broken) :
    Leads (act >>= next) desk done broken :=
  (leads.weaken (fun _ _ holds => holds) breaks).bind onward

/-! ## Printing -/

theorem leads_wait (seconds : Seconds) (desk : Desk) :
    Leads (wait seconds) desk (fun _ later => desk.Said [] later)
      (fun _ later => desk.Said [] later ∧ seconds.toBinary64? = none) := by
  unfold wait
  cases passed : seconds.toBinary64? with
  | none => exact leads_throw ⟨Desk.Said.refl desk, rfl⟩
  | some amount =>
      refine (leads_modify _ desk _).imp ?_
      rintro _ later rfl
      exact ⟨rfl, (List.append_nil _).symm⟩

private theorem leads_waits (times : List Seconds) (desk : Desk) :
    Leads (times.forM wait) desk (fun _ later => desk.Said [] later)
      (fun _ later => desk.Said [] later ∧
        Exists fun seconds => seconds ∈ times ∧ seconds.toBinary64? = none) := by
  induction times generalizing desk with
  | nil => exact leads_pure (Desk.Said.refl desk)
  | cons seconds rest inductionHypothesis =>
      refine (leads_wait seconds desk).andThen ?_ ?_
      · intro _ later stopped
        exact ⟨stopped.1, seconds, List.mem_cons_self, stopped.2⟩
      · intro _ between said
        refine (inductionHypothesis between).weaken (fun _ _ said' => said.trans said') ?_
        rintro _ later ⟨said', other, listed, stopped⟩
        exact ⟨said.trans said', other, List.mem_cons_of_mem seconds listed, stopped⟩

/-- A message is said even if the clock stops while it is printed. -/
theorem leads_print (delay : Delay) (message : Message) (desk : Desk) :
    Leads (print delay message) desk (fun _ later => desk.Said [message] later)
      (fun _ later => desk.Said [message] later ∧ ¬ delay.Passes message) := by
  refine (leads_say (.printed message) desk _).bind ?_
  rintro _ _ rfl
  have said := desk.said_printed message
  refine leads_get ?_
  refine (leads_waits (delay (desk.add (.printed message)).entries) _).weaken
    (fun _ _ said' => said.trans said') ?_
  rintro _ later ⟨said', seconds, listed, stopped⟩
  exact ⟨said.trans said', fun passes => passes desk.entries seconds listed stopped⟩

/-- Messages are said up to one at which the clock stops, or all of them. -/
theorem leads_printAll (delay : Delay) (messages : List Message) (desk : Desk) :
    Leads (printAll delay messages) desk (fun _ later => desk.Said messages later)
      (fun _ later => Exists fun said => said <+: messages ∧ desk.Said said later ∧
        Exists fun message => message ∈ messages ∧ ¬ delay.Passes message) := by
  induction messages generalizing desk with
  | nil => exact leads_pure (Desk.Said.refl desk)
  | cons message rest inductionHypothesis =>
      refine (leads_print delay message desk).andThen ?_ ?_
      · intro _ later stopped
        exact ⟨[message], ⟨rest, rfl⟩, stopped.1, message, List.mem_cons_self, stopped.2⟩
      · intro _ between said
        refine (inductionHypothesis between).weaken (fun _ _ said' => said.trans said') ?_
        rintro _ later ⟨first, cut, said', other, listed, stopped⟩
        exact ⟨message :: first, List.cons_prefix_cons.mpr ⟨rfl, cut⟩, said.trans said', other,
          List.mem_cons_of_mem message listed, stopped⟩

/-- Printing asides is a drift, wherever the clock stops. -/
theorem leads_printAll_asides (delay : Delay) {messages : List Message} (asides : Asides messages)
    (desk : Desk) :
    Leads (printAll delay messages) desk (fun _ later => desk.Drifts later)
      (fun _ later => desk.Drifts later) := by
  refine (leads_printAll delay messages desk).weaken (fun _ _ said => ⟨messages, asides, said⟩) ?_
  rintro _ later ⟨first, cut, said, _⟩
  exact ⟨first, fun message listed => asides message (cut.subset listed), said⟩

theorem leads_print_aside (delay : Delay) {message : Message} (aside : message.isAside = true)
    (desk : Desk) :
    Leads (print delay message) desk (fun _ later => desk.Drifts later)
      (fun _ later => desk.Drifts later) := by
  have asides : Asides [message] := fun _ listed => (List.mem_singleton.mp listed) ▸ aside
  exact (leads_print delay message desk).weaken (fun _ _ said => ⟨_, asides, said⟩)
    fun _ _ stopped => ⟨_, asides, stopped.1⟩

end Shell
end ModalDrill
