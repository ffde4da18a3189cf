import Mathlib.Data.List.TakeWhile
import ModalDrill.Shell.Message

namespace ModalDrill

/-!
# Reading rounds in what was printed

What the shell has printed tells its rounds: one begins where a length is
announced, and goes on to the next announcement.  Nothing here knows how the
shell works; the rounds, the points in them and the scores that they end with
are read from the messages alone.
-/

namespace Message

/-- Does a message announce a round? -/
def opens : Message -> Bool
  | roundLength _ => true
  | _ => false

/-- The score that is told as the final one. -/
def finalScore? : Message -> Option Nat
  | finalScore score => some score
  | _ => none

/-- Does a message neither announce a round nor end one? -/
def isInside : Message -> Bool
  | roundLength _ => false
  | timesUp => false
  | finalScore _ => false
  | _ => true

/-- Does a message say nothing about the course of a round?  A correct answer
without a point is one of these. -/
def isAside (message : Message) : Bool :=
  message.isInside && message != correct 1

theorem opens_of_isInside {message : Message} (inside : message.isInside = true) :
    message.opens = false := by
  cases message with
  | roundLength duration => cases inside
  | _ => rfl

theorem finalScore?_of_isInside {message : Message} (inside : message.isInside = true) :
    message.finalScore? = none := by
  cases message with
  | finalScore score => cases inside
  | _ => rfl

theorem isAside_iff (message : Message) :
    message.isAside = true ↔ message.isInside = true ∧ message ≠ correct 1 := by
  rw [isAside, Bool.and_eq_true, bne_iff_ne]

end Message

/-! ## Rounds -/

/-- The rounds among messages, in order.  What comes before the first
announcement is in no round. -/
def rounds : List Message -> List (List Message)
  | [] => []
  | message :: rest =>
      if message.opens then
        (message :: rest.takeWhile fun other => !other.opens) :: rounds rest
      else rounds rest

/-- The points that were won in a round, one for each full answer. -/
def won (round : List Message) : Nat :=
  round.count (.correct 1)

/-- The points of a round that ran out of time; nothing for any other round. -/
def result? (round : List Message) : Option Nat :=
  if .timesUp ∈ round then some (won round) else none

theorem result?_eq_none_iff (round : List Message) :
    result? round = none ↔ .timesUp ∉ round := by
  rw [result?, ite_eq_right_iff]
  exact forall_congr' fun _ => iff_false_intro (Option.some_ne_none _)

/-- The results of all rounds, in order. -/
def results (messages : List Message) : List (Option Nat) :=
  (rounds messages).map result?

/-- A round that ran out of time tells the points that were won, once, and what is to be
noticed about them. -/
def Tells (notices round : List Message) : Prop :=
  .timesUp ∈ round -> round.filterMap Message.finalScore? = [won round] ∧ notices ⊆ round

/-- Messages of which none begins or ends a round. -/
def Inside (messages : List Message) : Prop :=
  forall message, message ∈ messages -> message.isInside = true

/-- Messages of which none says anything about the course of a round. -/
def Asides (messages : List Message) : Prop :=
  forall message, message ∈ messages -> message.isAside = true

/-! ## Adding messages -/

theorem rounds_eq_nil_iff (messages : List Message) :
    rounds messages = [] ↔ forall message, message ∈ messages -> message.opens = false := by
  induction messages with
  | nil => exact ⟨fun _ message listed => absurd listed List.not_mem_nil, fun _ => rfl⟩
  | cons first rest inductionHypothesis =>
      rw [rounds, List.forall_mem_cons, ← inductionHypothesis]
      cases opening : first.opens with
      | true =>
          constructor
          · intro none
            cases none
          · intro both
            cases both.1
      | false => exact ⟨fun none => ⟨rfl, none⟩, fun both => both.2⟩

/-- An announcement begins a new round. -/
theorem rounds_append_opening (messages : List Message) {message : Message}
    (opening : message.opens = true) :
    rounds (messages ++ [message]) = rounds messages ++ [[message]] := by
  induction messages with
  | nil => exact if_pos opening
  | cons first rest inductionHypothesis =>
      have cut : ((rest ++ [message]).takeWhile fun other => !other.opens) =
          rest.takeWhile fun other => !other.opens := by
        rw [List.takeWhile_append, List.takeWhile_cons_of_neg (by simp [opening]), List.append_nil]
        split
        · next whole => exact ((List.takeWhile_prefix _).eq_of_length whole).symm
        · rfl
      rw [List.cons_append, rounds, rounds, inductionHypothesis, cut]
      split <;> rfl

/-- Messages without an announcement belong to the last round, if there is one. -/
theorem rounds_append (messages : List Message) {later : List Message}
    (inside : forall message, message ∈ later -> message.opens = false) :
    (rounds messages = [] ∧ rounds (messages ++ later) = []) ∨
      Exists fun earlier => Exists fun current =>
        rounds messages = earlier ++ [current] ∧
          rounds (messages ++ later) = earlier ++ [current ++ later] := by
  induction messages with
  | nil => exact Or.inl ⟨rfl, (rounds_eq_nil_iff later).mpr inside⟩
  | cons first rest inductionHypothesis =>
      rw [List.cons_append, rounds, rounds, List.takeWhile_append]
      cases opening : first.opens with
      | false => exact inductionHypothesis
      | true =>
          refine Or.inr ?_
          rcases inductionHypothesis with ⟨unopened, unopened'⟩ | ⟨earlier, current, before, after⟩
          · -- the round that is announced here is the last one
            have whole : (rest.takeWhile fun other => !other.opens) = rest := by
              rw [List.takeWhile_eq_self_iff]
              intro message listed
              rw [(rounds_eq_nil_iff rest).mp unopened message listed]
              rfl
            have whole' : (later.takeWhile fun other => !other.opens) = later := by
              rw [List.takeWhile_eq_self_iff]
              intro message listed
              rw [inside message listed]
              rfl
            rw [unopened, unopened', whole, if_pos rfl, if_pos rfl, if_pos rfl, whole']
            exact ⟨[], first :: rest, rfl, rfl⟩
          · have cut : (rest.takeWhile fun other => !other.opens).length ≠ rest.length := by
              intro whole
              have self := (List.takeWhile_prefix _).eq_of_length whole
              rw [List.takeWhile_eq_self_iff] at self
              have unopened : rounds rest = [] := by
                rw [rounds_eq_nil_iff]
                intro message listed
                exact (Bool.not_eq_true' _).mp (self message listed)
              rw [unopened] at before
              exact List.append_ne_nil_of_right_ne_nil earlier (List.cons_ne_nil _ _) before.symm
            rw [before, after, if_neg cut]
            exact ⟨_ :: earlier, current, rfl, rfl⟩

/-- Messages without an announcement belong to the last round. -/
theorem rounds_append_of_last {messages : List Message} {earlier : List (List Message)}
    {current : List Message} (last : rounds messages = earlier ++ [current]) {later : List Message}
    (inside : forall message, message ∈ later -> message.opens = false) :
    rounds (messages ++ later) = earlier ++ [current ++ later] := by
  rcases rounds_append messages inside with ⟨unopened, _⟩ | ⟨earlier', current', before, after⟩
  · rw [unopened] at last
    exact absurd last.symm (List.append_ne_nil_of_right_ne_nil earlier (List.cons_ne_nil _ _))
  · have same := List.append_inj' (last.symm.trans before) rfl
    rw [after, ← same.1, ← List.singleton_inj.mp same.2]

/-! ## Asides -/

theorem Inside.unopened {messages : List Message} (inside : Inside messages) :
    forall message, message ∈ messages -> message.opens = false :=
  fun message listed => Message.opens_of_isInside (inside message listed)

theorem Inside.goesOn {messages : List Message} (inside : Inside messages) :
    Message.timesUp ∉ messages := by
  intro listed
  cases inside _ listed

theorem Inside.untold {messages : List Message} (inside : Inside messages) :
    messages.filterMap Message.finalScore? = [] := by
  rw [List.filterMap_eq_nil_iff]
  exact fun message listed => Message.finalScore?_of_isInside (inside message listed)

theorem Asides.inside {messages : List Message} (asides : Asides messages) : Inside messages :=
  fun message listed => ((Message.isAside_iff message).mp (asides message listed)).1

theorem Asides.won_eq {messages : List Message} (asides : Asides messages) :
    won messages = 0 := by
  rw [won, List.count_eq_zero]
  intro listed
  exact ((Message.isAside_iff _).mp (asides _ listed)).2 rfl

theorem Asides.append {first second : List Message} (asides : Asides first)
    (asides' : Asides second) : Asides (first ++ second) := by
  intro message listed
  rcases List.mem_append.mp listed with here | there
  · exact asides message here
  · exact asides' message there

theorem won_append (first second : List Message) :
    won (first ++ second) = won first + won second :=
  List.count_append

/-- Asides leave the result of a round as it is. -/
theorem result?_append_asides (round : List Message) {later : List Message}
    (asides : Asides later) : result? (round ++ later) = result? round := by
  have same : Message.timesUp ∈ round ++ later ↔ Message.timesUp ∈ round := by
    rw [List.mem_append]
    exact or_iff_left asides.inside.goesOn
  rw [result?, result?, won_append, asides.won_eq]
  exact if_congr same rfl rfl

theorem Tells.append_asides {notices round later : List Message} (tells : Tells notices round)
    (asides : Asides later) : Tells notices (round ++ later) := by
  intro ended
  rcases List.mem_append.mp ended with here | there
  · rw [List.filterMap_append, asides.inside.untold, won_append, asides.won_eq, List.append_nil]
    exact ⟨(tells here).1, List.subset_append_of_subset_left later (tells here).2⟩
  · exact absurd there asides.inside.goesOn

/-- Asides leave all results as they are. -/
theorem results_append_asides (messages : List Message) {later : List Message}
    (asides : Asides later) : results (messages ++ later) = results messages := by
  unfold results
  rcases rounds_append messages asides.inside.unopened with
    ⟨before, after⟩ | ⟨earlier, current, before, after⟩
  · rw [before, after]
  · rw [before, after, List.map_append, List.map_append, List.map_singleton, List.map_singleton,
      result?_append_asides current asides]

theorem tells_append_asides {notices messages later : List Message}
    (told : forall round, round ∈ rounds messages -> Tells notices round) (asides : Asides later) :
    forall round, round ∈ rounds (messages ++ later) -> Tells notices round := by
  rcases rounds_append messages asides.inside.unopened with
    ⟨before, after⟩ | ⟨earlier, current, before, after⟩
  · rw [before] at told
    rw [after]
    exact told
  · rw [before, List.forall_mem_append, List.forall_mem_singleton] at told
    rw [after, List.forall_mem_append, List.forall_mem_singleton]
    exact ⟨told.1, told.2.append_asides asides⟩

/-- A round that is settled without a result has not run out of time. -/
theorem exists_round_of_settled {messages : List Message} {earlier : List (Option Nat)}
    (settled : earlier ++ [none] <+: results messages) :
    Exists fun round => (rounds messages)[earlier.length]? = some round ∧ .timesUp ∉ round := by
  have unresolved : (results messages)[earlier.length]? = some none := by
    rcases settled with ⟨later, whole⟩
    rw [← whole, List.append_assoc, List.getElem?_append_right (Nat.le_refl _), Nat.sub_self]
    rfl
  rw [results, List.getElem?_map, Option.map_eq_some_iff] at unresolved
  rcases unresolved with ⟨round, listed, none⟩
  exact ⟨round, listed, (result?_eq_none_iff round).mp none⟩

/-! ## The round under way -/

/-- A round that has not run out of time, and the points that were won in it. -/
structure Going (round : List Message) (score : Nat) : Prop where
  goesOn : Message.timesUp ∉ round
  untold : round.filterMap Message.finalScore? = []
  won_eq : won round = score

namespace Going

theorem opening {message : Message} (opens : message.opens = true) : Going [message] 0 := by
  cases message with
  | roundLength duration =>
      refine ⟨?_, rfl, rfl⟩
      intro listed
      cases List.mem_singleton.mp listed
  | _ => cases opens

/-- Messages that neither begin nor end a round let it go on. -/
theorem append {round later : List Message} {score : Nat} (going : Going round score)
    (inside : Inside later) : Going (round ++ later) (score + won later) where
  goesOn := by
    intro listed
    rcases List.mem_append.mp listed with here | there
    · exact going.goesOn here
    · exact inside.goesOn there
  untold := by
    rw [List.filterMap_append, going.untold, inside.untold, List.append_nil]
  won_eq := by
    rw [won_append, going.won_eq]

theorem result?_eq {round : List Message} {score : Nat} (going : Going round score) :
    result? round = none :=
  if_neg going.goesOn

/-- A round that has not run out of time has nothing to tell. -/
theorem tells {round : List Message} {score : Nat} (going : Going round score)
    (notices : List Message) : Tells notices round :=
  fun ended => absurd ended going.goesOn

/-- A round is closed by saying that its time is up and what its score is, and then what
is to be noticed about the score. -/
theorem close {round notices : List Message} {score : Nat} (going : Going round score)
    (asides : Asides notices) :
    result? (round ++ (.timesUp :: .finalScore score :: notices)) = some score ∧
      Tells notices (round ++ (.timesUp :: .finalScore score :: notices)) := by
  have won_eq : won (round ++ (.timesUp :: .finalScore score :: notices)) = score := by
    have closing : won (.timesUp :: .finalScore score :: notices) = won notices := rfl
    rw [won_append, going.won_eq, closing, asides.won_eq, Nat.add_zero]
  have ended : Message.timesUp ∈ round ++ (.timesUp :: .finalScore score :: notices) :=
    List.mem_append_right round List.mem_cons_self
  refine ⟨?_, fun _ => ⟨?_, ?_⟩⟩
  · rw [result?, if_pos ended, won_eq]
  · have told : (Message.timesUp :: .finalScore score :: notices).filterMap Message.finalScore? =
        score :: notices.filterMap Message.finalScore? := rfl
    rw [List.filterMap_append, going.untold, won_eq, told, asides.inside.untold]
    rfl
  · exact fun _ listed =>
      List.mem_append_right round (List.mem_cons_of_mem _ (List.mem_cons_of_mem _ listed))

end Going

end ModalDrill
