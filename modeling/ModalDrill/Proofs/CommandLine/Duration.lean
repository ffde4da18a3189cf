import Mathlib.Algebra.Order.Ring.Int
import Mathlib.Algebra.Order.Ring.Unbundled.Rat
import ModalDrill.Proofs.CommandLine.History

namespace ModalDrill

/-!
# The length of a round

A round that would last no time or less is refused before anything is done with the
folder, with a complaint that nothing else leads to.  What is not a number is neither
more than zero nor zero or less, so that a run with it goes on.
-/

namespace Number

/-- Scaling keeps the sign. -/
theorem scaled_pos_iff {base : Nat} (positive : 0 < base) (factor exponent : Int) :
    0 < scaled factor base exponent <-> 0 < factor := by
  unfold scaled
  split
  · have power : (0 : Int) < (Nat.pow base exponent.toNat : Nat) :=
      Int.natCast_pos.mpr (Nat.pow_pos positive)
    exact Rat.intCast_pos.trans (mul_pos_iff_of_pos_right power)
  · have power : Nat.pow base (-exponent).toNat ≠ 0 := (Nat.pow_pos positive).ne'
    exact Rat.mkRat_pos_iff factor power

theorem scaled_zero (base : Nat) (exponent : Int) : scaled 0 base exponent = 0 := by
  unfold scaled
  split
  · rw [Int.zero_mul, Rat.intCast_zero]
  · exact Rat.zero_mkRat _

end Number

namespace Binary64

theorem zero_precedes_finite_iff (negative : Bool) (mantissa : Nat) (exponent : Int) :
    zero.precedes (finite negative mantissa exponent) = true <->
      negative = false ∧ mantissa ≠ 0 := by
  have nothing : exactly false 0 lowestExponent = 0 := Number.scaled_zero 2 lowestExponent
  rw [zero, precedes, nothing, decide_eq_true_iff, exactly, Number.scaled_pos_iff (by decide)]
  cases negative
  · simp [Nat.pos_iff_ne_zero]
  · simp

/-- A number is zero or less if it is a number and not more than zero. -/
theorem isNonpositive_iff (number : Binary64) :
    number.isNonpositive = true <-> zero.precedes number = false ∧ number ≠ nan := by
  cases number with
  | nan => exact ⟨fun holds => (nomatch holds), fun other => absurd rfl other.2⟩
  | infinite negative => cases negative <;> decide
  | finite negative mantissa exponent =>
      rw [← Bool.not_eq_true, zero_precedes_finite_iff, isNonpositive]
      cases negative <;> simp

end Binary64

namespace CommandLine

/-! ## Complaints about other things -/

/-- A result that does not complain about the length of a round. -/
def LengthApart {Result : Type} (result : Except Complaint Result) : Prop :=
  result ≠ .error .durationNotPositive

section LengthApart

variable {Result Other : Type}

theorem lengthApart_ok (value : Result) : LengthApart (.ok value) :=
  nofun

theorem LengthApart.bind {result : Except Complaint Result} (apart : LengthApart result)
    {next : Result -> Except Complaint Other} (onward : forall value, LengthApart (next value)) :
    LengthApart (result >>= next) := by
  cases result with
  | error complaint =>
      intro same
      exact apart (congrArg Except.error (Except.error.inj same))
  | ok value => exact onward value

theorem LengthApart.map {result : Except Complaint Result} (apart : LengthApart result)
    (change : Result -> Other) : LengthApart (result.map change) := by
  have bound : result.map change = result >>= fun value => .ok (change value) := by
    cases result <;> rfl
  rw [bound]
  exact apart.bind fun _ => lengthApart_ok _

end LengthApart

theorem lengthApart_dashed (argument : List Char) : LengthApart (dashed argument) := by
  unfold dashed
  dsimp only
  split
  · exact lengthApart_ok _
  · split
    · split <;> nofun
    · split <;> nofun

theorem lengthApart_tokenOf (argument : String) : LengthApart (tokenOf argument) := by
  unfold tokenOf
  split
  · exact lengthApart_dashed _
  · exact lengthApart_ok _

theorem lengthApart_tokens (arguments : List String) : LengthApart (tokens arguments) := by
  induction arguments with
  | nil => exact lengthApart_ok _
  | cons argument rest inductionHypothesis =>
      unfold tokens
      split
      · exact lengthApart_ok _
      · exact (lengthApart_tokenOf argument).bind fun _ =>
          inductionHypothesis.bind fun _ => lengthApart_ok _

namespace Reading

theorem lengthApart_name (reading : Reading) (argument : String) :
    LengthApart (reading.name argument) := by
  unfold name
  split <;> nofun

theorem lengthApart_assign (reading : Reading) (flag : Flag) (argument : String) :
    LengthApart (reading.assign flag argument) := by
  cases flag with
  | duration =>
      dsimp only [assign]
      split <;> nofun
  | _ => exact lengthApart_ok _

theorem lengthApart_attach (reading : Reading) (flag : Flag) (text : List Char) :
    LengthApart (reading.attach flag text) := by
  unfold attach
  split
  · exact lengthApart_ok _
  · exact reading.lengthApart_assign flag _

end Reading

theorem lengthApart_readSwitch (reading : Reading) (flag : Flag) (attachment : Attachment) :
    LengthApart (readSwitch reading flag attachment) := by
  unfold readSwitch
  split
  · exact lengthApart_ok _
  · split <;> nofun
  · exact (reading.lengthApart_assign _ _).map _
  · nofun
  · nofun

theorem lengthApart_readOption (reading : Reading) (flag : Flag) (attachment : Attachment) :
    LengthApart (readOption reading flag attachment) := by
  cases attachment with
  | none => exact lengthApart_ok _
  | assigned text => exact (reading.lengthApart_attach flag text).map _
  | joined text => exact (reading.lengthApart_attach flag text).map _

theorem lengthApart_readFree (reading : Reading) (argument : String) (token : Token) :
    LengthApart (readFree reading argument token) := by
  cases token with
  | unknown => exact lengthApart_ok _
  | plain =>
      dsimp only [readFree]
      split
      · exact lengthApart_ok _
      · exact (reading.lengthApart_name argument).map _
  | separator =>
      dsimp only [readFree]
      split <;> exact lengthApart_ok _
  | flag flag attachment =>
      dsimp only [readFree]
      split
      · exact lengthApart_readOption reading flag attachment
      · exact lengthApart_readSwitch reading flag attachment

theorem lengthApart_readOne (reading : Reading) (argument : String) (token : Token) :
    LengthApart (readOne reading argument token) := by
  unfold readOne
  split
  · exact (reading.lengthApart_assign _ argument).map _
  · nofun
  · exact (reading.lengthApart_name argument).map _
  · exact lengthApart_ok _
  · exact lengthApart_readFree reading argument _

theorem lengthApart_readAll (reading : Reading) (told : List (String × Token)) :
    LengthApart (readAll reading told) := by
  induction told generalizing reading with
  | nil =>
      unfold readAll
      split <;> nofun
  | cons head rest inductionHypothesis =>
      rcases head with ⟨argument, token⟩
      have one := lengthApart_readOne reading argument token
      unfold readAll
      cases read : readOne reading argument token with
      | error complaint =>
          rw [read] at one
          exact fun same => one (congrArg Except.error (Except.error.inj same))
      | ok next =>
          cases next with
          | none => exact lengthApart_ok _
          | some reading => exact inductionHypothesis reading

theorem lengthApart_requested? (arguments : List String) :
    LengthApart (requested? arguments) := by
  refine (lengthApart_tokens arguments).bind fun told => ?_
  refine (lengthApart_readAll _ told).bind fun result => ?_
  cases result with
  | none => exact lengthApart_ok _
  | some reading =>
      dsimp only
      split <;> nofun

/-! ## The length of a round -/

/-- Does a command line ask for rounds that last no time or less? -/
def Settings.isRefused (settings : Settings) : Bool :=
  settings.duration.any Binary64.isNonpositive

/-- The length of a round is looked at last. -/
theorem settings?_eq (arguments : List String) :
    settings? arguments = (requested? arguments).bind fun asked =>
      if asked.any Settings.isRefused then .error .durationNotPositive else .ok asked := by
  unfold settings?
  cases requested? arguments with
  | error complaint => rfl
  | ok asked =>
      cases asked with
      | none => rfl
      | some settings => rfl

theorem Settings.isRefused_iff (settings : Settings) :
    settings.isRefused = true <-> Exists fun number => settings.duration = some number ∧
      Binary64.zero.precedes number = false ∧ number ≠ .nan := by
  rw [isRefused, Option.any_eq_true]
  exact exists_congr fun number => and_congr_right' number.isNonpositive_iff

theorem settings?_of_requested? {arguments : List String} {settings : Settings}
    (asked : requested? arguments = .ok (some settings)) :
    settings? arguments =
      if settings.isRefused = true then .error .durationNotPositive else .ok (some settings) := by
  rw [settings?_eq, asked]
  rfl

/-- The complaint comes from the length of a round and from nothing else. -/
theorem settings?_eq_durationNotPositive_iff (arguments : List String) :
    settings? arguments = .error .durationNotPositive <->
      Exists fun settings => requested? arguments = .ok (some settings) ∧
        settings.isRefused = true := by
  constructor
  · intro refused
    rw [settings?_eq] at refused
    cases asked : requested? arguments with
    | error complaint =>
        rw [asked] at refused
        exact absurd (asked.trans (congrArg Except.error (Except.error.inj refused)))
          (lengthApart_requested? arguments)
    | ok result =>
        cases result with
        | none =>
            rw [asked] at refused
            cases refused
        | some settings =>
            refine ⟨settings, rfl, ?_⟩
            by_contra accepted
            rw [asked, Except.bind, Option.any_some, if_neg accepted] at refused
            cases refused
  · rintro ⟨settings, asked, refused⟩
    rw [settings?_of_requested? asked, if_pos refused]

theorem tokens_assigned (text : String) :
    tokens ["--duration=" ++ text] =
      .ok [("--duration=" ++ text, .flag .duration (.assigned text.toList))] := by
  have characters : ("--duration=" ++ text).toList = "--duration=".toList ++ text.toList :=
    String.toList_append
  have longer : "--duration=" ++ text ≠ "--" := by
    intro same
    rw [← String.toList_inj, characters] at same
    cases same
  have token : tokenOf ("--duration=" ++ text) = .ok (.flag .duration (.assigned text.toList)) := by
    unfold tokenOf
    rw [characters]
    cases text.toList <;> rfl
  rw [tokens, if_neg longer, token]
  rfl

/-- An equals sign gives the length of a round whatever text stands for it, also one that
starts with a dash. -/
theorem requested?_assigned {text : String} {number : Binary64}
    (typed : Number.ofTyped? text = some number) :
    requested? ["--duration=" ++ text] =
      .ok (some { Settings.default with duration := some number }) := by
  have filled : text.toList ≠ ['-', '-'] := by
    intro dashes
    have untyped : Number.ofTyped? "--" = none := by decide
    rw [String.toList_injective (dashes.trans (rfl : _ = "--".toList)), untyped] at typed
    cases typed
  have one : readOne Reading.start ("--duration=" ++ text)
      (.flag .duration (.assigned text.toList)) =
        .ok (some (Reading.start.set { Settings.default with duration := some number })) := by
    change (Reading.start.attach .duration text.toList).map some = _
    rw [Reading.attach, if_neg filled, String.ofList_toList, Reading.assign, typed]
    rfl
  unfold requested?
  rw [tokens_assigned]
  dsimp only [bind, Except.bind, readAll]
  rw [one]
  rfl

/-! ## How runs end -/

theorem exitOf_ne_two (ending : Shell.Ending) : exitOf ending ≠ .status 2 := by
  rcases ending with _ | _ | (_ | _ | _) <;> nofun

/-- A run that gets past its arguments does not end as a refused one. -/
theorem enact_ne_two (folder : Folder) (settings : Settings) (surroundings : Surroundings) :
    (enact folder settings surroundings).exit ≠ .status 2 := by
  unfold enact
  split
  · nofun
  · split
    · nofun
    · exact exitOf_ne_two _

/-- A run that comes to nothing but a complaint about its arguments. -/
structure Run.Refuses (run : Run) (folder : Folder) (complaint : Complaint) : Prop where
  told : settings? run.arguments = .error complaint
  folder_eq : run.folderAfter folder = folder
  entries_eq : run.entries folder = []
  gamesTold_eq : run.gamesTold folder = []
  report_eq : run.report folder = ⟨.status 2, "", lines (complaintLines complaint)⟩

theorem Run.refuses {run : Run} {complaint : Complaint}
    (refused : settings? run.arguments = .error complaint) (folder : Folder) :
    run.Refuses folder complaint := by
  have silent : run.entries folder = [] := by rw [Run.entries, refused]
  refine ⟨refused, ?_, silent, ?_, ?_⟩
  · rw [Run.folderAfter, CommandLine.run, refused]
  · rw [Run.gamesTold, silent]
    exact gamesTold_eq_nil rfl _
  · rw [Run.report, CommandLine.run, refused]

theorem Run.report_ne_two {run : Run} {settings : Settings}
    (told : settings? run.arguments = .ok (some settings)) (folder : Folder) :
    (run.report folder).exit ≠ .status 2 := by
  rw [(Run.enacts_enact told folder).report_eq]
  exact enact_ne_two folder settings run.surroundings

/-- A run is refused for the length of its rounds if and only if its arguments are in
order otherwise and ask for a length that is a number and not more than zero.  Such a run
prints the complaint and nothing else: the folder stays as it is, no database is opened
and no game is told.  A run with a length above zero, be it infinite, or with one that is
not a number gets past its arguments, and never ends as a refused run does. -/
theorem nonpositive_rounds_refused (run : Run) (folder : Folder) :
    (run.Refuses folder .durationNotPositive <->
      Exists fun settings => Exists fun number =>
        requested? run.arguments = .ok (some settings) ∧ settings.duration = some number ∧
          Binary64.zero.precedes number = false ∧ number ≠ .nan) ∧
      forall settings number, requested? run.arguments = .ok (some settings) ->
        settings.duration = some number ->
          Binary64.zero.precedes number = true ∨ number = .nan ->
            settings? run.arguments = .ok (some settings) ∧
              (run.report folder).exit ≠ .status 2 := by
  refine ⟨⟨fun refuses => ?_, ?_⟩, fun settings number asked lasting other => ?_⟩
  · rcases (settings?_eq_durationNotPositive_iff _).mp refuses.told with ⟨settings, asked, refused⟩
    rcases settings.isRefused_iff.mp refused with ⟨number, lasting, most⟩
    exact ⟨settings, number, asked, lasting, most⟩
  · rintro ⟨settings, number, asked, lasting, most⟩
    have refused := settings.isRefused_iff.mpr ⟨number, lasting, most⟩
    have told := (settings?_eq_durationNotPositive_iff _).mpr ⟨settings, asked, refused⟩
    exact Run.refuses told folder
  · -- above zero and not a number are both out of reach of a test for zero or less
    have accepted : ¬ settings.isRefused = true := by
      intro refused
      rcases settings.isRefused_iff.mp refused with ⟨number', lasting', below, defined⟩
      cases lasting.symm.trans lasting'
      rcases other with above | undefined
      · exact absurd (above.symm.trans below) (by decide)
      · exact defined undefined
    have told : settings? run.arguments = .ok (some settings) := by
      rw [settings?_of_requested? asked, if_neg accepted]
    exact ⟨told, Run.report_ne_two told folder⟩

/-- The two infinite lengths. -/
theorem nonpositive_rounds_refused_infinite :
    let bank : QuestionBank := ⟨[[]], [⟨"q", "Delete the line.", ["dd"]⟩]⟩
    let given : Surroundings := ⟨bank, fun _ => Sampler.rotation 0, fun _ => [], [], false⟩
    let folder := Folder.empty ⟨["work"]⟩
    Run.Refuses ⟨["--duration=-inf"], given⟩ folder .durationNotPositive ∧
      requested? ["--duration=inf"] =
        .ok (some { Settings.default with duration := some (.infinite false) }) ∧
      Binary64.zero.precedes (.infinite false) = true ∧
      (Run.report ⟨["--duration=inf"], given⟩ folder).exit ≠ .status 2 := by
  intro bank given folder
  have below := @requested?_assigned "-inf" (.infinite true) rfl
  have above := @requested?_assigned "inf" (.infinite false) rfl
  refine ⟨(nonpositive_rounds_refused ⟨["--duration=-inf"], given⟩ folder).1.mpr
      ⟨_, .infinite true, below, rfl, rfl, by decide⟩, above, rfl, ?_⟩
  exact ((nonpositive_rounds_refused ⟨["--duration=inf"], given⟩ folder).2 _ (.infinite false)
    above rfl (Or.inl rfl)).2

/-- A length that is not a number is not more than zero, and a run with it is not
refused: the round ends at once, and its game is recorded. -/
theorem undefined_round_played :
    let bank : QuestionBank := ⟨[[]], [⟨"q", "Delete the line.", ["dd"]⟩]⟩
    let run : Run := ⟨["--duration", "nan"], bank, fun _ => Sampler.rotation 0, fun _ => [],
      [⟨"ann", 0⟩, ⟨"1", 0⟩, ⟨"q", 0⟩], false⟩
    let folder := Folder.empty ⟨["work"]⟩
    requested? run.arguments = .ok (some { Settings.default with duration := some .nan }) ∧
      Binary64.zero.precedes .nan = false ∧ (run.report folder).exit = .status 0 ∧
      run.gamesTold folder = [⟨"ann", 0⟩] ∧ run.folderAfter folder ≠ folder ∧
      ¬ run.Refuses folder .durationNotPositive := by
  intro bank run folder
  have played : run.gamesTold folder = [⟨"ann", 0⟩] := by decide +kernel
  refine ⟨by decide +kernel, rfl, by decide +kernel, played, by decide +kernel, fun refuses => ?_⟩
  rw [refuses.gamesTold_eq] at played
  cases played

end CommandLine
end ModalDrill
