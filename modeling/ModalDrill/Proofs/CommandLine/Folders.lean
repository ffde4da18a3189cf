import ModalDrill.Proofs.CommandLine.Opening

namespace ModalDrill

/-!
# Folders that stay

A run makes folders and never takes one away.  A path that leads through folders
leads to the same place ever after, and the folders around a path are made only once.
-/

namespace Folder

/-! ## Changes that leave the folders -/

theorem holdsFolder_iff (folder : Folder) (place : Place) :
    folder.holdsFolder place = true ↔ folder.node? place = some .folder := by
  rw [holdsFolder, beq_iff_eq]

theorem holdsFolder_of_other {folder : Folder} {place : Place} {node : Option Node}
    (found : folder.node? place = node) (other : node ≠ some .folder) :
    folder.holdsFolder place = false := by
  rw [holdsFolder, found]
  exact beq_eq_false_iff_ne.mpr other

theorem holdsFolder_of_same {folder later : Folder} {place : Place}
    (same : later.node? place = folder.node? place) :
    later.holdsFolder place = folder.holdsFolder place := by
  rw [holdsFolder, holdsFolder, same]

/-- Where there is no folder, there is what the list says. -/
theorem node?_of_not_folder {folder : Folder} {place : Place}
    (free : folder.holdsFolder place = false) :
    place.names.isPrefixOf folder.working.names = false := by
  cases inside : place.names.isPrefixOf folder.working.names with
  | false => rfl
  | true =>
      have around : folder.node? place = some .folder := if_pos inside
      rw [holdsFolder, around] at free
      cases free

theorem node?_put_self {folder : Folder} {place : Place} (free : folder.holdsFolder place = false)
    (node : Node) : (folder.put place node).node? place = some node := by
  have outside := node?_of_not_folder free
  dsimp only [node?, put]
  rw [if_neg (Bool.eq_false_iff.mp outside)]
  split
  · next there =>
      rw [List.any_eq_true] at there
      rw [List.find?_map, Option.map_map]
      rcases there with ⟨entry, listed, here⟩
      have finds : (folder.nodes.find? ((fun entry => entry.1 == place) ∘ fun entry =>
          if entry.1 = place then (place, node) else entry)).isSome = true := by
        rw [List.find?_isSome]
        refine ⟨entry, listed, ?_⟩
        rw [Function.comp_apply, if_pos (beq_iff_eq.mp here)]
        exact beq_self_eq_true place
      rcases Option.isSome_iff_exists.mp finds with ⟨found, found_eq⟩
      have named := List.find?_some found_eq
      rw [found_eq]
      by_cases replaced : found.1 = place
      · simp only [Option.map_some, Function.comp_apply, if_pos replaced]
      · rw [Function.comp_apply, if_neg replaced, beq_iff_eq] at named
        exact absurd named replaced
  · next absent =>
      have none : (folder.nodes.find? fun entry => entry.1 == place) = none := by
        rw [List.find?_eq_none]
        intro entry listed here
        exact absent (List.any_eq_true.mpr ⟨entry, listed, here⟩)
      rw [List.find?_append, none, Option.none_or, List.find?_singleton,
        if_pos (beq_self_eq_true place)]
      rfl

theorem node?_remove_self {folder : Folder} {place : Place}
    (free : folder.holdsFolder place = false) : (folder.remove place).node? place = none := by
  have outside := node?_of_not_folder free
  dsimp only [node?, remove]
  rw [if_neg (Bool.eq_false_iff.mp outside), Option.map_eq_none_iff, List.find?_eq_none]
  intro entry listed
  have other := (List.mem_filter.mp listed).2
  rw [bne_iff_ne] at other
  rw [beq_iff_eq]
  exact other

/-- In the later folder there are all folders of the earlier one. -/
structure Wider (folder later : Folder) : Prop where
  working_eq : later.working = folder.working
  folders : forall place, folder.holdsFolder place = true -> later.holdsFolder place = true

theorem Wider.refl (folder : Folder) : folder.Wider folder :=
  ⟨rfl, fun _ there => there⟩

theorem Wider.trans {folder between later : Folder} (wider : folder.Wider between)
    (wider' : between.Wider later) : folder.Wider later :=
  ⟨wider'.working_eq.trans wider.working_eq,
    fun place there => wider'.folders place (wider.folders place there)⟩

private theorem ne_of_folder {folder : Folder} {place other : Place}
    (there : folder.holdsFolder place = true) (free : folder.holdsFolder other = false) :
    other ≠ place := by
  rintro rfl
  rw [there] at free
  cases free

theorem wider_put {folder : Folder} {place : Place} (free : folder.holdsFolder place = false)
    (node : Node) : folder.Wider (folder.put place node) := by
  refine ⟨rfl, fun other there => ?_⟩
  rw [holdsFolder_of_same (node?_put_of_ne folder (ne_of_folder there free) node)]
  exact there

theorem wider_remove {folder : Folder} {place : Place} (free : folder.holdsFolder place = false) :
    folder.Wider (folder.remove place) := by
  refine ⟨rfl, fun other there => ?_⟩
  rw [holdsFolder_of_same (node?_remove_of_ne folder (ne_of_folder there free))]
  exact there

/-! ## Folders on the way -/

theorem Wider.start_eq {folder later : Folder} (wider : folder.Wider later) (path : Path) :
    later.start path = folder.start path := by
  rw [start, start, wider.working_eq]

/-- Where a name leads from a place. -/
def step (place : Place) (name : String) : Place :=
  if name = ".." then place.parent else place.child name

/-- A name is followed from a folder, if it is not too long. -/
theorem follow_cons_eq_ok_iff (folder : Folder) (place reached : Place) (name : String)
    (rest : List String) : folder.follow place (name :: rest) = .ok reached ↔
      folder.holdsFolder place = true ∧ (name = ".." ∨ name.utf8ByteSize ≤ nameBound) ∧
        folder.follow (step place name) rest = .ok reached := by
  rw [holdsFolder_iff, follow, step]
  cases folder.node? place with
  | none => exact ⟨nofun, nofun⟩
  | some node =>
      cases node with
      | folder =>
          by_cases up : name = ".."
          · simp only [up, if_true, true_or, true_and]
          · by_cases long : nameBound < name.utf8ByteSize
            · simp only [up, if_false, if_pos long, false_or, Nat.not_le.mpr long, false_and,
                and_false, reduceCtorEq]
            · simp only [up, if_false, if_neg long, false_or, Nat.not_lt.mp long, true_and]
      | database content => exact ⟨nofun, nofun⟩
      | foreign => exact ⟨nofun, nofun⟩
      | device => exact ⟨nofun, nofun⟩

/-- A way through folders is still there. -/
theorem Wider.follow_eq {folder later : Folder} (wider : folder.Wider later) {names : List String}
    {place reached : Place} (followed : folder.follow place names = .ok reached) :
    later.follow place names = .ok reached := by
  induction names generalizing place with
  | nil => exact followed
  | cons name rest inductionHypothesis =>
      rw [follow_cons_eq_ok_iff] at followed ⊢
      rcases followed with ⟨here, fits, onward⟩
      exact ⟨wider.folders place here, fits, inductionHypothesis onward⟩

/-- A path that leads to a folder. -/
def HasFolder (folder : Folder) (path : Path) : Prop :=
  Exists fun place => folder.locate path = .ok place ∧ folder.holdsFolder place = true

theorem locate_eq_ok {folder : Folder} {path : Path} {place : Place}
    (located : folder.locate path = .ok place) :
    folder.follow (folder.start path) path.names = .ok place ∧
      forall later : Folder, later.follow (later.start path) path.names = .ok place ->
        later.locate path = .ok place := by
  unfold locate at located ⊢
  split at located
  · cases located
  · next noNul =>
      split at located
      · cases located
      · next short =>
          refine ⟨located, fun later followed => ?_⟩
          rw [if_neg noNul, if_neg short]
          exact followed

theorem Wider.locate_eq {folder later : Folder} (wider : folder.Wider later) {path : Path}
    {place : Place} (located : folder.locate path = .ok place) : later.locate path = .ok place := by
  rcases locate_eq_ok located with ⟨followed, again⟩
  refine again later ?_
  rw [wider.start_eq]
  exact wider.follow_eq followed

theorem HasFolder.wider {folder later : Folder} {path : Path} (has : folder.HasFolder path)
    (wider : folder.Wider later) : later.HasFolder path := by
  rcases has with ⟨place, located, there⟩
  exact ⟨place, wider.locate_eq located, wider.folders place there⟩

/-- The folders around a path are those that lead to its parent. -/
private theorem around_eq (path : Path) :
    (⟨path.absolute, path.parent.names.reverse.reverse⟩ : Path) = path.parent := by
  rw [List.reverse_reverse]
  rfl

theorem HasFolder.makeOne {folder : Folder} {path : Path} (has : folder.HasFolder path) :
    folder.makeOne path = (folder, .ok ()) := by
  rcases has with ⟨place, located, there⟩
  rw [Folder.makeOne, located]
  dsimp only
  rw [(folder.holdsFolder_iff place).mp there]

/-- The folders around a path are made once. -/
theorem HasFolder.makeAround {folder : Folder} {path : Path} (has : folder.HasFolder path.parent) :
    folder.makeAround path = (folder, .ok ()) := by
  rw [← around_eq] at has
  unfold Folder.makeAround
  cases around : path.parent.names.reverse with
  | nil =>
      rw [around] at has
      exact has.makeOne
  | cons name rest =>
      rw [around] at has
      rw [makeAll, has.makeOne]

theorem hasFolder_of_makeOne {folder later : Folder} {path : Path}
    (made : folder.makeOne path = (later, .ok ())) : later.HasFolder path := by
  unfold Folder.makeOne at made
  split at made
  · cases made
  · next place located =>
      split at made
      · next absent =>
          cases made
          have free := holdsFolder_of_other absent nofun
          have there := node?_put_self free .folder
          exact ⟨place, (wider_put free .folder).locate_eq located, (holdsFolder_iff _ _).mpr there⟩
      · next there =>
          cases made
          exact ⟨place, located, (holdsFolder_iff _ _).mpr there⟩
      · cases made

theorem hasFolder_of_makeAround {folder later : Folder} {path : Path}
    (made : folder.makeAround path = (later, .ok ())) : later.HasFolder path.parent := by
  rw [← around_eq]
  unfold Folder.makeAround at made
  cases around : path.parent.names.reverse with
  | nil =>
      rw [around] at made
      exact hasFolder_of_makeOne made
  | cons name rest =>
      rw [around] at made
      unfold makeAll at made
      dsimp only at made
      split at made
      · split at made
        · cases made
        · exact hasFolder_of_makeOne made
      · exact hasFolder_of_makeOne made

/-- Making folders takes none away, whatever comes of it. -/
theorem wider_makeOne (folder : Folder) (path : Path) :
    folder.Wider (folder.makeOne path).1 := by
  unfold Folder.makeOne
  split
  · exact .refl folder
  · split
    · next absent => exact wider_put (holdsFolder_of_other absent nofun) .folder
    · exact .refl folder
    · exact .refl folder

theorem wider_makeAll (folder : Folder) (absolute : Bool) (names : List String) :
    folder.Wider (folder.makeAll absolute names).1 := by
  induction names with
  | nil => exact folder.wider_makeOne _
  | cons name around inductionHypothesis =>
      unfold makeAll
      dsimp only
      split
      · split
        · next between _ made =>
            rw [made] at inductionHypothesis
            exact inductionHypothesis
        · next between _ made =>
            rw [made] at inductionHypothesis
            exact inductionHypothesis.trans (between.wider_makeOne _)
      · exact folder.wider_makeOne _

theorem wider_makeAround (folder : Folder) (path : Path) :
    folder.Wider (folder.makeAround path).1 :=
  folder.wider_makeAll path.absolute _

/-- From a folder the next name is looked at in the same way. -/
theorem Wider.resolve_cons {folder later : Folder} (wider : folder.Wider later) {place : Place}
    (here : folder.holdsFolder place = true) {name : String} {rest : List String}
    (onward : later.resolve (step place name) rest = folder.resolve (step place name) rest) :
    later.resolve place (name :: rest) = folder.resolve place (name :: rest) := by
  have here' := wider.folders place here
  rw [holdsFolder_iff] at here here'
  rw [step] at onward
  rw [resolve, resolve, here, here', onward]

/-- A place that is found behind folders does not depend on anything else. -/
theorem Wider.resolve_of_follow {folder later : Folder} (wider : folder.Wider later)
    {names : List String} {place reached : Place}
    (followed : folder.follow place names = .ok reached)
    (there : folder.holdsFolder reached = true) (last : String) :
    later.resolve place (names ++ [last]) = folder.resolve place (names ++ [last]) := by
  induction names generalizing place with
  | nil =>
      cases followed
      exact wider.resolve_cons there rfl
  | cons name rest inductionHypothesis =>
      rw [follow_cons_eq_ok_iff] at followed
      rcases followed with ⟨here, _, onward⟩
      exact wider.resolve_cons here (inductionHypothesis onward)

theorem Wider.resolve_eq {folder later : Folder} (wider : folder.Wider later) {path : Path}
    (around : folder.HasFolder path.parent) :
    later.resolve (later.start path) path.names =
      folder.resolve (folder.start path) path.names := by
  rw [wider.start_eq]
  rcases List.eq_nil_or_concat path.names with none | ⟨front, last, split⟩
  · rw [none]
    rfl
  · rcases around with ⟨place, located, there⟩
    have parent_eq : path.parent.names = front := by
      rw [Path.parent, split, List.concat_eq_append, List.dropLast_concat]
    have followed := (locate_eq_ok located).1
    rw [parent_eq] at followed
    rw [split, List.concat_eq_append]
    exact wider.resolve_of_follow followed there last

end Folder
end ModalDrill
