import Mathlib.Data.List.Nodup
import Mathlib.Data.List.Perm.Basic
import Mathlib.Order.MinMax
import ModalDrill.Proofs.Store.Log
import ModalDrill.Proofs.Text.ByteOrder
import ModalDrill.Proofs.Text.Stripping

namespace ModalDrill

/-!
# The leaderboard

The rows of players are in a strict order, in which no two of them are equal: more
games come first, then the better score, then the smaller name.  The leaderboard is
the front of the player table in this order.  It is determined by the recorded games
alone, and the order in which they were recorded does not matter.
-/

namespace PlayerStats

/-! ## The order of rows -/

/-- More games, or as many and a better score, or both the same and a name that comes
before the other. -/
def AboveBy (before : String -> String -> Prop) (first second : PlayerStats) : Prop :=
  second.timesPlayed < first.timesPlayed ∨
    first.timesPlayed = second.timesPlayed ∧
      (second.highestScore < first.highestScore ∨
        first.highestScore = second.highestScore ∧ before first.username second.username)

/-- The order of rows, with the names by their code points. -/
def Above : PlayerStats -> PlayerStats -> Prop :=
  AboveBy fun first second => first.toList < second.toList

theorem aboveBy_congr {before before' : String -> String -> Prop}
    (same : forall first second, before first second ↔ before' first second)
    (first second : PlayerStats) : first.AboveBy before second ↔ first.AboveBy before' second := by
  unfold AboveBy
  rw [same]

/-- The bytes of the names give the same order. -/
theorem above_iff_bytes (first second : PlayerStats) :
    first.Above second ↔
      first.AboveBy (fun name other => Text.textBytes name < Text.textBytes other) second :=
  aboveBy_congr (fun name other => by rw [Text.textBytes_lt_iff, String.lt_iff_toList_lt]) _ _

theorem above_irrefl (row : PlayerStats) : ¬ row.Above row := by
  rintro (more | ⟨_, better | ⟨_, smaller⟩⟩)
  · exact Nat.lt_irrefl _ more
  · exact Int.lt_irrefl _ better
  · exact List.lt_irrefl _ smaller

theorem Above.trans {first second third : PlayerStats} (above : first.Above second)
    (above' : second.Above third) : first.Above third := by
  rcases above with more | ⟨played, better | ⟨best, smaller⟩⟩
  · rcases above' with more' | ⟨played', _⟩
    · exact Or.inl (Nat.lt_trans more' more)
    · exact Or.inl (played' ▸ more)
  · rcases above' with more' | ⟨played', better' | ⟨best', _⟩⟩
    · exact Or.inl (played ▸ more')
    · exact Or.inr ⟨played.trans played', Or.inl (Int.lt_trans better' better)⟩
    · exact Or.inr ⟨played.trans played', Or.inl (best' ▸ better)⟩
  · rcases above' with more' | ⟨played', better' | ⟨best', smaller'⟩⟩
    · exact Or.inl (played ▸ more')
    · exact Or.inr ⟨played.trans played', Or.inl (best ▸ better')⟩
    · exact Or.inr ⟨played.trans played', Or.inr ⟨best.trans best', List.lt_trans smaller smaller'⟩⟩

theorem Above.asymm {first second : PlayerStats} (above : first.Above second) :
    ¬ second.Above first :=
  fun above' => above_irrefl first (above.trans above')

/-- Of two different rows one is above the other. -/
theorem above_trichotomy (first second : PlayerStats) :
    first.Above second ∨ first = second ∨ second.Above first := by
  rcases Nat.lt_trichotomy second.timesPlayed first.timesPlayed with more | played | fewer
  · exact Or.inl (Or.inl more)
  · rcases Int.lt_trichotomy second.highestScore first.highestScore with better | best | worse
    · exact Or.inl (Or.inr ⟨played.symm, Or.inl better⟩)
    · rcases lt_trichotomy first.username second.username with smaller | name | larger
      · rw [String.lt_iff_toList_lt] at smaller
        exact Or.inl (Or.inr ⟨played.symm, Or.inr ⟨best.symm, smaller⟩⟩)
      · refine Or.inr (Or.inl ?_)
        cases first
        cases second
        cases played
        cases best
        cases name
        rfl
      · rw [String.lt_iff_toList_lt] at larger
        exact Or.inr (Or.inr (Or.inr ⟨played, Or.inr ⟨best, larger⟩⟩))
    · exact Or.inr (Or.inr (Or.inr ⟨played, Or.inl worse⟩))
  · exact Or.inr (Or.inr (Or.inl fewer))

/-- The comparison of the leaderboard is this order, with equal rows allowed. -/
theorem ranksBefore_iff (first second : PlayerStats) :
    first.ranksBefore second = true ↔ first = second ∨ first.Above second := by
  have sound : first.ranksBefore second = true -> ¬ second.Above first := by
    intro ranks
    unfold ranksBefore at ranks
    rintro (more | ⟨played, better | ⟨best, smaller⟩⟩)
    · rw [if_neg (Nat.ne_of_lt more)] at ranks
      exact Nat.lt_asymm more (of_decide_eq_true ranks)
    · rw [if_pos played.symm, if_neg (Int.ne_of_lt better)] at ranks
      exact Int.lt_asymm better (of_decide_eq_true ranks)
    · rw [if_pos played.symm, if_pos best.symm] at ranks
      exact not_le_of_gt (String.lt_iff_toList_lt.mpr smaller) (of_decide_eq_true ranks)
  constructor
  · intro ranks
    rcases above_trichotomy first second with above | same | below
    · exact Or.inr above
    · exact Or.inl same
    · exact absurd below (sound ranks)
  · unfold ranksBefore
    rintro (rfl | more | ⟨played, better | ⟨best, smaller⟩⟩)
    · rw [if_pos rfl, if_pos rfl]
      exact decide_eq_true (le_refl _)
    · rw [if_neg (Nat.ne_of_gt more)]
      exact decide_eq_true more
    · rw [if_pos played, if_neg (Int.ne_of_gt better)]
      exact decide_eq_true better
    · rw [if_pos played, if_pos best]
      exact decide_eq_true (le_of_lt (String.lt_iff_toList_lt.mpr smaller))

theorem ranksBefore_trans (first second third : PlayerStats)
    (ranks : first.ranksBefore second = true) (ranks' : second.ranksBefore third = true) :
    first.ranksBefore third = true := by
  rw [ranksBefore_iff] at ranks ranks' ⊢
  rcases ranks with rfl | above
  · exact ranks'
  · rcases ranks' with rfl | above'
    · exact Or.inr above
    · exact Or.inr (above.trans above')

theorem ranksBefore_total (first second : PlayerStats) :
    (first.ranksBefore second || second.ranksBefore first) = true := by
  rw [Bool.or_eq_true, ranksBefore_iff, ranksBefore_iff]
  rcases above_trichotomy first second with above | same | below
  · exact Or.inl (Or.inr above)
  · exact Or.inl (Or.inl same)
  · exact Or.inr (Or.inr below)

end PlayerStats

/-! ## The front of the player table -/

/-- The first rows of a player table: rows of it under different names, one above the
next, and no row that is left out is above one of them. -/
structure Board (players : List PlayerStats) (limit : Nat) (rows : List PlayerStats) : Prop where
  listed : forall row, row ∈ rows -> row ∈ players
  distinct : (rows.map PlayerStats.username).Nodup
  ranked : rows.Pairwise PlayerStats.Above
  length_eq : rows.length = min limit players.length
  complete : forall other, other ∈ players -> other ∉ rows -> forall row, row ∈ rows ->
    row.Above other

/-- The player table in the order of the leaderboard. -/
theorem pairwise_mergeSort_ranksBefore (players : List PlayerStats) :
    (players.mergeSort PlayerStats.ranksBefore).Pairwise fun first second =>
      first.ranksBefore second = true :=
  List.pairwise_mergeSort PlayerStats.ranksBefore_trans PlayerStats.ranksBefore_total players

namespace Tables

theorem top_board {tables : Tables} (distinct : (tables.players.map PlayerStats.username).Nodup)
    (limit : Nat) : Board tables.players limit (tables.top limit) := by
  have same := List.mergeSort_perm tables.players PlayerStats.ranksBefore
  have distinct' : ((tables.players.mergeSort PlayerStats.ranksBefore).map
      PlayerStats.username).Nodup := (same.map _).nodup_iff.mpr distinct
  have ranked : (tables.players.mergeSort PlayerStats.ranksBefore).Pairwise PlayerStats.Above := by
    refine ((pairwise_mergeSort_ranksBefore tables.players).and (List.Nodup.of_map _ distinct')).imp ?_
    rintro first second ⟨ranks, different⟩
    exact ((PlayerStats.ranksBefore_iff first second).mp ranks).resolve_left different
  have split := List.take_append_drop limit (tables.players.mergeSort PlayerStats.ranksBefore)
  refine ⟨?_, ?_, ?_, ?_, ?_⟩
  · exact fun row listed => same.mem_iff.mp (List.mem_of_mem_take listed)
  · exact distinct'.sublist (List.Sublist.map _ (List.take_sublist _ _))
  · exact ranked.sublist (List.take_sublist _ _)
  · rw [top, List.length_take, List.length_mergeSort]
  · intro other member out row listed
    rw [← same.mem_iff, ← split, List.mem_append] at member
    rw [← split, List.pairwise_append] at ranked
    exact ranked.2.2 row listed other (member.resolve_left out)

/-- A longer leaderboard goes on where a shorter one ends. -/
theorem top_prefix (tables : Tables) {limit larger : Nat} (longer : limit ≤ larger) :
    tables.top limit <+: tables.top larger :=
  List.take_prefix_take_left longer

/-- The order of the rows in the player table does not matter. -/
theorem top_of_perm {tables other : Tables} (same : tables.players.Perm other.players)
    (limit : Nat) : tables.top limit = other.top limit := by
  have sorted : tables.players.mergeSort PlayerStats.ranksBefore =
      other.players.mergeSort PlayerStats.ranksBefore := by
    refine List.Perm.eq_of_pairwise ?_ (pairwise_mergeSort_ranksBefore _)
      (pairwise_mergeSort_ranksBefore _)
      (((List.mergeSort_perm _ _).trans same).trans (List.mergeSort_perm _ _).symm)
    intro first second _ _ ranks ranks'
    rw [PlayerStats.ranksBefore_iff] at ranks ranks'
    rcases ranks with rfl | above
    · rfl
    · exact ranks'.elim Eq.symm fun below => absurd below above.asymm
  rw [top, top, sorted]

end Tables

/-! ## Games in another order -/

/-- The aggregates of games do not depend on their order. -/
theorem aggregate?_of_perm {games other : List GameRecord} (same : games.Perm other)
    (username : String) : aggregate? games username = aggregate? other username := by
  have scores : (scoresOf games username).Perm (scoresOf other username) :=
    (same.filter _).map _
  have best : (scoresOf games username).foldl max 0 = (scoresOf other username).foldl max 0 :=
    scores.foldl_eq' (fun first _ second _ best => max_right_comm best first second) 0
  unfold aggregate?
  rw [scores.length_eq, best]
  refine if_congr ?_ rfl rfl
  rw [← List.length_eq_zero_iff, ← List.length_eq_zero_iff, scores.length_eq]

theorem Tables.Holds.players_perm {tables other : Tables} {games games' : List GameRecord}
    (holds : tables.Holds games) (holds' : other.Holds games') (same : games.Perm games') :
    tables.players.Perm other.players := by
  rw [List.perm_ext_iff_of_nodup (List.Nodup.of_map _ holds.distinct)
    (List.Nodup.of_map _ holds'.distinct)]
  intro row
  rw [holds.mem_players_iff, holds'.mem_players_iff, aggregate?_of_perm same]

namespace Store

/-! ## Names in the log -/

/-- The names of all games are stripped. -/
def Stripped (games : List GameRecord) : Prop :=
  forall game, game ∈ games -> Text.strip game.username = game.username

theorem Stripped.logged {games : List GameRecord} (stripped : Stripped games) (request : Request)
    (answer : Except StoreError Answer) : Stripped (logged games request answer) := by
  unfold Store.logged
  split
  · intro game listed
    rcases List.mem_append.mp listed with before | now
    · exact stripped game before
    · rw [List.mem_singleton.mp now]
      exact Text.strip_strip _
  · exact fun game listed => stripped game (List.mem_filter.mp listed).1
  · exact stripped

theorem logOf_stripped (requests : List Request) (answers : List (Except StoreError Answer)) :
    Stripped (logOf requests answers) := by
  have start : Stripped [] := fun _ listed => absurd listed List.not_mem_nil
  unfold logOf
  generalize [] = games at start ⊢
  induction requests.zip answers generalizing games with
  | nil => exact start
  | cons step rest inductionHypothesis => exact inductionHypothesis _ (start.logged step.1 step.2)

/-- A name with an aggregate is the name of a game. -/
theorem Stripped.of_aggregate? {games : List GameRecord} (stripped : Stripped games)
    {username : String} {row : PlayerStats} (found : aggregate? games username = some row) :
    Text.strip username = username := by
  unfold aggregate? at found
  split at found
  · cases found
  · next played =>
      rcases List.exists_mem_of_ne_nil _ played with ⟨score, listed⟩
      rcases List.mem_map.mp listed with ⟨game, member, _⟩
      rcases List.mem_filter.mp member with ⟨member, named⟩
      exact beq_iff_eq.mp named ▸ stripped game member

/-! ## Requests for the leaderboard -/

theorem top_eq {store : Store} {tables : Tables} (connected : store.tables = .ok tables)
    {limit : Int} (small : limit < integerBound) :
    store.top (.integer limit) = .ok (tables.top (max 0 limit).toNat) := by
  rcases limit_resolves small with ⟨checked, resolved⟩
  unfold top
  rw [checked, connected]
  dsimp only [bind, Except.bind]
  rw [resolved]
  rfl

/-- The leaderboards of two stores with the same games are the same. -/
theorem top_of_same_games {store other : Store} {games games' : List GameRecord}
    (keeps : store.Keeps games) (keeps' : other.Keeps games') (same : games.Perm games')
    (limit : Json) : store.top limit = other.top limit := by
  rcases keeps with ⟨tables, connected, holds⟩
  rcases keeps' with ⟨tables', connected', holds'⟩
  have equal := Tables.top_of_perm (holds.players_perm holds' same)
  unfold top
  rw [connected, connected']
  cases Limit.ofJson limit with
  | error cause => rfl
  | ok limit =>
      dsimp only [bind, Except.bind]
      cases limit.resolve with
      | error cause => rfl
      | ok limit => exact congrArg Except.ok (equal limit)

/-- What an open store that started without games shows as its leaderboard: for every
limit the front of its player table, in the order of the code points and the order of
the bytes of the names, with the rows under which their names are found.  A larger limit
only adds rows.  Any other such store whose log has the same games in whatever order
shows the same; without deletions the log is the list of the recorded games. -/
theorem top_in_total_order (store : Store) (connected : store.tables = .ok Tables.empty)
    (requests : List Request)
    (keepOpen : forall request, request ∈ requests -> request.keepsOpen = true) :
    let reached := (store.serveAll requests).1
    let log := logOf requests (store.serveAll requests).2
    (Exists fun tables => reached.tables = .ok tables ∧
      forall limit : Int, limit < integerBound -> Exists fun rows =>
        reached.top (.integer limit) = .ok rows ∧
          Board tables.players (max 0 limit).toNat rows ∧
          rows.Pairwise (PlayerStats.AboveBy fun name other =>
            Text.textBytes name < Text.textBytes other) ∧
          (forall row, row ∈ rows ->
            reached.player? (.text (CodeText.ofString row.username)) = .ok (some row)) ∧
          forall larger, limit ≤ larger -> larger < integerBound -> Exists fun more =>
            reached.top (.integer larger) = .ok more ∧ rows <+: more) ∧
      forall (other : Store) (requests' : List Request),
        other.tables = .ok Tables.empty ->
          (forall request, request ∈ requests' -> request.keepsOpen = true) ->
          (logOf requests' (other.serveAll requests').2).Perm log ->
          forall limit, (other.serveAll requests').1.top limit = reached.top limit := by
  intro reached log
  have keeps : reached.Keeps log :=
    (serveAll_keeps ⟨Tables.empty, connected, Tables.empty_holds⟩ keepOpen).1
  refine ⟨?_, ?_⟩
  · rcases keeps with ⟨tables, connected', holds⟩
    refine ⟨tables, connected', fun limit small => ?_⟩
    have board := Tables.top_board holds.distinct (max 0 limit).toNat
    refine ⟨_, top_eq connected' small, board, ?_, ?_, ?_⟩
    · exact board.ranked.imp fun above => (PlayerStats.above_iff_bytes _ _).mp above
    · intro row listed
      have found := (holds.mem_players_iff row).mp (board.listed row listed)
      have stripped := (logOf_stripped requests _).of_aggregate? found
      rw [player?_eq_aggregate? ⟨tables, connected', holds⟩ (CodeText.isEncodable_ofString _),
        CodeText.toString_ofString, stripped, found]
    · intro larger longer small'
      exact ⟨_, top_eq connected' small', tables.top_prefix (by omega)⟩
  · intro other requests' connected' keepOpen' same limit
    have keeps' := (serveAll_keeps ⟨Tables.empty, connected', Tables.empty_holds⟩ keepOpen').1
    exact top_of_same_games keeps' keeps same limit

/-- Three players, of whom two differ in their names alone, recorded in two orders; a
limit of two leaves one of them out. -/
theorem top_in_total_order_ties :
    let store : Store := ⟨⟨1, [1], some Tables.empty⟩, false, true, true⟩
    let game (name : String) (score : Int) : Request :=
      .record (.text (CodeText.ofString name)) (.integer score)
    let requests : List Request := [game "é" 3, game "bob" 1, game "z" 3, game "bob" 0]
    let requests' : List Request := [game "bob" 0, game " z " 3, game "bob" 1, game "é" 3]
    store.tables = .ok Tables.empty ∧
      (forall request, request ∈ requests -> request.keepsOpen = true) ∧
      (forall request, request ∈ requests' -> request.keepsOpen = true) ∧
      (logOf requests' (store.serveAll requests').2).Perm
        (logOf requests (store.serveAll requests).2) ∧
      (2 : Int) < integerBound ∧
      (store.serveAll requests').1.top (.integer 2) = (store.serveAll requests).1.top (.integer 2) ∧
      Exists fun rows => (store.serveAll requests).1.top (.integer 2) = .ok rows ∧
        rows.length = 2 ∧ rows.Pairwise PlayerStats.Above := by
  intro store game requests requests'
  have keepOpen : forall request, request ∈ requests -> request.keepsOpen = true := by decide
  have keepOpen' : forall request, request ∈ requests' -> request.keepsOpen = true := by decide
  have log : (logOf requests' (store.serveAll requests').2).Perm
      (logOf requests (store.serveAll requests).2) := by
    decide +kernel
  have told := top_in_total_order store rfl requests keepOpen
  rcases told.1 with ⟨tables, connected, shown⟩
  rcases shown 2 (by decide) with ⟨rows, top, board, _⟩
  have height : (store.serveAll requests).1.tables.map (fun tables => tables.players.length) =
      .ok 3 := by
    decide +kernel
  rw [connected] at height
  have three : tables.players.length = 3 := Except.ok.inj height
  have two : rows.length = 2 := by
    rw [board.length_eq, three]
    rfl
  exact ⟨rfl, keepOpen, keepOpen', log, by decide, told.2 store requests' rfl keepOpen' log _, rows,
    top, two, board.ranked⟩

end Store
end ModalDrill
