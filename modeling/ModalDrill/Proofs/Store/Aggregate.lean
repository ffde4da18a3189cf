import ModalDrill.Store.Tables

namespace ModalDrill

/-!
# The player table is an aggregate of the games

The two tables repeat each other: a player has a row as long as there is a game
under the same name, and the row holds the number of these games and the best
of their scores.  The aggregate of a list of games is defined here on its own,
and both writes of the store keep the player table equal to it.
-/

/-! ## The aggregate of a list of games -/

/-- The scores under one name, oldest first. -/
def scoresOf (games : List GameRecord) (username : String) : List Int :=
  (games.filter fun game => game.username == username).map GameRecord.score

/-- The number of games under one name and the best score, which is not below
zero; nothing without a game. -/
def aggregate? (games : List GameRecord) (username : String) : Option PlayerStats :=
  if scoresOf games username = [] then none
  else some ⟨username, (scoresOf games username).length, (scoresOf games username).foldl max 0⟩

theorem scoresOf_append_self (games : List GameRecord) (username : String) (score : Int) :
    scoresOf (games ++ [⟨username, score⟩]) username = scoresOf games username ++ [score] := by
  unfold scoresOf
  rw [List.filter_append, List.map_append]
  simp only [List.filter_cons, beq_self_eq_true, if_true, List.filter_nil, List.map_cons,
    List.map_nil]

theorem scoresOf_append_other (games : List GameRecord) {username other : String}
    (different : username ≠ other) (score : Int) :
    scoresOf (games ++ [⟨username, score⟩]) other = scoresOf games other := by
  unfold scoresOf
  rw [List.filter_append]
  simp only [List.filter_cons, beq_eq_false_iff_ne.mpr different, Bool.false_eq_true, if_false,
    List.filter_nil, List.append_nil]

theorem scoresOf_remove_self (games : List GameRecord) (username : String) :
    scoresOf (games.filter fun game => game.username != username) username = [] := by
  unfold scoresOf
  rw [List.filter_filter, List.map_eq_nil_iff, List.filter_eq_nil_iff]
  intro game _
  rw [Bool.and_eq_true, beq_iff_eq, bne_iff_ne]
  exact fun both => both.2 both.1

theorem scoresOf_remove_other (games : List GameRecord) {username other : String}
    (different : username ≠ other) :
    scoresOf (games.filter fun game => game.username != username) other = scoresOf games other := by
  unfold scoresOf
  rw [List.filter_filter]
  apply congrArg
  apply List.filter_congr
  intro game _
  cases same : game.username == other with
  | false => rfl
  | true =>
      rw [beq_iff_eq.mp same, Bool.true_and, bne_iff_ne]
      exact different.symm

/-- The row of a player with one more game. -/
def countedOnce (username : String) (score : Int) : Option PlayerStats -> PlayerStats
  | none => ⟨username, 1, max 0 score⟩
  | some stats => ⟨username, stats.timesPlayed + 1, max stats.highestScore (max 0 score)⟩

private theorem le_foldl_max (scores : List Int) (least : Int) :
    least ≤ scores.foldl max least := by
  induction scores generalizing least with
  | nil => exact Int.le_refl least
  | cons score rest inductionHypothesis =>
      exact Int.le_trans (Int.le_max_left least score) (inductionHypothesis (max least score))

theorem aggregate?_append_self (games : List GameRecord) (username : String) (score : Int) :
    aggregate? (games ++ [⟨username, score⟩]) username =
      some (countedOnce username score (aggregate? games username)) := by
  unfold aggregate?
  rw [scoresOf_append_self, if_neg (by simp only [List.append_eq_nil_iff, List.cons_ne_nil,
    and_false, not_false_eq_true]), List.length_append, List.length_singleton, List.foldl_append]
  cases scores : scoresOf games username with
  | nil => rfl
  | cons first rest =>
      rw [if_neg (List.cons_ne_nil first rest)]
      have nonneg := le_foldl_max (first :: rest) 0
      have best : max ((first :: rest).foldl max 0) score =
          max ((first :: rest).foldl max 0) (max 0 score) := by omega
      simp only [countedOnce, List.foldl_nil, List.foldl_cons] at best ⊢
      rw [best]

theorem aggregate?_append_other (games : List GameRecord) {username other : String}
    (different : username ≠ other) (score : Int) :
    aggregate? (games ++ [⟨username, score⟩]) other = aggregate? games other := by
  unfold aggregate?
  rw [scoresOf_append_other games different]

theorem aggregate?_isSome (games : List GameRecord) (username : String) :
    (aggregate? games username).isSome = !(scoresOf games username).isEmpty := by
  unfold aggregate?
  cases scoresOf games username <;> rfl

/-- The games under a name are the name with each of its scores. -/
theorem filter_username_eq (games : List GameRecord) (username : String) :
    games.filter (fun game => game.username == username) =
      (scoresOf games username).map (GameRecord.mk username) := by
  rw [scoresOf, List.map_map]
  refine ((List.map_congr_left ?_).trans (List.map_id _)).symm
  intro game listed
  have named := beq_iff_eq.mp (List.mem_filter.mp listed).2
  rw [Function.comp_apply, ← named]
  rfl

/-! ## The player table -/

theorem find?_countGame_self (username : String) (points : Int) (players : List PlayerStats) :
    (countGame username points players).find? (fun stats => stats.username == username) =
      some (match players.find? fun stats => stats.username == username with
        | none => ⟨username, 1, points⟩
        | some stats => ⟨username, stats.timesPlayed + 1, max stats.highestScore points⟩) := by
  induction players with
  | nil => simp only [countGame, List.find?_cons, beq_self_eq_true, List.find?_nil]
  | cons stats rest inductionHypothesis =>
      by_cases same : stats.username = username
      · have found : (stats.username == username) = true := beq_iff_eq.mpr same
        simp only [countGame, if_pos same, List.find?_cons, beq_self_eq_true, found]
      · have skipped : (stats.username == username) = false := beq_eq_false_iff_ne.mpr same
        simp only [countGame, if_neg same, List.find?_cons, skipped]
        exact inductionHypothesis

theorem find?_countGame_other {username other : String} (different : username ≠ other)
    (points : Int) (players : List PlayerStats) :
    (countGame username points players).find? (fun stats => stats.username == other) =
      players.find? fun stats => stats.username == other := by
  have skipped : (username == other) = false := beq_eq_false_iff_ne.mpr different
  induction players with
  | nil => simp only [countGame, List.find?_cons, skipped, List.find?_nil]
  | cons stats rest inductionHypothesis =>
      by_cases same : stats.username = username
      · rw [countGame, if_pos same, List.find?_cons, List.find?_cons, same]
        simp only [skipped]
      · rw [countGame, if_neg same, List.find?_cons, List.find?_cons, inductionHypothesis]

theorem map_username_countGame (username : String) (points : Int) (players : List PlayerStats) :
    (countGame username points players).map PlayerStats.username =
      if username ∈ players.map PlayerStats.username then players.map PlayerStats.username
      else players.map PlayerStats.username ++ [username] := by
  induction players with
  | nil => rfl
  | cons stats rest inductionHypothesis =>
      by_cases same : stats.username = username
      · rw [countGame, if_pos same, if_pos (by rw [List.map_cons, same]; exact List.mem_cons_self)]
        simp only [List.map_cons, same]
      · rw [countGame, if_neg same, List.map_cons, inductionHypothesis, List.map_cons]
        have listed : username ∈ stats.username :: rest.map PlayerStats.username ↔
            username ∈ rest.map PlayerStats.username := by
          rw [List.mem_cons]
          exact or_iff_right fun head => same head.symm
        by_cases member : username ∈ rest.map PlayerStats.username
        · rw [if_pos member, if_pos (listed.mpr member)]
        · rw [if_neg member, if_neg fun member' => member (listed.mp member')]
          rfl

/-- No name is counted twice. -/
theorem nodup_countGame (username : String) (points : Int) {players : List PlayerStats}
    (distinct : (players.map PlayerStats.username).Nodup) :
    ((countGame username points players).map PlayerStats.username).Nodup := by
  rw [map_username_countGame]
  split
  · exact distinct
  · next fresh =>
      rw [List.nodup_append]
      refine ⟨distinct, List.pairwise_singleton _ username, ?_⟩
      intro name listed last member same
      rw [List.mem_singleton.mp member] at same
      exact fresh (same ▸ listed)

/-- A row is found by its name, which no other row has. -/
theorem find?_of_mem {players : List PlayerStats}
    (distinct : (players.map PlayerStats.username).Nodup) {row : PlayerStats}
    (listed : row ∈ players) :
    (players.find? fun stats => stats.username == row.username) = some row := by
  induction players with
  | nil => cases listed
  | cons stats rest inductionHypothesis =>
      rw [List.map_cons, List.nodup_cons] at distinct
      rw [List.find?_cons]
      rcases List.mem_cons.mp listed with same | later
      · rw [same, beq_self_eq_true]
      · have different : stats.username ≠ row.username := by
          intro same
          exact distinct.1 (same ▸ List.mem_map_of_mem later)
        rw [beq_eq_false_iff_ne.mpr different]
        exact inductionHypothesis distinct.2 later

theorem storable_iff (value : Int) :
    storable value = true ↔ -integerBound ≤ value ∧ value < integerBound := by
  rw [storable, Bool.and_eq_true, decide_eq_true_iff, decide_eq_true_iff]

/-- A score of a session is never below zero. -/
theorem storable_natCast {value : Nat} (small : (value : Int) < integerBound) :
    storable value = true := by
  rw [storable_iff]
  unfold integerBound at small ⊢
  omega

namespace Tables

/-- Both writes of a game, as far as its numbers can be stored. -/
def added (tables : Tables) (username : String) (score : Int) : Tables where
  players := countGame username (max 0 score) tables.players
  games := tables.games ++ [⟨username, score⟩]

theorem player?_added_self (tables : Tables) (username : String) (score : Int) :
    (tables.added username score).player? username =
      some (countedOnce username score (tables.player? username)) := by
  rw [player?, added, find?_countGame_self, player?]
  cases tables.players.find? fun stats => stats.username == username <;> rfl

theorem player?_added_other (tables : Tables) {username other : String}
    (different : username ≠ other) (score : Int) :
    (tables.added username score).player? other = tables.player? other :=
  find?_countGame_other different (max 0 score) tables.players

/-- The second write fails with every score with which the first one fails, so
a game is added as a whole or not at all. -/
theorem record_eq (tables : Tables) (username : String) (score : Int) :
    tables.record username score =
      if storable score then .ok (tables.added username score) else .error .integerOutOfRange := by
  unfold record countPlayer appendGame
  by_cases fits : storable score = true
  · have counted : storable (max 0 score) = true := by
      rw [storable_iff] at fits ⊢
      unfold integerBound at fits ⊢
      omega
    rw [if_pos fits, if_pos counted]
    dsimp only
    rw [if_pos fits]
    rfl
  · rw [if_neg fits]
    by_cases counted : storable (max 0 score) = true
    · rw [if_pos counted]
      exact if_neg fits
    · rw [if_neg counted]

/-- The tables hold a list of games: one of them as it is, the other one its
aggregate. -/
structure Holds (tables : Tables) (games : List GameRecord) : Prop where
  games_eq : tables.games = games
  player?_eq : forall username, tables.player? username = aggregate? games username
  distinct : (tables.players.map PlayerStats.username).Nodup

/-- A row is in the player table exactly if it is the aggregate of its name. -/
theorem Holds.mem_players_iff {tables : Tables} {games : List GameRecord}
    (holds : tables.Holds games) (row : PlayerStats) :
    row ∈ tables.players ↔ aggregate? games row.username = some row := by
  rw [← holds.player?_eq, player?]
  exact ⟨find?_of_mem holds.distinct, List.mem_of_find?_eq_some⟩

theorem empty_holds : empty.Holds [] where
  games_eq := rfl
  player?_eq := fun _ => rfl
  distinct := List.nodup_nil

theorem Holds.added {tables : Tables} {games : List GameRecord} (holds : tables.Holds games)
    (username : String) (score : Int) :
    (tables.added username score).Holds (games ++ [⟨username, score⟩]) where
  games_eq := by
    rw [Tables.added, holds.games_eq]
  player?_eq := by
    intro other
    by_cases same : username = other
    · subst other
      rw [player?_added_self, holds.player?_eq, aggregate?_append_self]
    · rw [player?_added_other tables same, holds.player?_eq, aggregate?_append_other games same]
  distinct := nodup_countGame username (max 0 score) holds.distinct

theorem Holds.remove {tables : Tables} {games : List GameRecord} (holds : tables.Holds games)
    (username : String) :
    (tables.remove username).Holds (games.filter fun game => game.username != username) where
  games_eq := congrArg (List.filter _) holds.games_eq
  player?_eq := by
    intro other
    have before := holds.player?_eq other
    unfold player? at before ⊢
    rw [Tables.remove, List.find?_filter]
    by_cases same : username = other
    · subst other
      rw [aggregate?, if_pos (scoresOf_remove_self games username), List.find?_eq_none]
      intro stats _
      rw [decide_eq_true_iff, bne_iff_ne, beq_iff_eq]
      exact fun both => both.1 both.2
    · rw [aggregate?, scoresOf_remove_other games same]
      refine Eq.trans (congrArg (tables.players.find? ·) (funext fun stats => ?_)) before
      rw [Bool.eq_iff_iff, decide_eq_true_iff, bne_iff_ne, beq_iff_eq]
      refine and_iff_right_of_imp fun named => ?_
      rw [named]
      exact fun back => same back.symm
  distinct := holds.distinct.sublist (List.Sublist.map _ List.filter_sublist)

end Tables
end ModalDrill
