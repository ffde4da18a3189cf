import ModalDrill.Proofs.Shell.Act
import ModalDrill.Proofs.Store.Leaderboard
import ModalDrill.Proofs.Store.Names
import ModalDrill.Proofs.Text.Columns

namespace ModalDrill

/-!
# The printed leaderboard

No field of the table is wider than its column, the ranks included: there are never more
than ten.  So every column ends at the same offset in all lines, and nothing is cut.  A
row tells its player: the numbers are the words that end at the ends of their columns,
and the name is what is left before the first of them, since a stored name ends in no
blank.
-/

namespace Leaderboard

/-! ## One line -/

/-- The offset at which the column of the games ends. -/
def playedEnd (widths : Widths) : Nat :=
  rankWidth + 1 + widths.name + 1 + widths.played

/-- The length of a line. -/
def lineLength (widths : Widths) : Nat :=
  playedEnd widths + 1 + widths.best

/-- Fields that are no wider than their columns. -/
structure Fits (widths : Widths) (rank name played best : List Char) : Prop where
  rank_le : rank.length ≤ rankWidth
  name_le : name.length ≤ widths.name
  played_le : played.length ≤ widths.played
  best_le : best.length ≤ widths.best

/-- Where the fields stand in a line: the rank ends before the space at offset 2, the name
starts at offset 3, the games end at an offset of their own and the best score at the end. -/
structure Placed (gamesEnd : Nat) (rank name played best line : List Char) : Prop where
  inside : gamesEnd ≤ line.length
  rank_to : line.take 3 = Text.alignRight 2 rank ++ [' ']
  name_from : name <+: line.drop 3
  played_to : played <:+ line.take gamesEnd
  best_to : best <:+ line

namespace Fits

variable {widths : Widths} {rank name played best : List Char}

theorem length_row (fits : Fits widths rank name played best) :
    (row widths rank name played best).length = lineLength widths := by
  simp only [row, List.length_append, List.length_cons, Text.length_alignRight fits.rank_le,
    Text.length_alignLeft fits.name_le, Text.length_alignRight fits.played_le,
    Text.length_alignRight fits.best_le, lineLength, playedEnd]
  omega

/-- The line up to the end of the games. -/
theorem take_playedEnd (fits : Fits widths rank name played best) :
    (row widths rank name played best).take (playedEnd widths) =
      Text.alignRight rankWidth rank ++ ' ' :: Text.alignLeft widths.name name ++
        ' ' :: Text.alignRight widths.played played := by
  refine List.take_left' ?_
  simp only [List.length_append, List.length_cons, Text.length_alignRight fits.rank_le,
    Text.length_alignLeft fits.name_le, Text.length_alignRight fits.played_le, playedEnd]
  omega

/-- The same from the name on. -/
theorem drop_take_playedEnd (fits : Fits widths rank name played best) :
    ((row widths rank name played best).take (playedEnd widths)).drop 3 =
      Text.alignLeft widths.name name ++ ' ' :: Text.alignRight widths.played played := by
  rw [fits.take_playedEnd, List.append_assoc, List.cons_append,
    List.append_cons (Text.alignRight rankWidth rank)]
  refine List.drop_left' ?_
  rw [List.length_append, Text.length_alignRight fits.rank_le]
  rfl

theorem placed (fits : Fits widths rank name played best) :
    Placed (playedEnd widths) rank name played best (row widths rank name played best) where
  inside := by
    rw [fits.length_row, lineLength]
    omega
  rank_to := by
    rw [row, List.append_assoc, List.append_assoc, List.cons_append, List.append_cons]
    refine List.take_left' ?_
    rw [List.length_append, Text.length_alignRight fits.rank_le]
    rfl
  name_from := by
    have from_name :
        name <+: ((row widths rank name played best).take (playedEnd widths)).drop 3 := by
      rw [fits.drop_take_playedEnd]
      exact (Text.prefix_alignLeft widths.name name).trans (List.prefix_append _ _)
    rw [List.drop_take] at from_name
    exact from_name.trans (List.take_prefix _ _)
  played_to := by
    rw [fits.take_playedEnd, List.append_cons]
    exact (Text.suffix_alignRight widths.played played).trans (List.suffix_append _ _)
  best_to := by
    rw [row, List.append_cons]
    exact (Text.suffix_alignRight widths.best best).trans (List.suffix_append _ _)

end Fits

/-! ## Reading a line -/

/-- What a line tells about a player, by the offsets of its columns alone. -/
def readRow (gamesEnd : Nat) (line : List Char) : PlayerStats where
  username := String.ofList (Text.beforeLastWord ((line.take gamesEnd).drop 3))
  timesPlayed := Text.numeralValue (Text.lastWord (line.take gamesEnd))
  highestScore := Text.signedValue (Text.lastWord line)

/-- A row whose name ends in no space is read as its player. -/
theorem readRow_playerRow {widths : Widths} {rank : Nat} {stats : PlayerStats}
    (fits : Fits widths (Text.numeral rank) (nameOf stats) (playedOf stats) (bestOf stats))
    (ended : ((nameOf stats).rdropWhile fun c => c == ' ') = nameOf stats) :
    readRow (playedEnd widths) (playerRow widths rank stats) = stats := by
  have games : Text.Unspaced (playedOf stats) := Text.numeral_unspaced stats.timesPlayed
  have score : Text.Unspaced (bestOf stats) := Text.signedNumeral_unspaced stats.highestScore
  have name_eq : Text.beforeLastWord
      (((playerRow widths rank stats).take (playedEnd widths)).drop 3) = nameOf stats := by
    rw [playerRow, fits.drop_take_playedEnd, Text.beforeLastWord_alignLeft games ended]
  have played_eq : Text.lastWord ((playerRow widths rank stats).take (playedEnd widths)) =
      playedOf stats := by
    rw [playerRow, fits.take_playedEnd, Text.lastWord_alignRight games]
  have best_eq : Text.lastWord (playerRow widths rank stats) = bestOf stats := by
    rw [playerRow, row, Text.lastWord_alignRight score]
  rw [readRow, name_eq, played_eq, best_eq, nameOf, String.ofList_toList, playedOf,
    Text.numeralValue_numeral, bestOf, Text.signedValue_signedNumeral]

/-! ## The whole table -/

theorem le_foldl_max (lengths : List Nat) (least : Nat) :
    least ≤ lengths.foldl max least ∧
      forall length, length ∈ lengths -> length ≤ lengths.foldl max least := by
  induction lengths generalizing least with
  | nil => exact ⟨Nat.le_refl least, fun _ listed => absurd listed List.not_mem_nil⟩
  | cons first rest inductionHypothesis =>
      rcases inductionHypothesis (max least first) with ⟨more, others⟩
      refine ⟨by rw [List.foldl_cons]; omega, ?_⟩
      intro length listed
      rcases List.mem_cons.mp listed with rfl | later
      · rw [List.foldl_cons]
        omega
      · exact others length later

theorem length_title_le (title : List Char) (entries : List (List Char)) :
    title.length ≤ columnWidth title entries :=
  (le_foldl_max _ _).1

theorem length_le_columnWidth (title : List Char) {entries : List (List Char)} {entry : List Char}
    (listed : entry ∈ entries) : entry.length ≤ columnWidth title entries :=
  (le_foldl_max _ _).2 _ (List.mem_map_of_mem listed)

theorem fits_header (players : List PlayerStats) :
    Fits (widths players) ['#'] nameTitle playedTitle bestTitle where
  rank_le := by decide
  name_le := length_title_le nameTitle _
  played_le := length_title_le playedTitle _
  best_le := length_title_le bestTitle _

/-- Fewer than a hundred ranks fit into two characters. -/
theorem fits_player_at {players : List PlayerStats} (few : players.length < 100) {place : Nat}
    {stats : PlayerStats} (found : players[place]? = some stats) :
    Fits (widths players) (Text.numeral (place + 1)) (nameOf stats) (playedOf stats)
      (bestOf stats) where
  rank_le := by
    rcases List.getElem?_eq_some_iff.mp found with ⟨inside, _⟩
    have small : place + 1 < 10 ^ 2 := by omega
    exact (Nat.length_toDigits_le_iff (by decide) (by decide)).mpr small
  name_le := length_le_columnWidth nameTitle (List.mem_map_of_mem (List.mem_of_getElem? found))
  played_le := length_le_columnWidth playedTitle (List.mem_map_of_mem (List.mem_of_getElem? found))
  best_le := length_le_columnWidth bestTitle (List.mem_map_of_mem (List.mem_of_getElem? found))

/-- The ranks of the rows count up. -/
theorem playerRows_eq_mapIdx (widths : Widths) (rank : Nat) (players : List PlayerStats) :
    playerRows widths rank players =
      players.mapIdx fun place stats => playerRow widths (rank + place) stats := by
  induction players generalizing rank with
  | nil => rfl
  | cons stats rest inductionHypothesis =>
      rw [playerRows, List.mapIdx_cons, inductionHypothesis]
      simp only [Nat.add_zero, Nat.add_assoc, Nat.add_comm 1]

/-- A table of players: the header and all rows have their fields at the same offsets and
are equally long, and the ranks count up from one. -/
structure Aligned (players : List PlayerStats) (gamesEnd : Nat) (header rule : List Char)
    (rows : List (List Char)) : Prop where
  header_placed : Placed gamesEnd ['#'] nameTitle playedTitle bestTitle header
  rule_eq : rule = List.replicate header.length '-'
  rows_length : rows.length = players.length
  row_placed : forall (place : Nat) (stats : PlayerStats), players[place]? = some stats ->
    Exists fun line => rows[place]? = some line ∧ line.length = header.length ∧
      Placed gamesEnd (Text.numeral (place + 1)) (nameOf stats) (playedOf stats) (bestOf stats) line

theorem table_aligned {players : List PlayerStats} (few : players.length < 100) :
    Aligned players (playedEnd (widths players)) (header (widths players))
      (rule (widths players)) (playerRows (widths players) 1 players) where
  header_placed := (fits_header players).placed
  rule_eq := rfl
  rows_length := by rw [playerRows_eq_mapIdx, List.length_mapIdx]
  row_placed := by
    intro place stats found
    have fits := fits_player_at few found
    refine ⟨playerRow (widths players) (place + 1) stats, ?_, ?_, fits.placed⟩
    · rw [playerRows_eq_mapIdx, List.getElem?_mapIdx, found, Option.map_some, Nat.add_comm]
    · exact fits.length_row.trans (fits_header players).length_row.symm

theorem readRow_playerRows {players : List PlayerStats} (few : players.length < 100)
    (stripped : forall stats, stats ∈ players -> Text.strip stats.username = stats.username) :
    (playerRows (widths players) 1 players).map (readRow (playedEnd (widths players))) =
      players := by
  refine List.ext_getElem? fun place => ?_
  rw [List.getElem?_map, playerRows_eq_mapIdx, List.getElem?_mapIdx]
  cases found : players[place]? with
  | none => rfl
  | some stats =>
      have ended := Text.rdropWhile_of_strip (stripped stats (List.mem_of_getElem? found))
      rw [Option.map_some, Option.map_some, Nat.add_comm,
        readRow_playerRow (fits_player_at few found) ended]

end Leaderboard

namespace Store

/-- The leaderboard of the usual length, of a store with players: some of them, and no
more than ten. -/
theorem top_defaultLimit {store : Store} {tables : Tables} (connected : store.tables = .ok tables)
    (filled : tables.players ≠ []) :
    Exists fun players => store.top defaultLimit = .ok players ∧ players ≠ [] ∧
      players.length ≤ 10 ∧ forall stats, stats ∈ players -> stats ∈ tables.players := by
  refine ⟨tables.top 10, top_eq connected (by decide), ?_, ?_, ?_⟩
  · have nonempty := List.length_pos_iff.mpr filled
    refine List.length_pos_iff.mp ?_
    rw [Tables.top, List.length_take, List.length_mergeSort]
    omega
  · exact List.length_take_le 10 _
  · exact fun stats listed => (List.mergeSort_perm _ _).mem_iff.mp (List.mem_of_mem_take listed)

end Store

namespace Shell

theorem leads_showLeaderboard_of_players (delay : Delay) {desk : Desk} {players : List PlayerStats}
    (answered : desk.service.leaderboard defaultLimit = .ok players) :
    Leads (showLeaderboard delay) desk
      (fun _ later => desk.Said (leaderboardMessages players) later)
      (fun _ _ => Exists fun message => ¬ delay.Passes message) := by
  unfold showLeaderboard
  refine leads_get ?_
  rw [answered]
  refine (leads_printAll delay (leaderboardMessages players) desk).weaken (fun _ _ said => said) ?_
  rintro _ later ⟨_, _, _, message, _, stopped⟩
  exact ⟨message, stopped⟩

/-- The leaderboard of a store with players, as it is printed: the title, a header, a rule
and a row for each player, in the order of the leaderboard and with the ranks from one on.
All lines are equally long, their fields stand at the same offsets, and none is cut.
Where the names are stripped, as they are in every store that was filled by requests, the
rows are read as the players by these offsets. -/
theorem showLeaderboard_prints_table {delay : Delay}
    (passes : forall message, delay.Passes message) {desk : Desk} {tables : Tables}
    (connected : desk.service.store.tables = .ok tables) (filled : tables.players ≠ []) :
    Exists fun players => Exists fun header => Exists fun rule => Exists fun rows =>
      Exists fun gamesEnd => Exists fun later =>
        desk.service.leaderboard defaultLimit = .ok players ∧ players ≠ [] ∧
          (showLeaderboard delay).run desk = .ok () later ∧
          desk.Said (.leaderboardTitle :: (header :: rule :: rows).map .tableRow) later ∧
          Leaderboard.Aligned players gamesEnd header rule rows ∧
          forall (start : Store) (requests : List Store.Request), start.database.NamesStripped ->
            desk.service.store = (start.serveAll requests).1 ->
            rows.map (Leaderboard.readRow gamesEnd) = players := by
  rcases Store.top_defaultLimit connected filled with ⟨players, answered, nonempty, few, listed⟩
  have leads := (leads_showLeaderboard_of_players delay answered).outcome
  have shown : leaderboardMessages players =
      .leaderboardTitle :: (Leaderboard.table players).map .tableRow := by
    rw [leaderboardMessages, if_neg (by rwa [List.isEmpty_iff])]
  cases result : (showLeaderboard delay).run desk with
  | error cause later =>
      rw [result] at leads
      rcases leads with ⟨message, stopped⟩
      exact absurd (passes message) stopped
  | ok value later =>
      rw [result] at leads
      dsimp only at leads
      rw [shown] at leads
      refine ⟨players, _, _, _, _, later, answered, nonempty, rfl, leads,
        Leaderboard.table_aligned (by omega), ?_⟩
      intro start requests begun stored
      refine Leaderboard.readRow_playerRows (by omega) fun stats member => ?_
      have stripped := Store.serveAll_namesStripped begun requests
      rw [← stored] at stripped
      exact Store.namesStripped_of_tables stripped connected stats (listed stats member)

/-- Two players, of whom one has a number in the name. -/
theorem showLeaderboard_prints_table_of_two :
    let game (name : String) (score : Int) : Store.Request :=
      .record (.text (CodeText.ofString name)) (.integer score)
    let start : Store := ⟨⟨1, [1], some Tables.empty⟩, false, true, true⟩
    let requests : List Store.Request := [game "bob" (-2), game " ann 12 " 3, game "bob" 100000]
    let desk : Desk := Desk.new (Service.new ⟨[[]], [⟨"q", "", ["dd"]⟩]⟩ (.whole 60)
      (Sampler.rotation 0) (start.serveAll requests).1) fun _ => Sampler.rotation 0
    let delay : Delay := fun _ => []
    let tables : Tables := ⟨[⟨"bob", 2, 100000⟩, ⟨"ann 12", 1, 3⟩],
      [⟨"bob", -2⟩, ⟨"ann 12", 3⟩, ⟨"bob", 100000⟩]⟩
    (forall message, delay.Passes message) ∧ desk.service.store.tables = .ok tables ∧
      tables.players ≠ [] ∧ start.database.NamesStripped ∧
      Exists fun rows => Exists fun gamesEnd => Exists fun later =>
        (showLeaderboard delay).run desk = .ok () later ∧
          (Exists fun header => Exists fun rule =>
            desk.Said (.leaderboardTitle :: (header :: rule :: rows).map .tableRow) later) ∧
          rows.map (Leaderboard.readRow gamesEnd) = [⟨"bob", 2, 100000⟩, ⟨"ann 12", 1, 3⟩] := by
  intro game start requests desk delay tables
  have passes : forall message, delay.Passes message := fun _ _ _ listed => nomatch listed
  have connected : desk.service.store.tables = .ok tables := by decide +kernel
  have filled : tables.players ≠ [] := List.cons_ne_nil _ _
  have begun : start.database.NamesStripped := by
    intro tables same
    rw [← Option.some.inj same]
    exact Tables.empty_namesStripped
  have sorted : tables.players.mergeSort PlayerStats.ranksBefore = tables.players :=
    List.mergeSort_of_pairwise (by decide)
  have order : desk.service.leaderboard defaultLimit = .ok tables.players := by
    rw [Service.leaderboard, defaultLimit, Store.top_eq connected (by decide), Tables.top, sorted]
    rfl
  rcases showLeaderboard_prints_table passes connected filled with
    ⟨players, header, rule, rows, gamesEnd, later, answered, -, run, said, -, read⟩
  rw [order] at answered
  refine ⟨passes, connected, filled, begun, rows, gamesEnd, later, run, ⟨header, rule, said⟩, ?_⟩
  exact (read start requests begun rfl).trans (Except.ok.inj answered).symm

end Shell
end ModalDrill
