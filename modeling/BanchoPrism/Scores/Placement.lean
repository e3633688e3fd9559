import BanchoPrism.Scores.Table

namespace BanchoPrism.Scores

open Library

-- What the personal-best query of a leaderboard request shows as the rank.
def Table.personalBestRank (table : Table) (users : Users) (board : Board) : Option Nat :=
  (table.fetchPersonalBestLeaderboardScore board).map fun row =>
    table.fetchPersonalBestLeaderboardRank users board.mapMd5 board.mode row.leaderboardValue

section Placement

variable {table : Table} {users : Users} {sub : Submission} {score : Score} {board : Board}

theorem demote_beats (value : ℚ) (row : ScoreRow) (mapMd5 : String) (mode : GameMode) :
    (Table.demote board row).beats users mapMd5 mode value =
      (row.beats users mapMd5 mode value && !row.isBest board) := by
  unfold Table.demote
  rcases h : row.isBest board with _ | _
  · simp
  · simp [ScoreRow.beats]

theorem demote_isBest (row : ScoreRow) : (Table.demote board row).isBest board = false := by
  unfold Table.demote
  rcases h : row.isBest board with _ | _
  · simpa using h
  · simp [ScoreRow.isBest]

theorem isBest_board {row : ScoreRow} {board : Board} (h : row.isBest board = true) :
    row.status = .BEST ∧ row.board = board := by
  simpa [ScoreRow.isBest] using h

-- The best rows of the other boards stay.
theorem filter_demote {other : Board} (h : other ≠ board) (rows : List ScoreRow) :
    (rows.map (Table.demote board)).filter (·.isBest other) = rows.filter (·.isBest other) := by
  induction rows with
  | nil => rfl
  | cons row rest ih =>
    rw [List.map_cons, List.filter_cons, List.filter_cons, ih]
    by_cases hbest : row.isBest board = true
    · have hother : row.isBest other = false := by
        simp [ScoreRow.isBest, (isBest_board hbest).2, h.symm]
      have hdemoted : (Table.demote board row).isBest other = false := by
        rw [Table.demote, if_pos hbest]
        rfl
      rw [hother, hdemoted]
      rfl
    · have hsame : Table.demote board row = row := if_neg hbest
      rw [hsame]

-- The row a submission inserts, with its id.
def Submission.inserted (sub : Submission) (table : Table) (score : Score) : ScoreRow :=
  { sub.row score with id := table.nextId }

theorem persistRow_best (h : score.status = .BEST) :
    (sub.persistRow table score).rows =
      table.rows.map (Table.demote sub.board) ++ [sub.inserted table score] := by
  simp [Submission.persistRow, h, Table.create, Table.markPreviousBestScoresSubmitted,
    Submission.inserted]

theorem persistRow_other (h : score.status ≠ .BEST) :
    (sub.persistRow table score).rows = table.rows ++ [sub.inserted table score] := by
  simp [Submission.persistRow, h, Table.create, Submission.inserted]

theorem inserted_isBest (hmode : score.mode = sub.score.mode) :
    (sub.inserted table score).isBest sub.board = decide (score.status = .BEST) := by
  simp [Submission.inserted, Submission.row, ScoreRow.isBest, ScoreRow.board, Submission.board,
    hmode]

theorem inserted_leaderboardValue :
    (sub.inserted table score).leaderboardValue = score.metric := rfl

-- A new best row is the only one of its board.
theorem fetchBest_persistRow (hmode : score.mode = sub.score.mode) (h : score.status = .BEST) :
    (sub.persistRow table score).fetchBest sub.board = [sub.inserted table score] := by
  have hdemoted : (table.rows.map (Table.demote sub.board)).filter (·.isBest sub.board) = [] := by
    apply List.filter_eq_nil_iff.mpr
    intro row hrow
    obtain ⟨old, -, rfl⟩ := List.mem_map.mp hrow
    simp [demote_isBest]
  rw [Table.fetchBest, persistRow_best h, List.filter_append, hdemoted]
  simp [inserted_isBest hmode, h]

theorem fetchBest_persistRow_other (h : score.status ≠ .BEST) (board : Board) :
    (sub.persistRow table score).fetchBest board = table.fetchBest board := by
  have hnew : (sub.inserted table score).isBest board = false := by
    simp [ScoreRow.isBest, Submission.inserted, Submission.row, h]
  rw [Table.fetchBest, persistRow_other h, List.filter_append]
  simp [hnew, Table.fetchBest]

-- A visible player's new row is above its own value where the float of the column is.
def Submission.aboveItself (users : Users) (sub : Submission) (score : Score) : Bool :=
  users.unrestricted sub.userId && score.mode.rankedByPp && score.pp < nearestSingle score.pp

theorem inserted_beats (hmode : score.mode = sub.score.mode) (h : score.status = .BEST) :
    (sub.inserted table score).beats users sub.bmap.md5 sub.score.mode score.metric =
      sub.aboveItself users score := by
  unfold ScoreRow.beats ScoreRow.metric Score.metric Submission.aboveItself
  simp only [Submission.inserted, Submission.row, hmode, h]
  cases sub.score.mode.rankedByPp <;> simp

theorem countP_beats_persistRow (hmode : score.mode = sub.score.mode) (h : score.status = .BEST) :
    (sub.persistRow table score).rows.countP
        (·.beats users sub.bmap.md5 sub.score.mode score.metric) =
      (table.rows.countP fun row =>
        row.beats users sub.bmap.md5 sub.score.mode score.metric && !row.isBest sub.board) +
      (sub.aboveItself users score).toNat := by
  rw [persistRow_best h, List.countP_append, List.countP_map, List.countP_singleton,
    inserted_beats hmode h]
  simp only [Function.comp_def, demote_beats]
  cases sub.aboveItself users score <;> rfl

theorem personalBestRank_persistRow (hmode : score.mode = sub.score.mode)
    (h : score.status = .BEST) :
    (sub.persistRow table score).personalBestRank users sub.board =
      some ((table.rows.countP fun row =>
        row.beats users sub.bmap.md5 sub.score.mode score.metric && !row.isBest sub.board) +
          (sub.aboveItself users score).toNat + 1) := by
  rw [Table.personalBestRank, Table.fetchPersonalBestLeaderboardScore,
    fetchBest_persistRow hmode h, Table.topRow, Table.topRow, Option.map_some,
    Table.fetchPersonalBestLeaderboardRank, inserted_leaderboardValue]
  exact congrArg (fun n => some (n + 1)) (countP_beats_persistRow hmode h)

-- The best rows of a visible player that are counted before the submission and not after it.
def ownAbove (table : Table) (users : Users) (sub : Submission) (value : ℚ) : Nat :=
  if users.unrestricted sub.userId then
    (table.fetchBest sub.board).countP fun row => value < row.metric
  else 0

-- The best rows of other visible players that are above what the column holds of the new value,
-- and not above the value.
def othersBetween (table : Table) (users : Users) (sub : Submission) (stored value : ℚ) : Nat :=
  table.rows.countP fun row =>
    row.beats users sub.bmap.md5 sub.score.mode stored && !row.isBest sub.board &&
      !row.beats users sub.bmap.md5 sub.score.mode value

theorem beats_and_isBest (row : ScoreRow) (value : ℚ) :
    (row.beats users sub.bmap.md5 sub.score.mode value && row.isBest sub.board) =
      (row.isBest sub.board && (users.unrestricted sub.userId && decide (value < row.metric))) := by
  rcases hbest : row.isBest sub.board with _ | _
  · simp
  · have hparts : row.status = .BEST ∧ row.board = sub.board := by
      simpa [ScoreRow.isBest] using hbest
    obtain ⟨hstatus, hboard⟩ := hparts
    rw [ScoreRow.board, Submission.board, Board.mk.injEq] at hboard
    obtain ⟨hmap, huser, hmode⟩ := hboard
    simp [ScoreRow.beats, hstatus, hmap, huser, hmode]

theorem countP_own (value : ℚ) :
    (table.rows.countP fun row =>
      row.beats users sub.bmap.md5 sub.score.mode value && row.isBest sub.board) =
        ownAbove table users sub value := by
  simp only [beats_and_isBest]
  unfold ownAbove Table.fetchBest
  rw [List.countP_filter]
  cases users.unrestricted sub.userId
  · simp
  · rw [if_pos rfl]
    exact List.countP_congr fun row _ => by simp [and_comm]

theorem ScoreRow.beats_of_le {row : ScoreRow} {stored value : ℚ} {mapMd5 : String}
    {mode : GameMode} (hle : stored ≤ value) (h : row.beats users mapMd5 mode value = true) :
    row.beats users mapMd5 mode stored = true := by
  simp only [ScoreRow.beats, Bool.and_eq_true, decide_eq_true_eq] at h ⊢
  exact ⟨h.1, hle.trans_lt h.2⟩

-- The others that are above what is stored are those above the value, and those in between.
theorem countP_others {stored value : ℚ} (hle : stored ≤ value) :
    (table.rows.countP fun row =>
        row.beats users sub.bmap.md5 sub.score.mode stored && !row.isBest sub.board) =
      (table.rows.countP fun row =>
        row.beats users sub.bmap.md5 sub.score.mode value && !row.isBest sub.board) +
      othersBetween table users sub stored value := by
  have hsplit := List.countP_eq_countP_filter_add table.rows
    (fun row => row.beats users sub.bmap.md5 sub.score.mode stored && !row.isBest sub.board)
    (·.beats users sub.bmap.md5 sub.score.mode value)
  rw [List.countP_filter, List.countP_filter] at hsplit
  rw [hsplit, othersBetween]
  congr 1
  · refine List.countP_congr fun row _ => ?_
    have habove := @ScoreRow.beats_of_le users row _ _ sub.bmap.md5 sub.score.mode hle
    cases hvalue : row.beats users sub.bmap.md5 sub.score.mode value
    · simp
    · simp [habove hvalue]

theorem countP_split (value : ℚ) :
    table.rows.countP (·.beats users sub.bmap.md5 sub.score.mode value) =
      ownAbove table users sub value +
        table.rows.countP fun row =>
          row.beats users sub.bmap.md5 sub.score.mode value && !row.isBest sub.board := by
  have hsplit := List.countP_eq_countP_filter_add table.rows
    (·.beats users sub.bmap.md5 sub.score.mode value) (·.isBest sub.board)
  rw [List.countP_filter, List.countP_filter, countP_own] at hsplit
  exact hsplit

theorem ppColumn_le {strict : Bool} {q stored : ℚ} (h : ppColumn strict q = some stored)
    (hrounded : thousandths q = q) (hnonneg : 0 ≤ q) : stored ≤ q := by
  unfold ppColumn at h
  rw [hrounded] at h
  split at h
  · cases h
  · obtain rfl := Option.some.inj h
    exact max_le ((neg_nonpos.mpr (by unfold maxPp; norm_num)).trans hnonneg) (min_le_right _ _)

-- A score as its row holds it.
def Score.asStored (score : Score) (pp : ℚ) : Score := { score with pp := pp }

-- The announced rank is the rank on the board exactly when as many rows of the player's own are
-- counted only before the submission as there are rows that are counted only after it.
theorem placement_iff (table : Table) (users : Users) (sub : Submission) (score : Score)
    (strict : Bool) (stored : ℚ) (hmap : sub.bmap.hasLeaderboard)
    (hrounded : ∀ pp ∈ sub.performance, thousandths pp = pp)
    (hscore : sub.calculateScoreSubmissionStatus table users = score) (hbest : score.status = .BEST)
    (hstored : ppColumn strict score.pp = some stored) :
    score.rank = (sub.persistRow table (score.asStored stored)).personalBestRank users sub.board ↔
      ownAbove table users sub score.metric =
        othersBetween table users sub (score.asStored stored).metric score.metric +
          (sub.aboveItself users (score.asStored stored)).toNat := by
  subst hscore
  have hpending : sub.bmap.status ≠ .Pending := by
    intro h
    simp [Beatmap.hasLeaderboard, h] at hmap
  have hrated : sub.score.passed = true ∧
      sub.performance = some (sub.calculateScoreSubmissionStatus table users).pp := by
    cases @Submission.rated_rating sub table users with
    | failed _ hstatus => simp [hstatus] at hbest
    | unavailable _ _ _ hstatus => simp [hstatus] at hbest
    | first hpassed hpp => exact ⟨hpassed, hpp⟩
    | better hpassed hpp => exact ⟨hpassed, hpp⟩
    | worse _ _ _ _ _ _ hstatus => simp [hstatus] at hbest
  obtain ⟨hpassed, hperformance⟩ := hrated
  have hle : stored ≤ (sub.calculateScoreSubmissionStatus table users).pp :=
    ppColumn_le hstored (hrounded _ hperformance) (sub.performance_nonneg _ hperformance)
  generalize hscore : sub.calculateScoreSubmissionStatus table users = score at hbest hle ⊢
  have hmode : score.mode = sub.score.mode := hscore ▸ Submission.rated_mode
  have hmetric : (score.asStored stored).metric ≤ score.metric := by
    change (if score.mode.rankedByPp then stored else (score.score : ℚ)) ≤
      if score.mode.rankedByPp then score.pp else (score.score : ℚ)
    split
    · exact hle
    · exact le_refl _
  have hrank : score.rank = some (table.calculatePlacement users sub.bmap.md5 score) := by
    rw [← hscore]
    exact Submission.rated_rank hpassed (by rw [hperformance]; rfl) hpending
  rw [hrank, @personalBestRank_persistRow table users sub (score.asStored stored) hmode hbest,
    Table.calculatePlacement, hmode, countP_split, countP_others hmetric]
  simp only [Option.some.injEq]
  omega

-- User 1 on a ranked map, with 60 pp for 900,000.
def strongerPlay : Submission :=
  { userId := 1
    bmap := { id := 1, md5 := "m", status := .Ranked }
    performance := some 60
    performance_nonneg := by intro pp h; cases h; decide
    score :=
      { mode := .VANILLA_OSU
        score := 900000
        maxCombo := 100
        n300 := 100
        n100 := 0
        n50 := 0
        nmiss := 0
        ngeki := 0
        nkatu := 0
        grade := .X
        passed := true
        clientChecksum := "b" } }

def onlyUser : Users := fun user => if user = 1 then some 3 else none

theorem placement_iff_firstPlay :
    (strongerPlay.calculateScoreSubmissionStatus .empty onlyUser).rank =
      (strongerPlay.persistRow .empty
        (strongerPlay.calculateScoreSubmissionStatus .empty onlyUser)).personalBestRank
          onlyUser strongerPlay.board :=
  (placement_iff .empty onlyUser strongerPlay _ true 60 (by decide) (by decide +kernel) rfl
    (by decide) (by decide +kernel)).mpr (by decide)

-- The old best had fewer pp and a higher score.
def higherScoreRow : ScoreRow :=
  { id := 1
    mapMd5 := "m"
    score := 1000000
    pp := 50
    acc := 90
    grade := .A
    status := .BEST
    mode := .VANILLA_OSU
    userid := 1
    onlineChecksum := "a" }

def higherScoreTable : Table := Table.empty.create higherScoreRow

-- The player is told #2 and the board shows #1.
theorem placement_higherScore :
    (strongerPlay.calculateScoreSubmissionStatus higherScoreTable onlyUser).status = .BEST ∧
      (strongerPlay.calculateScoreSubmissionStatus higherScoreTable onlyUser).rank = some 2 ∧
      (strongerPlay.persistRow higherScoreTable
        (strongerPlay.calculateScoreSubmissionStatus higherScoreTable onlyUser)).personalBestRank
          onlyUser strongerPlay.board = some 1 := by
  decide

-- 0.1 pp, which the float of 32 bits is above.
def faintPlay : Submission :=
  { strongerPlay with
    performance := some (1 / 10)
    performance_nonneg := by intro pp h; cases h; decide +kernel
    score := { strongerPlay.score with mode := .RELAX_OSU } }

-- The first score of a map is announced as #1, and its own row puts it in the second place.
example : (faintPlay.calculateScoreSubmissionStatus .empty onlyUser).rank = some 1 ∧
    (faintPlay.persistRow .empty
      (faintPlay.calculateScoreSubmissionStatus .empty onlyUser)).personalBestRank onlyUser
        faintPlay.board = some 2 := by
  decide +kernel

end Placement

end BanchoPrism.Scores
