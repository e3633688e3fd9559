import BanchoPrism.Constants.Privileges
import BanchoPrism.Library.Floats
import BanchoPrism.Scores.Score
import Mathlib.Data.List.Nodup

namespace BanchoPrism.Scores

open Library

-- round(x, 3)
def thousandths (q : ℚ) : ℚ := roundEven (1000 * q) / 1000

def maxPp : ℚ := 9999999 / 1000

-- What the column pp float(7, 3) makes of a value: one that is too large is refused in strict mode,
-- and is else taken for the largest.
def ppColumn (strict : Bool) (q : ℚ) : Option ℚ :=
  if strict ∧ maxPp < |thousandths q| then none
  else some (max (-maxPp) (min maxPp (thousandths q)))

-- A row of the scores table, with the columns that a query here reads; pp is what is read of it.
structure ScoreRow where
  id : Nat
  mapMd5 : String
  score : Int
  pp : ℚ
  acc : ℚ
  grade : Grade
  status : SubmissionStatus
  mode : GameMode
  userid : Nat
  onlineChecksum : String
  deriving DecidableEq

-- What a score row is for: one user on one beatmap in one mode.
structure Board where
  mapMd5 : String
  userId : Nat
  mode : GameMode
  deriving DecidableEq

def ScoreRow.board (row : ScoreRow) : Board := ⟨row.mapMd5, row.userid, row.mode⟩

def ScoreRow.isBest (board : Board) (row : ScoreRow) : Bool :=
  row.status = .BEST && row.board = board

-- The scores table; id is its primary key.
structure Table where
  rows : List ScoreRow
  nextId : Nat
  ids_lt : ∀ row ∈ rows, row.id < nextId
  ids_nodup : (rows.map (·.id)).Nodup

namespace Table

def empty : Table where
  rows := []
  nextId := 1
  ids_lt _ h := by cases h
  ids_nodup := List.nodup_nil

def fetchOne (table : Table) (id : Nat) : Option ScoreRow := table.rows.find? (·.id = id)

-- fetch_many(user_id, map_md5, mode, status=BEST)
def fetchBest (table : Table) (board : Board) : List ScoreRow :=
  table.rows.filter (·.isBest board)

def demote (board : Board) (row : ScoreRow) : ScoreRow :=
  if row.isBest board then { row with status := .SUBMITTED } else row

@[simp] theorem demote_id (board : Board) (row : ScoreRow) : (demote board row).id = row.id := by
  unfold demote
  split <;> rfl

def markPreviousBestScoresSubmitted (table : Table) (board : Board) : Table where
  rows := table.rows.map (demote board)
  nextId := table.nextId
  ids_lt := by
    intro row hrow
    obtain ⟨old, hold, rfl⟩ := List.mem_map.mp hrow
    rw [demote_id]
    exact table.ids_lt old hold
  ids_nodup := by
    have hids : (table.rows.map (demote board)).map (·.id) = table.rows.map (·.id) := by simp
    rw [hids]
    exact table.ids_nodup

-- The row is given the next id.
def create (table : Table) (row : ScoreRow) : Table where
  rows := table.rows ++ [{ row with id := table.nextId }]
  nextId := table.nextId + 1
  ids_lt := by
    intro r hr
    rcases List.mem_append.mp hr with h | h
    · have := table.ids_lt r h
      omega
    · rw [List.mem_singleton.mp h]
      exact Nat.lt_succ_self _
  ids_nodup := by
    rw [List.map_append, List.map_singleton]
    apply List.Nodup.append table.ids_nodup (List.nodup_singleton _)
    intro id hid hnew
    obtain ⟨r, hr, rfl⟩ := List.mem_map.mp hid
    have hlt := table.ids_lt r hr
    have heq : r.id = table.nextId := List.mem_singleton.mp hnew
    omega

def deleteManyByMapMd5s (table : Table) (mapMd5s : List String) : Table where
  rows := table.rows.filter (·.mapMd5 ∉ mapMd5s)
  nextId := table.nextId
  ids_lt row hrow := table.ids_lt row (List.mem_of_mem_filter hrow)
  ids_nodup := table.ids_nodup.sublist (List.filter_sublist.map _)

theorem fetchOne_of_mem {table : Table} {row : ScoreRow} (h : row ∈ table.rows) :
    table.fetchOne row.id = some row := by
  unfold fetchOne
  rcases hfind : table.rows.find? (·.id = row.id) with _ | found
  · have := List.find?_eq_none.mp hfind row h
    simp at this
  · have hmem := List.mem_of_find?_eq_some hfind
    have hid : found.id = row.id := by simpa using List.find?_some hfind
    rw [hfind, List.inj_on_of_nodup_map table.ids_nodup hmem h hid]

end Table

-- The users table: the privileges of a user that has a row.
abbrev Users : Type := Nat → Option Privileges

def Users.unrestricted (users : Users) (userId : Nat) : Bool :=
  match users userId with
  | some priv => priv.has Privileges.UNRESTRICTED
  | none => false

-- mode >= GameMode.RELAX_OSU ranks by pp, the others by score. What a query compares and orders by
-- is the float of 32 bits that the column pp holds.
def ScoreRow.metric (row : ScoreRow) : ℚ :=
  if row.mode.rankedByPp then nearestSingle row.pp else row.score

-- What is read of the row.
def ScoreRow.leaderboardValue (row : ScoreRow) : ℚ :=
  if row.mode.rankedByPp then row.pp else row.score

def Score.metric (score : Score) : ℚ := if score.mode.rankedByPp then score.pp else score.score

-- The rows that the two placement queries count.
def ScoreRow.beats (users : Users) (mapMd5 : String) (mode : GameMode) (value : ℚ)
    (row : ScoreRow) : Bool :=
  row.mapMd5 = mapMd5 && row.mode = mode && row.status = .BEST && users.unrestricted row.userid &&
    decide (value < row.metric)

namespace Table

-- Score.calculate_placement
def calculatePlacement (table : Table) (users : Users) (mapMd5 : String) (score : Score) : Nat :=
  table.rows.countP (·.beats users mapMd5 score.mode score.metric) + 1

def fetchPersonalBestLeaderboardRank (table : Table) (users : Users) (mapMd5 : String)
    (mode : GameMode) (value : ℚ) : Nat :=
  table.rows.countP (·.beats users mapMd5 mode value) + 1

-- ORDER BY the metric DESC LIMIT 1
def topRow : List ScoreRow → Option ScoreRow
  | [] => none
  | row :: rest =>
      match topRow rest with
      | none => some row
      | some best => if row.metric < best.metric then some best else some row

def fetchPersonalBestLeaderboardScore (table : Table) (board : Board) : Option ScoreRow :=
  topRow (table.fetchBest board)

end Table

def Score.calculateAccuracy (score : Score) : ℚ :=
  match score.mode.asVanilla with
  | 0 =>
      let total := score.n300 + score.n100 + score.n50 + score.nmiss
      if total = 0 then 0
      else 100 * (score.n300 * 300 + score.n100 * 100 + score.n50 * 50) / (total * 300)
  | 1 =>
      let total := score.n300 + score.n100 + score.nmiss
      if total = 0 then 0 else 100 * (score.n100 * (1 / 2) + score.n300) / total
  | 2 =>
      let total := score.n300 + score.n100 + score.n50 + score.nkatu + score.nmiss
      if total = 0 then 0 else 100 * (score.n300 + score.n100 + score.n50) / total
  | _ =>
      let total :=
        score.n300 + score.n100 + score.n50 + score.ngeki + score.nkatu + score.nmiss
      if total = 0 then 0
      else if score.mods.has Mods.SCOREV2 then
        100 * (score.n50 * 50 + score.n100 * 100 + score.nkatu * 200 + score.n300 * 300 +
          score.ngeki * 305) / (total * 305)
      else
        100 * (score.n50 * 50 + score.n100 * 100 + score.nkatu * 200 +
          (score.n300 + score.ngeki) * 300) / (total * 300)

-- A score as a request brings it. The calculator rates it from the beatmap
-- file, when that can be had; it gives no negative pp.
structure Submission where
  userId : Nat
  bmap : Beatmap
  score : Score
  performance : Option ℚ
  performance_nonneg : ∀ pp ∈ performance, 0 ≤ pp
  scoreTime : Int := 0
  failTime : Int := 0

namespace Submission

variable (sub : Submission)

def board : Board := ⟨sub.bmap.md5, sub.userId, sub.score.mode⟩

-- Score.calculate_status
def calculateStatus (table : Table) (score : Score) : Score :=
  match table.fetchBest sub.board with
  | [] => { score with status := .BEST }
  | rec :: _ =>
      let prevBest := (table.fetchOne rec.id).map fun row =>
        { score := row.score, grade := row.grade }
      { score with
        prevBest := prevBest
        status := if rec.pp < score.pp then .BEST else .SUBMITTED }

-- The score as it is before the beatmap file is asked for; a new Score has no
-- id, rank or previous best.
def unrated : Score :=
  { sub.score with
    id := none
    rank := none
    prevBest := none
    acc := sub.score.calculateAccuracy
    pp := 0
    status := if sub.score.passed then .SUBMITTED else .FAILED }

def placed (table : Table) (users : Users) (score : Score) : Score :=
  if sub.bmap.status ≠ .Pending then
    { score with rank := some (table.calculatePlacement users sub.bmap.md5 score) }
  else score

def rated (table : Table) (users : Users) : Score :=
  match sub.performance with
  | none => sub.unrated
  | some pp =>
      let score := { sub.unrated with pp := pp }
      if score.passed then sub.placed table users (sub.calculateStatus table score)
      else { score with status := .FAILED }

-- calculate_score_submission_status
def calculateScoreSubmissionStatus (table : Table) (users : Users) : Score :=
  { sub.rated table users with
    timeElapsed := if sub.score.passed then sub.scoreTime else sub.failTime }

-- The row that scores.create inserts for the score.
def row (score : Score) : ScoreRow :=
  { id := 0
    mapMd5 := sub.bmap.md5
    score := score.score
    pp := score.pp
    acc := score.acc
    grade := score.grade
    status := score.status
    mode := score.mode
    userid := sub.userId
    onlineChecksum := score.clientChecksum }

-- What the committed transaction does to the table: persist_submitted_score.
def persistRow (table : Table) (score : Score) : Table :=
  if score.status = .BEST then
    (table.markPreviousBestScoresSubmitted sub.board).create (sub.row score)
  else table.create (sub.row score)

section Rated

variable {sub : Submission} {table : Table} {users : Users}

-- Rating changes none of what the client sent.
theorem rated_sent :
    (sub.calculateScoreSubmissionStatus table users).mode = sub.score.mode ∧
      (sub.calculateScoreSubmissionStatus table users).score = sub.score.score ∧
      (sub.calculateScoreSubmissionStatus table users).grade = sub.score.grade ∧
      (sub.calculateScoreSubmissionStatus table users).passed = sub.score.passed := by
  unfold calculateScoreSubmissionStatus rated unrated placed calculateStatus
  dsimp only
  repeat' split
  all_goals exact ⟨rfl, rfl, rfl, rfl⟩

@[simp] theorem rated_mode :
    (sub.calculateScoreSubmissionStatus table users).mode = sub.score.mode := rated_sent.1

@[simp] theorem rated_score :
    (sub.calculateScoreSubmissionStatus table users).score = sub.score.score := rated_sent.2.1

@[simp] theorem rated_grade :
    (sub.calculateScoreSubmissionStatus table users).grade = sub.score.grade := rated_sent.2.2.1

@[simp] theorem rated_passed :
    (sub.calculateScoreSubmissionStatus table users).passed = sub.score.passed :=
  rated_sent.2.2.2

-- Why a rated score has the status it has.
inductive Rating (sub : Submission) (table : Table) (score : Score) : Prop
  | failed (hpassed : sub.score.passed = false) (hstatus : score.status = .FAILED)
  | unavailable (hpassed : sub.score.passed = true) (hnone : sub.performance = none)
      (hpp : score.pp = 0) (hstatus : score.status = .SUBMITTED)
  | first (hpassed : sub.score.passed = true) (hpp : sub.performance = some score.pp)
      (hbest : table.fetchBest sub.board = []) (hprev : score.prevBest = none)
      (hstatus : score.status = .BEST)
  | better (hpassed : sub.score.passed = true) (hpp : sub.performance = some score.pp)
      (rec : ScoreRow) (rest : List ScoreRow) (hbest : table.fetchBest sub.board = rec :: rest)
      (hlt : rec.pp < score.pp) (hprev : score.prevBest = some ⟨rec.score, rec.grade⟩)
      (hstatus : score.status = .BEST)
  | worse (hpassed : sub.score.passed = true) (hpp : sub.performance = some score.pp)
      (rec : ScoreRow) (rest : List ScoreRow) (hbest : table.fetchBest sub.board = rec :: rest)
      (hle : score.pp ≤ rec.pp) (hstatus : score.status = .SUBMITTED)

theorem fetchOne_head {rec : ScoreRow} {rest : List ScoreRow} {board : Board}
    (h : table.fetchBest board = rec :: rest) : table.fetchOne rec.id = some rec := by
  apply Table.fetchOne_of_mem
  have hmem : rec ∈ table.fetchBest board := by simp [h]
  exact List.mem_of_mem_filter hmem

theorem rated_rating : Rating sub table (sub.calculateScoreSubmissionStatus table users) := by
  rcases hpassed : sub.score.passed with _ | _
  · apply Rating.failed hpassed
    rcases hperf : sub.performance with _ | pp
      <;> simp [calculateScoreSubmissionStatus, rated, unrated, hperf, hpassed]
  rcases hperf : sub.performance with _ | pp
  · apply Rating.unavailable hpassed hperf <;>
      simp [calculateScoreSubmissionStatus, rated, unrated, hperf, hpassed]
  have hrated : sub.calculateScoreSubmissionStatus table users =
      { sub.placed table users (sub.calculateStatus table { sub.unrated with pp := pp }) with
        timeElapsed := sub.scoreTime } := by
    simp [calculateScoreSubmissionStatus, rated, unrated, hperf, hpassed]
  have hplaced : ∀ score : Score, (sub.placed table users score).pp = score.pp ∧
      (sub.placed table users score).status = score.status ∧
        (sub.placed table users score).prevBest = score.prevBest := by
    intro score
    unfold placed
    split <;> exact ⟨rfl, rfl, rfl⟩
  obtain ⟨hpp, hstatus, hprev⟩ := hplaced (sub.calculateStatus table { sub.unrated with pp := pp })
  rw [hrated]
  rcases hbest : table.fetchBest sub.board with _ | ⟨rec, rest⟩
  · have hcalc : sub.calculateStatus table { sub.unrated with pp := pp } =
        { sub.unrated with pp := pp, status := .BEST } := by
      simp [calculateStatus, hbest]
    rw [hcalc] at hpp hstatus hprev
    rw [hcalc]
    exact Rating.first hpassed (hperf.trans (congrArg some hpp.symm)) hbest hprev hstatus
  have hcalc : sub.calculateStatus table { sub.unrated with pp := pp } =
      { sub.unrated with
        pp := pp
        prevBest := some ⟨rec.score, rec.grade⟩
        status := if rec.pp < pp then .BEST else .SUBMITTED } := by
    simp [calculateStatus, hbest, fetchOne_head hbest]
  by_cases hlt : rec.pp < pp
  · rw [if_pos hlt] at hcalc
    rw [hcalc] at hpp hstatus hprev
    rw [hcalc]
    exact Rating.better hpassed (hperf.trans (congrArg some hpp.symm)) rec rest hbest
      (hlt.trans_eq hpp.symm) hprev hstatus
  · rw [if_neg hlt] at hcalc
    rw [hcalc] at hpp hstatus hprev
    rw [hcalc]
    exact Rating.worse hpassed (hperf.trans (congrArg some hpp.symm)) rec rest hbest
      (hpp.trans_le (not_lt.mp hlt)) hstatus

theorem rated_rank (hpassed : sub.score.passed = true) (hperf : sub.performance.isSome)
    (hmap : sub.bmap.status ≠ .Pending) :
    (sub.calculateScoreSubmissionStatus table users).rank =
      some (table.calculatePlacement users sub.bmap.md5
        (sub.calculateScoreSubmissionStatus table users)) := by
  obtain ⟨pp, hperf⟩ := Option.isSome_iff_exists.mp hperf
  simp [calculateScoreSubmissionStatus, rated, unrated, hperf, hpassed, placed, hmap,
    Table.calculatePlacement, Score.metric]

end Rated

end Submission

end BanchoPrism.Scores
