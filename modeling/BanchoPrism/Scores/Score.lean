import BanchoPrism.Constants.GameMode
import Mathlib.Algebra.Order.Field.Rat
import Mathlib.Data.Rat.Floor

namespace BanchoPrism.Scores

-- Floats are rationals here, and their decimal literals are exact.

inductive Grade
  | N
  | F
  | D
  | C
  | B
  | A
  | S
  | SH
  | X
  | XH
  deriving DecidableEq, Repr

def Grade.value : Grade → Nat
  | N => 0
  | F => 1
  | D => 2
  | C => 3
  | B => 4
  | A => 5
  | S => 6
  | SH => 7
  | X => 8
  | XH => 9

-- grade >= Grade.A, which makes it a key of ModeData.grades
def Grade.counted (grade : Grade) : Bool := Grade.A.value ≤ grade.value

inductive RankedStatus
  | NotSubmitted
  | Pending
  | UpdateAvailable
  | Ranked
  | Approved
  | Qualified
  | Loved
  deriving DecidableEq, Repr

inductive SubmissionStatus
  | FAILED
  | SUBMITTED
  | BEST
  deriving DecidableEq, Repr

def RankedStatus.awardsRankedPp (status : RankedStatus) : Bool :=
  status = .Ranked ∨ status = .Approved

structure Beatmap where
  id : Nat
  md5 : String
  status : RankedStatus
  plays : Int := 0
  passes : Int := 0

namespace Beatmap

def hasLeaderboard (bmap : Beatmap) : Bool :=
  bmap.status = .Ranked ∨ bmap.status = .Approved ∨ bmap.status = .Loved

def awardsRankedPp (bmap : Beatmap) : Bool := bmap.status.awardsRankedPp

end Beatmap

-- What the submission reads of the score that was the best one before.
structure PrevBest where
  score : Int
  grade : Grade

structure Score where
  id : Option Nat := none
  mode : GameMode
  mods : Mods := Mods.NOMOD
  pp : ℚ := 0
  score : Int
  maxCombo : Int
  acc : ℚ := 0
  n300 : Int
  n100 : Int
  n50 : Int
  nmiss : Int
  ngeki : Int
  nkatu : Int
  grade : Grade
  passed : Bool
  status : SubmissionStatus := .FAILED
  timeElapsed : Int := 0
  clientChecksum : String
  rank : Option Nat := none
  prevBest : Option PrevBest := none

structure ModeData where
  tscore : Int := 0
  rscore : Int := 0
  pp : Int := 0
  acc : ℚ := 0
  plays : Int := 0
  playtime : Int := 0
  maxCombo : Int := 0
  totalHits : Int := 0
  rank : Int := 0
  grades : Grade → Int := fun _ => 0

-- The columns that a submission sets in the player's stats row; none is UNSET.
structure ScoreStatsUpdates where
  plays : Int
  playtime : Int
  tscore : Int
  totalHits : Int
  maxCombo : Option Int := none
  grades : Grade → Option Int := fun _ => none
  rscore : Option Int := none
  acc : Option ℚ := none
  pp : Option Int := none

def applyScoreBaseStats (score : Score) (stats : ModeData) : ModeData × ScoreStatsUpdates :=
  let stats :=
    { stats with
      playtime := stats.playtime + score.timeElapsed / 1000
      plays := stats.plays + 1
      tscore := stats.tscore + score.score
      totalHits := stats.totalHits + (score.n300 + score.n100 + score.n50) +
        -- taiko and mania count geki and katu as well
        (if score.mode.asVanilla = 1 ∨ score.mode.asVanilla = 3 then score.ngeki + score.nkatu
          else 0) }
  (stats,
    { plays := stats.plays
      playtime := stats.playtime
      tscore := stats.tscore
      totalHits := stats.totalHits })

def rankedScoreDelta (score : Score) : Int :=
  match score.prevBest with
  | none => score.score
  | some prevBest => score.score - prevBest.score

def gradeCountDeltas (score : Score) : List (Grade × Int) :=
  match score.prevBest with
  | none => if score.grade.counted then [(score.grade, 1)] else []
  | some prevBest =>
      if score.grade = prevBest.grade then []
      else
        (if score.grade.counted then [(score.grade, 1)] else []) ++
          (if prevBest.grade.counted then [(prevBest.grade, -1)] else [])

-- One item of the loop: stats.grades[grade] += delta, and its column
def addGrade (stats : ModeData × ScoreStatsUpdates) (item : Grade × Int) :
    ModeData × ScoreStatsUpdates :=
  let count := stats.1.grades item.1 + item.2
  ({ stats.1 with grades := Function.update stats.1.grades item.1 count },
    { stats.2 with grades := Function.update stats.2.grades item.1 (some count) })

def applyRankedScoreStats (score : Score) (stats : ModeData × ScoreStatsUpdates) :
    ModeData × ScoreStatsUpdates :=
  let stats := (gradeCountDeltas score).foldl addGrade stats
  let rscore := stats.1.rscore + rankedScoreDelta score
  ({ stats.1 with rscore := rscore }, { stats.2 with rscore := some rscore })

-- if score.max_combo > stats.max_combo
def applyMaxCombo (score : Score) (stats : ModeData × ScoreStatsUpdates) :
    ModeData × ScoreStatsUpdates :=
  if score.maxCombo > stats.1.maxCombo then
    ({ stats.1 with maxCombo := score.maxCombo },
      { stats.2 with maxCombo := some score.maxCombo })
  else stats

-- A submission that moves ranked score, grades, pp and accuracy.
def Score.isRankedBest (score : Score) (bmap : Beatmap) : Bool :=
  bmap.awardsRankedPp && score.status = .BEST

def applyScoreStats (score : Score) (bmap : Beatmap) (stats : ModeData) :
    ModeData × ScoreStatsUpdates :=
  let updated := applyScoreBaseStats score stats
  if !score.passed || !bmap.hasLeaderboard then updated
  else
    let updated := applyMaxCombo score updated
    if score.isRankedBest bmap then applyRankedScoreStats score updated else updated

structure ScorePerformanceRow where
  pp : ℚ
  acc : ℚ

-- sum(value * 0.95**i for i, value in enumerate(values))
def weightedSum : List ℚ → ℚ
  | [] => 0
  | value :: rest => value + 19 / 20 * weightedSum rest

-- none is the ZeroDivisionError of a player without best scores
def calculateWeightedAccuracy (bestScores : List ScorePerformanceRow) : Option ℚ :=
  let divisor : ℚ := 20 * (1 - (19 / 20) ^ bestScores.length)
  if divisor = 0 then none
  else some (weightedSum (bestScores.map (·.acc)) * (100 / divisor) / 100)

-- round(), which takes a half to the even neighbour
def roundHalfEven (q : ℚ) : Int :=
  let floor := ⌊q⌋
  if q - floor < 1 / 2 then floor
  else if 1 / 2 < q - floor then floor + 1
  else if floor % 2 = 0 then floor
  else floor + 1

def calculateWeightedPp (bestScores : List ScorePerformanceRow) : Int :=
  roundHalfEven (weightedSum (bestScores.map (·.pp)) +
    4166667 / 10000 * (1 - (4997 / 5000) ^ bestScores.length))

def applyWeightedPerformanceStats (stats : ModeData × ScoreStatsUpdates)
    (bestScores : List ScorePerformanceRow) : Option (ModeData × ScoreStatsUpdates) := do
  let acc ← calculateWeightedAccuracy bestScores
  let pp := calculateWeightedPp bestScores
  return ({ stats.1 with acc := acc, pp := pp }, { stats.2 with acc := some acc, pp := some pp })

def applyBeatmapPlayStats (score : Score) (bmap : Beatmap) : Beatmap :=
  { bmap with
    plays := bmap.plays + 1
    passes := if score.passed then bmap.passes + 1 else bmap.passes }

-- stats.partial_update: the columns that are not UNSET
def partialUpdate (updates : ScoreStatsUpdates) (row : ModeData) : ModeData :=
  { row with
    plays := updates.plays
    playtime := updates.playtime
    tscore := updates.tscore
    totalHits := updates.totalHits
    maxCombo := updates.maxCombo.getD row.maxCombo
    grades := fun grade => (updates.grades grade).getD (row.grades grade)
    rscore := updates.rscore.getD row.rscore
    acc := updates.acc.getD row.acc
    pp := updates.pp.getD row.pp }

end BanchoPrism.Scores
