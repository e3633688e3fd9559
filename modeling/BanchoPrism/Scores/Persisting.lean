import BanchoPrism.Library.Prog
import BanchoPrism.Scores.Score

namespace BanchoPrism.Scores

open Library

-- What a database call can raise.
inductive DriverError
  | integrity
  | other (code : Nat)
  deriving DecidableEq, Repr

-- What can end the transaction of a submission.
inductive Failure
  | duplicateScore
  | driver (e : DriverError)
  | assertion
  | key
  | zeroDivision
  | condition (code : Nat)
  deriving DecidableEq, Repr

-- What can leave persist_score_submission.
inductive Raised
  | key
  | transaction (e : Failure)
  | restoreAssertion
  deriving DecidableEq, Repr

structure FirstPlaceScore where
  id : Nat
  name : String

structure Achievement where
  id : Nat
  cond : Score → Nat → Except Nat Bool

-- What every database call of the transaction comes to; each may raise.
structure Database where
  begin_ : Except DriverError Unit := .ok ()
  firstPlace : Except DriverError (Option FirstPlaceScore) := .ok none
  markSubmitted : Except DriverError Unit := .ok ()
  insert : Except DriverError Nat := .ok 1
  select : Nat → Except DriverError (Option Nat) := fun id => .ok (some id)
  bestPerformances : Except DriverError (List ScorePerformanceRow) := .ok []
  updateStats : ScoreStatsUpdates → Except DriverError Unit := fun _ => .ok ()
  updateMap : Int → Int → Except DriverError Unit := fun _ _ => .ok ()
  achievements : Except DriverError (List Achievement) := .ok []
  userAchievements : Except DriverError (List Nat) := .ok []
  createUserAchievement : Nat → Except DriverError Unit := fun _ => .ok ()
  commit : Except DriverError Unit := .ok ()

-- What a submission changes in memory: score.id, player.stats,
-- player.recent_scores (the value of a key may be None) and the beatmap.
@[ext]
structure Memory where
  scoreId : Option Nat
  stats : GameMode → Option ModeData
  recentScores : GameMode → Option (Option Nat)
  bmap : Beatmap

structure ScoreSubmissionStateSnapshot where
  scoreId : Option Nat
  stats : ModeData
  beatmapPlays : Int
  beatmapPasses : Int
  hadRecentScore : Bool
  recentScore : Option Nat

def Memory.setStats (m : Memory) (mode : GameMode) (stats : ModeData) : Memory :=
  { m with stats := Function.update m.stats mode (some stats) }

def Memory.setRecentScore (m : Memory) (mode : GameMode) (recent : Option (Option Nat)) : Memory :=
  { m with recentScores := Function.update m.recentScores mode recent }

def captureScoreSubmissionState (score : Score) :
    Prog Memory Raised ScoreSubmissionStateSnapshot := fun m =>
  match m.stats score.mode with
  | none => (.error .key, m)
  | some stats =>
      (.ok
        { scoreId := m.scoreId
          stats := stats
          beatmapPlays := m.bmap.plays
          beatmapPasses := m.bmap.passes
          hadRecentScore := (m.recentScores score.mode).isSome
          recentScore := (m.recentScores score.mode).getD none }, m)

def restoreRecentScore (score : Score) (snapshot : ScoreSubmissionStateSnapshot) :
    Prog Memory Raised Unit :=
  if snapshot.hadRecentScore then
    match snapshot.recentScore with
    | none => Prog.raise .restoreAssertion
    | some recent => Prog.update fun m => m.setRecentScore score.mode (some (some recent))
  else Prog.update fun m => m.setRecentScore score.mode none

def restoreScoreSubmissionState (score : Score) (snapshot : ScoreSubmissionStateSnapshot) :
    Prog Memory Raised Unit := do
  Prog.update fun m => { m with scoreId := snapshot.scoreId }
  Prog.update fun m => m.setStats score.mode snapshot.stats
  Prog.update fun m => { m with bmap := { m.bmap with plays := snapshot.beatmapPlays } }
  Prog.update fun m => { m with bmap := { m.bmap with passes := snapshot.beatmapPasses } }
  restoreRecentScore score snapshot

section Transaction

variable (db : Database) (restricted : Bool) (score : Score)

def call {α : Type} (result : Except DriverError α) : Prog Memory Failure α :=
  Prog.lift (result.mapError .driver)

def orRaise {α : Type} (e : Failure) : Option α → Prog Memory Failure α
  | some a => Prog.ret a
  | none => Prog.raise e

def scoreShouldAnnounceFirstPlace (bmap : Beatmap) : Bool :=
  score.status = .BEST && bmap.hasLeaderboard && score.rank = some 1 && !restricted

def previousFirstPlace (bmap : Beatmap) : Prog Memory Failure (Option FirstPlaceScore) :=
  if scoreShouldAnnounceFirstPlace restricted score bmap then call db.firstPlace
  else return none

-- ScoresRepository.create: an IntegrityError becomes a DuplicateScoreError
def createScore : Prog Memory Failure Nat := do
  let recId ← Prog.lift (db.insert.mapError fun e =>
    if e = .integrity then .duplicateScore else .driver e)
  let row ← call (db.select recId)
  orRaise .assertion row

def persistSubmittedScore : Prog Memory Failure Nat := do
  Prog.onlyIf (score.status = .BEST) (call db.markSubmitted)
  let scoreId ← createScore db
  Prog.update fun m => { m with scoreId := some scoreId }
  return scoreId

structure ScoreStatsPersistenceResult where
  previousStats : ModeData
  currentStats : ModeData
  shouldUpdateRank : Bool
  isPublicSubmission : Bool

-- The weighted accuracy and pp, when the score moves them.
def persistWeighted (updated : ModeData × ScoreStatsUpdates) (moves : Bool) :
    Prog Memory Failure (ModeData × ScoreStatsUpdates) :=
  if moves then do
    let bestScores ← call db.bestPerformances
    let weighted ← orRaise .zeroDivision (applyWeightedPerformanceStats updated bestScores)
    Prog.update fun m => m.setStats score.mode weighted.1
    return weighted
  else return updated

def persistBeatmapPlayStats : Prog Memory Failure Unit := do
  Prog.update fun m => { m with bmap := applyBeatmapPlayStats score m.bmap }
  let m ← Prog.read
  call (db.updateMap m.bmap.plays m.bmap.passes)

def persistScoreSubmissionStats : Prog Memory Failure ScoreStatsPersistenceResult := do
  let m ← Prog.read
  let previousStats ← orRaise .key (m.stats score.mode)
  let updated := applyScoreStats score m.bmap previousStats
  let moves := score.passed && m.bmap.hasLeaderboard && score.isRankedBest m.bmap
  Prog.update fun m => m.setStats score.mode updated.1
  let updated ← persistWeighted db score updated moves
  call (db.updateStats updated.2)
  Prog.onlyIf (!restricted) (persistBeatmapPlayStats db score)
  return {
    previousStats
    currentStats := updated.1
    shouldUpdateRank := moves
    isPublicSubmission := !restricted }

def unlockAchievement (owned : List Nat) (achievement : Achievement) :
    Prog Memory Failure (List Achievement) :=
  if achievement.id ∈ owned then return []
  else do
    let m ← Prog.read
    let unlocked ← Prog.lift
      ((achievement.cond { score with id := m.scoreId } score.mode.asVanilla).mapError .condition)
    if unlocked then do
      call (db.createUserAchievement achievement.id)
      return [achievement]
    else return []

def unlockEach (owned : List Nat) : List Achievement → Prog Memory Failure (List Achievement)
  | [] => Prog.ret []
  | achievement :: rest => do
      let first ← unlockAchievement db score owned achievement
      let others ← unlockEach owned rest
      return first ++ others

def unlockNewAchievements : Prog Memory Failure (List Achievement) := do
  let serverAchievements ← call db.achievements
  let playerAchievements ← call db.userAchievements
  unlockEach db score playerAchievements serverAchievements

def unlockAchievements (bmap : Beatmap) : Prog Memory Failure (List Achievement) :=
  if score.passed && bmap.awardsRankedPp && !restricted then unlockNewAchievements db score
  else return []

structure ScoreSubmissionPersistenceResult where
  scoreId : Nat
  stats : ScoreStatsPersistenceResult
  previousFirstPlaceScore : Option FirstPlaceScore
  unlockedAchievements : List Achievement

-- The body of async with self.database.transaction()
def transaction : Prog Memory Failure ScoreSubmissionPersistenceResult := do
  call db.begin_
  let m ← Prog.read
  let previousFirstPlaceScore ← previousFirstPlace db restricted score m.bmap
  let scoreId ← persistSubmittedScore db score
  let stats ← persistScoreSubmissionStats db restricted score
  let unlockedAchievements ← unlockAchievements db restricted score m.bmap
  call db.commit
  return { scoreId, stats, previousFirstPlaceScore, unlockedAchievements }

def persistScoreSubmission : Prog Memory Raised ScoreSubmissionPersistenceResult := do
  let snapshot ← captureScoreSubmissionState score
  Prog.handle (transaction db restricted score) fun e => do
    restoreScoreSubmissionState score snapshot
    Prog.raise (.transaction e)

inductive ScoreSubmissionErrorCode
  | BEATMAP_NOT_FOUND
  | PLAYER_NOT_FOUND
  | DUPLICATE_SUBMISSION
  deriving DecidableEq, Repr

-- What submit_score makes of it: a DuplicateScoreError is an answer for the
-- client, anything else goes on.
def submitPersistence :
    Prog Memory Raised (ScoreSubmissionPersistenceResult ⊕ ScoreSubmissionErrorCode) :=
  Prog.attempt
    (do
      let result ← persistScoreSubmission db restricted score
      return .inl result)
    fun e =>
      if e = .transaction .duplicateScore then return .inr .DUPLICATE_SUBMISSION
      else Prog.raise e

end Transaction

end BanchoPrism.Scores
