import BanchoPrism.Anticheat.Flags
import BanchoPrism.Library.Tasks

namespace BanchoPrism.Anticheat

open Library

inductive ReplayAnalysisStatus
  | PENDING
  | ANALYZED
  | REPLAY_MISSING
  | ERROR
  deriving DecidableEq

-- EXTRACTOR_VERSION
def currentExtractorVersion : Int := 2

def errorDetailMaxLen : Nat := 255

-- A row of score_replay_stats. The columns that repeat what the features have are left out.
structure ScoreReplayStats (F : Type) where
  scoreId : Int
  mode : Int
  status : ReplayAnalysisStatus
  extractorVersion : Int
  errorDetail : Option String
  features : Option F
  analyzedAt : Option Int
  deriving DecidableEq

-- What is parsed out of a replay and extracted from it, and what the detectors say of that.
structure Pipeline (F : Type) where
  -- A ReplayParseError, or the features.
  extract : List UInt8 → Int → Except String F
  detect : F → List DetectionSignal
  graded : ∀ features, ∀ signal ∈ detect features,
    signal.flagged = decide (severityRank .MEDIUM ≤ severityRank signal.severity)

structure Score where
  id : Int
  mode : Int
  userid : Int
  deriving DecidableEq

structure QueuedReplay where
  scoreId : Int
  mode : Int
  deriving DecidableEq

section Stats

variable {F : Type}

def markAnalyzed (stats : List (ScoreReplayStats F)) (q : QueuedReplay) (features : F) (now : Int) :
    List (ScoreReplayStats F) :=
  let row : ScoreReplayStats F :=
    { scoreId := q.scoreId
      mode := q.mode
      status := .ANALYZED
      extractorVersion := currentExtractorVersion
      errorDetail := none
      features := some features
      analyzedAt := some now }
  upsertBy ScoreReplayStats.scoreId stats row fun old => { row with scoreId := old.scoreId }

-- A row that is reserved, with the defaults of its columns.
def ScoreReplayStats.blank (q : QueuedReplay) : ScoreReplayStats F where
  scoreId := q.scoreId
  mode := q.mode
  status := .PENDING
  extractorVersion := 0
  errorDetail := none
  features := none
  analyzedAt := none

def markReplayMissing (stats : List (ScoreReplayStats F)) (q : QueuedReplay) :
    List (ScoreReplayStats F) :=
  upsertBy ScoreReplayStats.scoreId stats
    { ScoreReplayStats.blank q with status := .REPLAY_MISSING } fun old =>
      { old with status := .REPLAY_MISSING, mode := q.mode, errorDetail := none }

def markError (stats : List (ScoreReplayStats F)) (q : QueuedReplay) (errorDetail : String) :
    List (ScoreReplayStats F) :=
  let detail := clip errorDetail errorDetailMaxLen
  upsertBy ScoreReplayStats.scoreId stats
    { ScoreReplayStats.blank q with status := .ERROR, errorDetail := some detail } fun old =>
      { old with status := .ERROR, mode := q.mode, errorDetail := some detail }

def fetchStats (stats : List (ScoreReplayStats F)) (scoreId : Int) : Option (ScoreReplayStats F) :=
  fetchBy ScoreReplayStats.scoreId stats scoreId

-- The scores without a row, by id: what fetch_unanalyzed_scores takes a page of.
def unanalyzedScores (scores : List Score) (stats : List (ScoreReplayStats F)) : List Score :=
  (scores.filter fun score => (fetchStats stats score.id).isNone).mergeSort fun a b => a.id ≤ b.id

def fetchUnanalyzedScores (scores : List Score) (stats : List (ScoreReplayStats F)) (limit : Nat)
    (minScoreId : Int) : List Score :=
  ((unanalyzedScores scores stats).filter fun score => minScoreId < score.id).take limit

end Stats

-- What the worker works on. The queue has its head in front, and each entry as _decode reads it:
-- none where it is malformed.
structure Bench (F : Type) where
  scores : List Score
  stats : List (ScoreReplayStats F)
  queue : List (Option QueuedReplay)
  replays : Int → Option (List UInt8)
  flags : List AnticheatFlag
  depth : Nat
  -- What backfill_once has returned so far.
  passes : List Nat

inductive Job
  | consume (now : Int)
  | backfill (batchSize maxBatches : Nat)
  -- A score that is submitted, and put on the queue.
  | submit (score : Score)
  -- The replay of a score that is stored, or gone.
  | replay (scoreId : Int) (bytes : Option (List UInt8))
  deriving DecidableEq

-- What is left to do after each await, and after some steps between that do not await.
inductive Line (F : Type)
  | dequeue (now : Int)
  | readReplay (q : QueuedReplay) (now : Int)
  | markAnalyzed (q : QueuedReplay) (features : F) (now : Int)
  | markReplayMissing (q : QueuedReplay) (now : Int)
  | markError (q : QueuedReplay) (detail : String) (now : Int)
  | fetchMarked (result : AnalysisResult) (now : Int)
  | observe (statement : Statement)
  | page (batchSize : Nat) (cursor : Int) (batches enqueued : Nat)
  | enqueue (score : Score)
  | publishDepth (enqueued : Option Nat)
  | commit (score : Score)
  | replay (scoreId : Int) (bytes : Option (List UInt8))
  deriving DecidableEq

section Lines

variable {F : Type}

def Job.lines : Job → List (Line F)
  | .consume now => [.dequeue now]
  | .backfill batchSize maxBatches => [.page batchSize 0 maxBatches 0]
  | .submit score => [.commit score, .enqueue score]
  | .replay scoreId bytes => [.replay scoreId bytes]

-- What observe sees of the tables.
def Bench.desk (b : Bench F) : Desk where
  flags := b.flags
  logs := []
  owners := fun id => (fetchBy Score.id b.scores id).map Score.userid
  answers := []

def Pipeline.report (p : Pipeline F) (features : F) : DetectionReport :=
  runDetectors (p.detect features)

def Pipeline.analyzed (p : Pipeline F) (q : QueuedReplay) (features : F) : AnalysisResult where
  scoreId := q.scoreId
  mode := q.mode
  outcome := .ANALYZED
  report := some (p.report features)
  errorDetail := none

def replayMissing (q : QueuedReplay) : AnalysisResult where
  scoreId := q.scoreId
  mode := q.mode
  outcome := .REPLAY_MISSING
  report := none
  errorDetail := none

def decodeFailed (q : QueuedReplay) (detail : String) : AnalysisResult where
  scoreId := q.scoreId
  mode := q.mode
  outcome := .ERROR
  report := none
  errorDetail := some detail

def Bench.push (b : Bench F) (score : Score) : Bench F :=
  { b with queue := some { scoreId := score.id, mode := score.mode } :: b.queue }

-- An id that no score and no analysis has had.
def Bench.fresh (b : Bench F) (id : Int) : Bool :=
  (fetchBy Score.id b.scores id).isNone && (fetchStats b.stats id).isNone

def Line.perform (p : Pipeline F) (line : Line F) (b : Bench F) : Bench F × List (Line F) :=
  match line with
  | dequeue now =>
      match b.queue.getLast? with
      | none => (b, [publishDepth none])
      | some none => ({ b with queue := b.queue.dropLast }, [publishDepth none])
      | some (some q) => ({ b with queue := b.queue.dropLast }, [readReplay q now])
  | readReplay q now =>
      match b.replays q.scoreId with
      | none => (b, [markReplayMissing q now])
      | some bytes =>
          match p.extract bytes q.mode with
          | .ok features => (b, [markAnalyzed q features now])
          | .error e => (b, [markError q ("replay decode failed: " ++ e) now])
  | markAnalyzed q features now =>
      ({ b with stats := Anticheat.markAnalyzed b.stats q features now },
        [fetchMarked (p.analyzed q features) now])
  | markReplayMissing q now =>
      ({ b with stats := Anticheat.markReplayMissing b.stats q }, [fetchMarked (replayMissing q) now])
  | markError q detail now =>
      ({ b with stats := Anticheat.markError b.stats q detail },
        [fetchMarked (decodeFailed q detail) now])
  | fetchMarked result now =>
      (b, (Op.observe result now).statements.map observe ++ [publishDepth none])
  | observe statement =>
      ({ b with flags := (statement.perform b.desk).1.flags },
        (statement.perform b.desk).2.map observe)
  | page batchSize cursor batches enqueued =>
      match batches with
      | 0 => (b, [publishDepth (some enqueued)])
      | batches + 1 =>
          let pending := fetchUnanalyzedScores b.scores b.stats batchSize cursor
          match pending.getLast? with
          | none => (b, [publishDepth (some enqueued)])
          | some last =>
              (b, pending.map enqueue ++
                if pending.length < batchSize then [publishDepth (some (enqueued + pending.length))]
                else [page batchSize last.id batches (enqueued + pending.length)])
  | enqueue score => (b.push score, [])
  | publishDepth enqueued =>
      ({ b with depth := b.queue.length, passes := b.passes ++ enqueued.toList }, [])
  | commit score => (if b.fresh score.id then { b with scores := b.scores ++ [score] } else b, [])
  | replay scoreId bytes => ({ b with replays := Function.update b.replays scoreId bytes }, [])

end Lines

abbrev Work (F : Type) := Tasks (Bench F) (Line F)

abbrev Move := Tasks.Move Job

-- An iteration that fails leaves everything as it is.
def Work.step {F : Type} (p : Pipeline F) (t : Work F) (e : Move) : Work F :=
  Tasks.move Job.lines (Line.perform p) (fun _ b => b) t e

section Alone

variable {F : Type}

def Bench.publish (b : Bench F) (enqueued : Option Nat) : Bench F :=
  { b with depth := b.queue.length, passes := b.passes ++ enqueued.toList }

-- analyze_score, when nothing comes between its steps.
def Bench.analyzeScore (p : Pipeline F) (b : Bench F) (q : QueuedReplay) (now : Int) :
    Bench F × AnalysisResult :=
  match b.replays q.scoreId with
  | none => ({ b with stats := markReplayMissing b.stats q }, replayMissing q)
  | some bytes =>
      match p.extract bytes q.mode with
      | .ok features => ({ b with stats := markAnalyzed b.stats q features now }, p.analyzed q features)
      | .error e =>
          let detail := "replay decode failed: " ++ e
          ({ b with stats := markError b.stats q detail }, decodeFailed q detail)

def Bench.observed (b : Bench F) (result : AnalysisResult) (now : Int) : Bench F :=
  match result.top with
  | none => b
  | some (report, top) =>
      match (fetchBy Score.id b.scores result.scoreId).map Score.userid with
      | none => b
      | some userId =>
          { b with flags := upsert b.flags result.scoreId (result.detection report top userId) now }

-- consume_once
def Bench.consumeOnce (p : Pipeline F) (b : Bench F) (now : Int) : Bench F :=
  match b.queue.getLast? with
  | none => b.publish none
  | some none => Bench.publish { b with queue := b.queue.dropLast } none
  | some (some q) =>
      let (b, result) := Bench.analyzeScore p { b with queue := b.queue.dropLast } q now
      (b.observed result now).publish none

-- The loop of backfill_once over its pages, and how many scores it has put on the queue.
def Bench.backfillFrom (batchSize : Nat) : Nat → Int → Nat → Bench F → Bench F × Nat
  | 0, _, enqueued, b => (b, enqueued)
  | batches + 1, cursor, enqueued, b =>
      let pending := fetchUnanalyzedScores b.scores b.stats batchSize cursor
      match pending.getLast? with
      | none => (b, enqueued)
      | some last =>
          let pushed := pending.foldl Bench.push b
          if pending.length < batchSize then (pushed, enqueued + pending.length)
          else backfillFrom batchSize batches last.id (enqueued + pending.length) pushed

def Bench.backfillOnce (b : Bench F) (batchSize maxBatches : Nat) : Bench F :=
  let (b, enqueued) := backfillFrom batchSize maxBatches 0 0 b
  b.publish (some enqueued)

open Tasks (Alone)

theorem publish_alone (p : Pipeline F) (b : Bench F) (enqueued : Option Nat) :
    Alone (Line.perform p) b [.publishDepth enqueued] (b.publish enqueued) :=
  Alone.cons (Alone.nil _)

theorem marked_alone (p : Pipeline F) (b : Bench F) (result : AnalysisResult) (now : Int) :
    Alone (Line.perform p) b [.fetchMarked result now] ((b.observed result now).publish none) := by
  refine Alone.cons ?_
  simp only [Line.perform, Op.statements, Bench.observed, List.append_nil]
  refine Alone.append ?_ (publish_alone p _ none)
  cases htop : result.top with
  | none => exact Alone.nil b
  | some found =>
    obtain ⟨report, top⟩ := found
    refine Alone.cons ?_
    simp only [Line.perform, Statement.perform, Bench.desk]
    cases howner : (fetchBy Score.id b.scores result.scoreId).map Score.userid with
    | none => exact Alone.nil b
    | some userId =>
      refine Alone.cons (Alone.cons ?_)
      simp only [Line.perform, Statement.perform, Bench.desk]
      split <;> exact Alone.nil _

theorem consume_alone (p : Pipeline F) (b : Bench F) (now : Int) :
    Alone (Line.perform p) b [.dequeue now] (b.consumeOnce p now) := by
  refine Alone.cons ?_
  simp only [Line.perform, Bench.consumeOnce]
  cases hlast : b.queue.getLast? with
  | none => exact publish_alone p b none
  | some entry =>
    cases entry with
    | none => exact publish_alone p _ none
    | some q =>
      refine Alone.cons ?_
      simp only [Line.perform, Bench.analyzeScore]
      cases hread : b.replays q.scoreId with
      | none => exact Alone.cons (marked_alone p _ _ now)
      | some bytes =>
        dsimp only
        cases hextract : p.extract bytes q.mode with
        | ok features => exact Alone.cons (marked_alone p _ _ now)
        | error e => exact Alone.cons (marked_alone p _ _ now)

theorem enqueue_alone (p : Pipeline F) (pending : List Score) (b : Bench F) :
    Alone (Line.perform p) b (pending.map Line.enqueue) (pending.foldl Bench.push b) := by
  induction pending generalizing b with
  | nil => exact Alone.nil b
  | cons score rest ih => exact Alone.cons (ih (b.push score))

theorem backfillFrom_alone (p : Pipeline F) (batchSize batches : Nat) (cursor : Int)
    (enqueued : Nat) (b : Bench F) :
    Alone (Line.perform p) b [.page batchSize cursor batches enqueued]
      ((Bench.backfillFrom batchSize batches cursor enqueued b).1.publish
        (some (Bench.backfillFrom batchSize batches cursor enqueued b).2)) := by
  induction batches generalizing cursor enqueued b with
  | zero => exact Alone.cons (publish_alone p b (some enqueued))
  | succ batches ih =>
    refine Alone.cons ?_
    simp only [Line.perform, Bench.backfillFrom]
    cases hlast : (fetchUnanalyzedScores b.scores b.stats batchSize cursor).getLast? with
    | none => exact publish_alone p b (some enqueued)
    | some last =>
      dsimp only
      rw [List.append_nil]
      refine (enqueue_alone p _ b).append ?_
      split
      · exact publish_alone p _ _
      · exact ih last.id _ _

-- A pass that nothing comes between is backfill_once.
theorem backfill_alone (p : Pipeline F) (b : Bench F) (batchSize maxBatches : Nat) :
    Alone (Line.perform p) b [.page batchSize 0 maxBatches 0]
      (b.backfillOnce batchSize maxBatches) := backfillFrom_alone p batchSize maxBatches 0 0 b

end Alone

end BanchoPrism.Anticheat
