import BanchoPrism.Anticheat.Detection
import BanchoPrism.Library.Keyed
import BanchoPrism.Library.Traces

namespace BanchoPrism.Anticheat

open Library

inductive AnticheatFlagStatus
  | OPEN
  | REVIEWING
  | ACTIONED
  | DISMISSED
  deriving DecidableEq

def AnticheatFlagStatus.value : AnticheatFlagStatus → String
  | .OPEN => "open"
  | .REVIEWING => "reviewing"
  | .ACTIONED => "actioned"
  | .DISMISSED => "dismissed"

-- _TERMINAL_STATUSES
def AnticheatFlagStatus.terminal : AnticheatFlagStatus → Bool
  | .ACTIONED | .DISMISSED => true
  | .OPEN | .REVIEWING => false

-- What an analysis says of a score.
structure Detection where
  userId : Int
  mode : Int
  severity : String
  topSignalCode : String
  topSignalTitle : String
  confidence : ℚ
  triggeredCount : Nat
  detail : String
  evidence : List (String × ℚ)
  deriving DecidableEq

-- What a member of staff says of it.
structure Resolution where
  status : AnticheatFlagStatus
  resolvedBy : Option Int
  resolvedAt : Option Int
  resolutionNote : Option String
  deriving DecidableEq

-- A row of anticheat_flags, its columns by who writes them.
structure AnticheatFlag where
  scoreId : Int
  detection : Detection
  resolution : Resolution
  firstFlaggedAt : Int
  lastFlaggedAt : Int
  deriving DecidableEq

structure Log where
  _from : Int
  _to : Int
  action : String
  msg : String
  deriving DecidableEq

def titleMaxLen : Nat := 128

def detailMaxLen : Nat := 512

def noteMaxLen : Nat := 512

def auditMsgMaxLen : Nat := 2048

-- text[:length]
def clip (text : String) (length : Nat) : String := String.ofList (text.toList.take length)

def Detection.trimmed (d : Detection) : Detection :=
  { d with
    topSignalTitle := clip d.topSignalTitle titleMaxLen
    detail := clip d.detail detailMaxLen }

def AnticheatFlag.fresh (scoreId : Int) (d : Detection) (now : Int) : AnticheatFlag where
  scoreId := scoreId
  detection := d.trimmed
  resolution :=
    { status := .OPEN, resolvedBy := none, resolvedAt := none, resolutionNote := none }
  firstFlaggedAt := now
  lastFlaggedAt := now

-- ON DUPLICATE KEY UPDATE
def AnticheatFlag.refreshed (flag : AnticheatFlag) (d : Detection) (now : Int) : AnticheatFlag :=
  { flag with detection := d.trimmed, lastFlaggedAt := now }

-- record, but for the read that follows.
def upsert (flags : List AnticheatFlag) (scoreId : Int) (d : Detection) (now : Int) :
    List AnticheatFlag :=
  upsertBy AnticheatFlag.scoreId flags (AnticheatFlag.fresh scoreId d now) fun flag =>
    flag.refreshed d now

structure Decision where
  scoreId : Int
  status : AnticheatFlagStatus
  resolvedBy : Int
  note : Option String
  deriving DecidableEq

def Decision.resolution (d : Decision) (now : Int) : Resolution where
  status := d.status
  resolvedBy := some d.resolvedBy
  resolvedAt := some now
  resolutionNote := d.note.map fun note => clip note noteMaxLen

-- resolve, but for the read that follows.
def decideFlag (flags : List AnticheatFlag) (d : Decision) (now : Int) : List AnticheatFlag :=
  flags.map fun flag =>
    if flag.scoreId = d.scoreId then { flag with resolution := d.resolution now } else flag

def fetchFlag (flags : List AnticheatFlag) (scoreId : Int) : Option AnticheatFlag :=
  fetchBy AnticheatFlag.scoreId flags scoreId

def auditMessage (flag : AnticheatFlag) (note : Option String) : String :=
  let summary := "score " ++ toString flag.scoreId ++ " [" ++ flag.detection.severity ++ "/" ++
    flag.detection.topSignalCode ++ "]"
  let message :=
    match note with
    | some note => if note = "" then summary else summary ++ ": " ++ note
    | none => summary
  clip message auditMsgMaxLen

def Decision.entry (d : Decision) (flag : AnticheatFlag) : Log where
  _from := d.resolvedBy
  _to := flag.detection.userId
  action := "ac_flag_" ++ d.status.value
  msg := auditMessage flag d.note

-- What observe hands to record once it knows whose score it is.
def AnalysisResult.detection (result : AnalysisResult) (report : DetectionReport)
    (top : DetectionSignal) (userId : Int) : Detection where
  userId := userId
  mode := result.mode
  severity := report.severity.value
  topSignalCode := top.code
  topSignalTitle := top.title
  confidence := top.confidence
  triggeredCount := report.triggered.length
  detail := top.detail
  evidence := top.evidence

-- The statements of observe and of resolve_flag, with what the clock says where one asks it.
inductive Statement
  | fetchScoreUser (result : AnalysisResult) (report : DetectionReport) (top : DetectionSignal)
      (now : Int)
  | upsert (scoreId : Int) (d : Detection) (now : Int)
  | fetchRecorded (scoreId : Int)
  | update (d : Decision) (now : Int)
  | fetchResolved (d : Decision)
  | createLog (entry : Log) (flag : AnticheatFlag)
  -- A score that is gone from the scores table.
  | purge (scoreId : Int)
  deriving DecidableEq

structure Desk where
  flags : List AnticheatFlag
  logs : List Log
  -- scores.userid
  owners : Int → Option Int
  -- What the calls have answered so far.
  answers : List (Option AnticheatFlag)

def Desk.answer (desk : Desk) (answer : Option AnticheatFlag) : Desk :=
  { desk with answers := desk.answers ++ [answer] }

inductive Op
  | observe (result : AnalysisResult) (now : Int)
  | resolve (d : Decision) (now : Int)
  | purge (scoreId : Int)
  deriving DecidableEq

def Op.statements : Op → List Statement
  | .observe result now =>
      match result.top with
      | some (report, top) => [.fetchScoreUser result report top now]
      | none => []
  | .resolve d now => [.update d now]
  | .purge scoreId => [.purge scoreId]

def Statement.perform (statement : Statement) (desk : Desk) : Desk × List Statement :=
  match statement with
  | .fetchScoreUser result report top now =>
      match desk.owners result.scoreId with
      | some userId =>
          (desk, [.upsert result.scoreId (result.detection report top userId) now])
      | none => (desk.answer none, [])
  | .upsert scoreId d now =>
      ({ desk with flags := Anticheat.upsert desk.flags scoreId d now }, [.fetchRecorded scoreId])
  | .fetchRecorded scoreId =>
      match fetchFlag desk.flags scoreId with
      | some flag => (desk.answer (some flag), [])
      | none => (desk, [])
  | .update d now => ({ desk with flags := decideFlag desk.flags d now }, [.fetchResolved d])
  | .fetchResolved d =>
      match fetchFlag desk.flags d.scoreId with
      | some flag =>
          if d.status.terminal then (desk, [.createLog (d.entry flag) flag])
          else (desk.answer (some flag), [])
      | none => (desk.answer none, [])
  | .createLog entry flag =>
      ({ desk with logs := desk.logs ++ [entry] }.answer (some flag), [])
  | .purge scoreId => ({ desk with owners := Function.update desk.owners scoreId none }, [])

abbrev Reviews := Tasks Desk Statement

abbrev Event := Tasks.Event Op

def Reviews.step (t : Reviews) (e : Event) : Reviews :=
  Tasks.step Op.statements Statement.perform t e

end BanchoPrism.Anticheat
