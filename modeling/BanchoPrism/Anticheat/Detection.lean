import Mathlib.Data.Rat.Defs

namespace BanchoPrism.Anticheat

inductive Severity
  | NONE
  | LOW
  | MEDIUM
  | HIGH
  deriving DecidableEq

def Severity.value : Severity → String
  | .NONE => "none"
  | .LOW => "low"
  | .MEDIUM => "medium"
  | .HIGH => "high"

def severityRank : Severity → Nat
  | .NONE => 0
  | .LOW => 1
  | .MEDIUM => 2
  | .HIGH => 3

def maxSeverity (severities : List Severity) : Severity :=
  severities.foldl (fun best s => if severityRank best < severityRank s then s else best) .NONE

structure DetectionSignal where
  code : String
  title : String
  severity : Severity
  confidence : ℚ
  flagged : Bool
  detail : String
  evidence : List (String × ℚ)
  deriving DecidableEq

structure DetectionReport where
  signals : List DetectionSignal
  flagged : Bool
  severity : Severity
  deriving DecidableEq

-- The flagged signals, the strongest first; those that are alike stay in their order.
def DetectionReport.triggered (report : DetectionReport) : List DetectionSignal :=
  (report.signals.filter DetectionSignal.flagged).mergeSort fun a b =>
    severityRank b.severity < severityRank a.severity ||
      (severityRank a.severity = severityRank b.severity && b.confidence ≤ a.confidence)

-- run_detectors, once each of the detectors has looked at the features.
def runDetectors (signals : List DetectionSignal) : DetectionReport :=
  let severity := maxSeverity (signals.map DetectionSignal.severity)
  { signals := signals
    flagged := severityRank .MEDIUM ≤ severityRank severity
    severity := severity }

inductive AnalysisOutcome
  | ANALYZED
  | REPLAY_MISSING
  | ERROR
  deriving DecidableEq

structure AnalysisResult where
  scoreId : Int
  mode : Int
  outcome : AnalysisOutcome
  report : Option DetectionReport
  errorDetail : Option String
  deriving DecidableEq

-- The signal that observe records, when there is something for a reviewer to see.
def AnalysisResult.top (result : AnalysisResult) : Option (DetectionReport × DetectionSignal) :=
  match result.report with
  | none => none
  | some report =>
      if report.flagged then report.triggered.head?.map fun signal => (report, signal) else none

end BanchoPrism.Anticheat
