import BanchoPrism.Library.Floats
import BanchoPrism.Library.Json
import BanchoPrism.Library.Mapping

namespace BanchoPrism.Anticheat

open Library

inductive SegmentKind
  | JUMP
  | STREAM
  | IDLE
  deriving DecidableEq

def SegmentKind.value : SegmentKind → String
  | .JUMP => "jump"
  | .STREAM => "stream"
  | .IDLE => "idle"

section Records

variable (F : Type)

structure Distribution where
  n : Int
  mean : F
  std : F
  p10 : F
  p25 : F
  p50 : F
  p75 : F
  p90 : F
  p99 : F
  max : F

structure SegmentStats where
  kind : SegmentKind
  n : Int
  arc : Distribution F
  vel : Distribution F
  overshoot : Distribution F
  dt : Distribution F

structure RoboticTapRun where
  startMs : Int
  endMs : Int
  tapCount : Int
  dtMs : Int

structure StraightRun where
  startMs : Int
  frameCount : Int
  distance : F

structure ConstantVelocityRun where
  startMs : Int
  frameCount : Int
  velocity : F

structure FrozenSpan where
  startMs : Int
  x : F
  y : F
  frameCount : Int

-- A tuple is an array, and a list of a document is a list.
structure ReplayFeatures where
  frameCount : Int
  durationMs : Int
  tapCount : Int
  usesKeyboard : Bool
  hold : Distribution F
  jump : SegmentStats F
  stream : SegmentStats F
  idle : SegmentStats F
  roboticTapRuns : Array RoboticTapRun
  straightRuns : Array (StraightRun F)
  constantVelocityRuns : Array (ConstantVelocityRun F)
  frozenSpans : Array (FrozenSpan F)
  totalPath : F
  straightLineDisplacement : F
  tortuosity : F
  jitterMean : F
  jitterStd : F
  jitterThreshold : F
  jitterSpikeCount : Int

abbrev Dict := List (String × Json F)

end Records

variable {F : Type}

section Writing

def distributionToDict (dist : Distribution F) : Dict F :=
  [("n", .int dist.n), ("mean", .float dist.mean), ("std", .float dist.std),
    ("p10", .float dist.p10), ("p25", .float dist.p25), ("p50", .float dist.p50),
    ("p75", .float dist.p75), ("p90", .float dist.p90), ("p99", .float dist.p99),
    ("max", .float dist.max)]

def segmentToDict (segment : SegmentStats F) : Dict F :=
  [("kind", .str segment.kind.value), ("n", .int segment.n),
    ("arc", .dict (distributionToDict segment.arc)),
    ("vel", .dict (distributionToDict segment.vel)),
    ("overshoot", .dict (distributionToDict segment.overshoot)),
    ("dt", .dict (distributionToDict segment.dt))]

-- max(..., default=0)
def maxRoboticRunTaps (feats : ReplayFeatures F) : Int :=
  (feats.roboticTapRuns.toList.map RoboticTapRun.tapCount).max?.getD 0

def RoboticTapRun.toDict (run : RoboticTapRun) : Dict F :=
  [("start_ms", .int run.startMs), ("end_ms", .int run.endMs), ("tap_count", .int run.tapCount),
    ("dt_ms", .int run.dtMs)]

def StraightRun.toDict (run : StraightRun F) : Dict F :=
  [("start_ms", .int run.startMs), ("frame_count", .int run.frameCount),
    ("distance", .float run.distance)]

def ConstantVelocityRun.toDict (run : ConstantVelocityRun F) : Dict F :=
  [("start_ms", .int run.startMs), ("frame_count", .int run.frameCount),
    ("velocity", .float run.velocity)]

def FrozenSpan.toDict (span : FrozenSpan F) : Dict F :=
  [("start_ms", .int span.startMs), ("x", .float span.x), ("y", .float span.y),
    ("frame_count", .int span.frameCount)]

def segmentsToDict (feats : ReplayFeatures F) : Dict F :=
  [("jump", .dict (segmentToDict feats.jump)), ("stream", .dict (segmentToDict feats.stream)),
    ("idle", .dict (segmentToDict feats.idle))]

def featuresToDict (feats : ReplayFeatures F) : Dict F :=
  [("frame_count", .int feats.frameCount),
    ("duration_ms", .int feats.durationMs),
    ("tap_count", .int feats.tapCount),
    ("uses_keyboard", .bool feats.usesKeyboard),
    ("tortuosity", .float feats.tortuosity),
    ("jitter_spike_count", .int feats.jitterSpikeCount),
    ("robotic_tap_run_count", .int feats.roboticTapRuns.size),
    ("max_robotic_run_taps", .int (maxRoboticRunTaps feats)),
    ("frozen_span_count", .int feats.frozenSpans.size),
    ("straight_run_count", .int feats.straightRuns.size),
    ("constant_velocity_run_count", .int feats.constantVelocityRuns.size),
    ("total_path", .float feats.totalPath),
    ("straight_line_displacement", .float feats.straightLineDisplacement),
    ("jitter_mean", .float feats.jitterMean),
    ("jitter_std", .float feats.jitterStd),
    ("jitter_threshold", .float feats.jitterThreshold),
    ("hold", .dict (distributionToDict feats.hold)),
    ("segments", .dict (segmentsToDict feats)),
    ("robotic_tap_runs", .list (feats.roboticTapRuns.toList.map fun run => .dict run.toDict)),
    ("straight_runs", .list (feats.straightRuns.toList.map fun run => .dict run.toDict)),
    ("constant_velocity_runs",
      .list (feats.constantVelocityRuns.toList.map fun run => .dict run.toDict)),
    ("frozen_spans", .list (feats.frozenSpans.toList.map fun span => .dict span.toDict))]

end Writing

section Reading

inductive ReadError
  | keyError (key : String)
  | valueError
  -- The source checks no type: what has another type than the field is no record of these.
  | illTyped (key : String)
  deriving DecidableEq

-- data[key]
def item (data : Dict F) (key : String) : Except ReadError (Json F) :=
  match data.lookup key with
  | some v => .ok v
  | none => .error (.keyError key)

def itemAs {α : Type} (read : Json F → Option α) (data : Dict F) (key : String) :
    Except ReadError α := do
  match read (← item data key) with
  | some a => .ok a
  | none => .error (.illTyped key)

def asInt : Json F → Option Int
  | .int n => some n
  | _ => none

def asFloat : Json F → Option F
  | .float x => some x
  | _ => none

def asBool : Json F → Option Bool
  | .bool b => some b
  | _ => none

def asStr : Json F → Option String
  | .str text => some text
  | _ => none

def asDict : Json F → Option (Dict F)
  | .dict entries => some entries
  | _ => none

def asDicts : Json F → Option (List (Dict F))
  | .list items => items.mapM asDict
  | _ => none

-- SegmentKind(value)
def segmentKind (value : String) : Except ReadError SegmentKind :=
  match [SegmentKind.JUMP, .STREAM, .IDLE].find? fun kind => kind.value = value with
  | some kind => .ok kind
  | none => .error .valueError

def distributionFromDict (data : Dict F) : Except ReadError (Distribution F) := do
  return {
    n := ← itemAs asInt data "n"
    mean := ← itemAs asFloat data "mean"
    std := ← itemAs asFloat data "std"
    p10 := ← itemAs asFloat data "p10"
    p25 := ← itemAs asFloat data "p25"
    p50 := ← itemAs asFloat data "p50"
    p75 := ← itemAs asFloat data "p75"
    p90 := ← itemAs asFloat data "p90"
    p99 := ← itemAs asFloat data "p99"
    max := ← itemAs asFloat data "max" }

def segmentFromDict (data : Dict F) : Except ReadError (SegmentStats F) := do
  return {
    kind := ← segmentKind (← itemAs asStr data "kind")
    n := ← itemAs asInt data "n"
    arc := ← distributionFromDict (← itemAs asDict data "arc")
    vel := ← distributionFromDict (← itemAs asDict data "vel")
    overshoot := ← distributionFromDict (← itemAs asDict data "overshoot")
    dt := ← distributionFromDict (← itemAs asDict data "dt") }

-- _segment_from_dict(segments[key])
def segmentOf (segments : Dict F) (key : String) : Except ReadError (SegmentStats F) := do
  segmentFromDict (← itemAs asDict segments key)

def RoboticTapRun.fromDict (run : Dict F) : Except ReadError RoboticTapRun := do
  return {
    startMs := ← itemAs asInt run "start_ms"
    endMs := ← itemAs asInt run "end_ms"
    tapCount := ← itemAs asInt run "tap_count"
    dtMs := ← itemAs asInt run "dt_ms" }

def StraightRun.fromDict (run : Dict F) : Except ReadError (StraightRun F) := do
  return {
    startMs := ← itemAs asInt run "start_ms"
    frameCount := ← itemAs asInt run "frame_count"
    distance := ← itemAs asFloat run "distance" }

def ConstantVelocityRun.fromDict (run : Dict F) : Except ReadError (ConstantVelocityRun F) := do
  return {
    startMs := ← itemAs asInt run "start_ms"
    frameCount := ← itemAs asInt run "frame_count"
    velocity := ← itemAs asFloat run "velocity" }

def FrozenSpan.fromDict (span : Dict F) : Except ReadError (FrozenSpan F) := do
  return {
    startMs := ← itemAs asInt span "start_ms"
    x := ← itemAs asFloat span "x"
    y := ← itemAs asFloat span "y"
    frameCount := ← itemAs asInt span "frame_count" }

-- tuple(... for run in data[key])
def tupleOf {α : Type} (fromDict : Dict F → Except ReadError α) (data : Dict F) (key : String) :
    Except ReadError (Array α) := do
  return (← (← itemAs asDicts data key).mapM fromDict).toArray

def featuresFromDict (data : Dict F) : Except ReadError (ReplayFeatures F) := do
  let segments ← itemAs asDict data "segments"
  return {
    frameCount := ← itemAs asInt data "frame_count"
    durationMs := ← itemAs asInt data "duration_ms"
    tapCount := ← itemAs asInt data "tap_count"
    usesKeyboard := ← itemAs asBool data "uses_keyboard"
    hold := ← distributionFromDict (← itemAs asDict data "hold")
    jump := ← segmentOf segments "jump"
    stream := ← segmentOf segments "stream"
    idle := ← segmentOf segments "idle"
    roboticTapRuns := ← tupleOf RoboticTapRun.fromDict data "robotic_tap_runs"
    straightRuns := ← tupleOf StraightRun.fromDict data "straight_runs"
    constantVelocityRuns := ← tupleOf ConstantVelocityRun.fromDict data "constant_velocity_runs"
    frozenSpans := ← tupleOf FrozenSpan.fromDict data "frozen_spans"
    totalPath := ← itemAs asFloat data "total_path"
    straightLineDisplacement := ← itemAs asFloat data "straight_line_displacement"
    tortuosity := ← itemAs asFloat data "tortuosity"
    jitterMean := ← itemAs asFloat data "jitter_mean"
    jitterStd := ← itemAs asFloat data "jitter_std"
    jitterThreshold := ← itemAs asFloat data "jitter_threshold"
    jitterSpikeCount := ← itemAs asInt data "jitter_spike_count" }

end Reading

section RoundTrip

variable {α : Type} {fromDict : Dict F → Except ReadError α} {toDict : α → Dict F}

theorem segmentFromDict_toDict (segment : SegmentStats F) :
    segmentFromDict (segmentToDict segment) = .ok segment := by
  obtain ⟨kind, n, arc, vel, overshoot, dt⟩ := segment
  cases kind <;> rfl

theorem ok_bind {ε β : Type} (a : α) (f : α → Except ε β) : (Except.ok a >>= f) = f a := rfl

theorem segmentOf_toDict {segments : Dict F} {key : String} {segment : SegmentStats F}
    (h : itemAs asDict segments key = .ok (segmentToDict segment)) :
    segmentOf segments key = .ok segment := by
  rw [segmentOf, h, ok_bind, segmentFromDict_toDict]

theorem asDicts_map (items : List α) :
    asDicts (.list (items.map fun a => .dict (toDict a))) = some (items.map toDict) := by
  rw [asDicts, List.mapM_map]
  exact List.mapM_pure

theorem mapM_fromDict (h : ∀ a, fromDict (toDict a) = .ok a) (items : List α) :
    (items.map toDict).mapM fromDict = .ok items := by
  rw [List.mapM_map]
  simp only [Function.comp_def, h]
  exact (List.mapM_pure (m := Except ReadError) (f := id)).trans (by rw [List.map_id]; rfl)

-- A tuple that was written as a list is a tuple again.
theorem tupleOf_map (h : ∀ a, fromDict (toDict a) = .ok a) {data : Dict F} {key : String}
    {items : Array α}
    (hitem : item data key = .ok (.list (items.toList.map fun a => .dict (toDict a)))) :
    tupleOf fromDict data key = .ok items := by
  have hdicts : itemAs asDicts data key = .ok (items.toList.map toDict) := by
    rw [itemAs, hitem]
    simp only [bind, Except.bind, asDicts_map]
  rw [tupleOf, hdicts]
  simp only [bind, Except.bind, mapM_fromDict h]
  rfl

theorem RoboticTapRun.fromDict_toDict (run : RoboticTapRun) :
    RoboticTapRun.fromDict (run.toDict : Dict F) = .ok run := rfl

theorem StraightRun.fromDict_toDict (run : StraightRun F) :
    StraightRun.fromDict run.toDict = .ok run := rfl

theorem ConstantVelocityRun.fromDict_toDict (run : ConstantVelocityRun F) :
    ConstantVelocityRun.fromDict run.toDict = .ok run := rfl

theorem FrozenSpan.fromDict_toDict (span : FrozenSpan F) :
    FrozenSpan.fromDict span.toDict = .ok span := rfl

theorem featuresFromDict_toDict (feats : ReplayFeatures F) :
    featuresFromDict (featuresToDict feats) = .ok feats := by
  have hrobotic : tupleOf RoboticTapRun.fromDict (featuresToDict feats) "robotic_tap_runs" =
      .ok feats.roboticTapRuns := tupleOf_map RoboticTapRun.fromDict_toDict rfl
  have hstraight : tupleOf StraightRun.fromDict (featuresToDict feats) "straight_runs" =
      .ok feats.straightRuns := tupleOf_map StraightRun.fromDict_toDict rfl
  have hconstant : tupleOf ConstantVelocityRun.fromDict (featuresToDict feats)
      "constant_velocity_runs" = .ok feats.constantVelocityRuns :=
    tupleOf_map ConstantVelocityRun.fromDict_toDict rfl
  have hfrozen : tupleOf FrozenSpan.fromDict (featuresToDict feats) "frozen_spans" =
      .ok feats.frozenSpans := tupleOf_map FrozenSpan.fromDict_toDict rfl
  have hsegments : itemAs asDict (featuresToDict feats) "segments" = .ok (segmentsToDict feats) :=
    rfl
  have hjump : segmentOf (segmentsToDict feats) "jump" = .ok feats.jump := segmentOf_toDict rfl
  have hstream : segmentOf (segmentsToDict feats) "stream" = .ok feats.stream :=
    segmentOf_toDict rfl
  have hidle : segmentOf (segmentsToDict feats) "idle" = .ok feats.idle := segmentOf_toDict rfl
  -- What is left are the scalars, each under its own key.
  rw [featuresFromDict, hsegments, ok_bind, hrobotic, hstraight, hconstant, hfrozen, hjump, hstream,
    hidle]
  rfl

end RoundTrip

section Encoding

variable {floats : Json.FloatText F}

def Distribution.numbers (dist : Distribution F) : List F :=
  [dist.mean, dist.std, dist.p10, dist.p25, dist.p50, dist.p75, dist.p90, dist.p99, dist.max]

def SegmentStats.numbers (segment : SegmentStats F) : List F :=
  segment.arc.numbers ++ segment.vel.numbers ++ segment.overshoot.numbers ++ segment.dt.numbers

def ReplayFeatures.numbers (feats : ReplayFeatures F) : List F :=
  [feats.tortuosity, feats.totalPath, feats.straightLineDisplacement, feats.jitterMean,
      feats.jitterStd, feats.jitterThreshold] ++
    feats.hold.numbers ++ feats.jump.numbers ++ feats.stream.numbers ++ feats.idle.numbers ++
    feats.straightRuns.toList.map StraightRun.distance ++
    feats.constantVelocityRuns.toList.map ConstantVelocityRun.velocity ++
    feats.frozenSpans.toList.flatMap fun span => [span.x, span.y]

-- The floats are all finite.
def AllFinite (floats : Json.FloatText F) (xs : List F) : Prop := ∀ x ∈ xs, floats.constant x = none

theorem proper_distribution {dist : Distribution F} (h : AllFinite floats dist.numbers) :
    Json.Proper floats (.dict (distributionToDict dist)) := by
  simp only [AllFinite, Distribution.numbers, List.forall_mem_cons] at h
  obtain ⟨hmean, hstd, hp10, hp25, hp50, hp75, hp90, hp99, hmax, -⟩ := h
  refine .dict (by simp [distributionToDict]) ?_
  simp only [distributionToDict, List.forall_mem_cons]
  exact ⟨.int _, .float hmean, .float hstd, .float hp10, .float hp25, .float hp50, .float hp75,
    .float hp90, .float hp99, .float hmax, by simp⟩

theorem proper_segment {segment : SegmentStats F} (h : AllFinite floats segment.numbers) :
    Json.Proper floats (.dict (segmentToDict segment)) := by
  simp only [AllFinite, SegmentStats.numbers, List.forall_mem_append] at h
  obtain ⟨⟨⟨harc, hvel⟩, hovershoot⟩, hdt⟩ := h
  refine .dict (by simp [segmentToDict]) ?_
  simp only [segmentToDict, List.forall_mem_cons]
  exact ⟨.str _, .int _, proper_distribution harc, proper_distribution hvel,
    proper_distribution hovershoot, proper_distribution hdt, by simp⟩

theorem proper_list {α : Type} {toDict : α → Dict F} {items : Array α}
    (h : ∀ a ∈ items.toList, Json.Proper floats (.dict (toDict a))) :
    Json.Proper floats (.list (items.toList.map fun a => .dict (toDict a))) := by
  refine .list fun v hv => ?_
  obtain ⟨a, ha, rfl⟩ := List.mem_map.mp hv
  exact h a ha

theorem proper_features {feats : ReplayFeatures F} (h : AllFinite floats feats.numbers) :
    Json.Proper floats (.dict (featuresToDict feats)) := by
  simp only [AllFinite, ReplayFeatures.numbers, List.forall_mem_append, List.forall_mem_cons] at h
  obtain ⟨⟨⟨⟨⟨⟨⟨⟨htortuosity, htotal, hdisplacement, hmean, hstd, hthreshold, -⟩, hhold⟩, hjump⟩,
    hstream⟩, hidle⟩, hdistance⟩, hvelocity⟩, hspans⟩ := h
  have hsegments : Json.Proper floats (.dict (segmentsToDict feats)) := by
    refine .dict (by simp [segmentsToDict]) ?_
    simp only [segmentsToDict, List.forall_mem_cons]
    exact ⟨proper_segment hjump, proper_segment hstream, proper_segment hidle, by simp⟩
  have hrobotic (run : RoboticTapRun) : Json.Proper floats (.dict run.toDict) := by
    refine .dict (by simp [RoboticTapRun.toDict]) ?_
    simp only [RoboticTapRun.toDict, List.forall_mem_cons]
    exact ⟨.int _, .int _, .int _, .int _, by simp⟩
  have hstraight : ∀ run ∈ feats.straightRuns.toList, Json.Proper floats (.dict run.toDict) := by
    intro run hrun
    refine .dict (by simp [StraightRun.toDict]) ?_
    simp only [StraightRun.toDict, List.forall_mem_cons]
    exact ⟨.int _, .int _, .float (hdistance _ (List.mem_map_of_mem hrun)), by simp⟩
  have hconstant : ∀ run ∈ feats.constantVelocityRuns.toList,
      Json.Proper floats (.dict run.toDict) := by
    intro run hrun
    refine .dict (by simp [ConstantVelocityRun.toDict]) ?_
    simp only [ConstantVelocityRun.toDict, List.forall_mem_cons]
    exact ⟨.int _, .int _, .float (hvelocity _ (List.mem_map_of_mem hrun)), by simp⟩
  have hfrozen : ∀ span ∈ feats.frozenSpans.toList, Json.Proper floats (.dict span.toDict) := by
    intro span hspan
    have hxy : ∀ x ∈ [span.x, span.y], floats.constant x = none := fun x hx =>
      hspans x (List.mem_flatMap.mpr ⟨span, hspan, hx⟩)
    refine .dict (by simp [FrozenSpan.toDict]) ?_
    simp only [FrozenSpan.toDict, List.forall_mem_cons]
    exact ⟨.int _, .float (hxy _ (by simp)), .float (hxy _ (by simp)), .int _, by simp⟩
  refine .dict (by simp [featuresToDict]) ?_
  simp only [featuresToDict, List.forall_mem_cons]
  exact ⟨.int _, .int _, .int _, .bool _, .float htortuosity, .int _, .int _, .int _, .int _,
    .int _, .int _, .float htotal, .float hdisplacement, .float hmean, .float hstd,
    .float hthreshold, proper_distribution hhold, hsegments, proper_list fun run _ => hrobotic run,
    proper_list hstraight, proper_list hconstant, proper_list hfrozen, by simp⟩

end Encoding

section Storing

inductive Bound (F : Type)
  | value (v : Json F)
  -- func.now()
  | now

def PROMOTED_FEATURE_COLUMNS : List String :=
  ["frame_count", "duration_ms", "tap_count", "uses_keyboard", "tortuosity", "jitter_spike_count",
    "robotic_tap_run_count", "max_robotic_run_taps", "frozen_span_count", "straight_run_count",
    "constant_velocity_run_count"]

def promoted (features : Dict F) : Except ReadError (Dict F) :=
  PROMOTED_FEATURE_COLUMNS.mapM fun name => do return (name, ← item features name)

-- The values that mark_analyzed inserts.
def markAnalyzedValues (floats : Json.FloatText F) (scoreId mode extractorVersion : Int)
    (features : Dict F) : Except ReadError (List (String × Bound F)) := do
  let promoted ← promoted features
  return [("score_id", .value (.int scoreId)), ("mode", .value (.int mode)),
      ("status", .value (.str "analyzed")), ("extractor_version", .value (.int extractorVersion)),
      ("error_detail", .value .null),
      ("features", .value (.str (String.ofList (Json.dumps floats (.dict features))))),
      ("analyzed_at", .now)] ++
    promoted.map fun (name, v) => (name, .value v)

-- How score_replay_stats declares a column that is promoted.
inductive ColumnType
  | int
  | tinyint
  -- float(12, 6)
  | float
  deriving DecidableEq

def columnType (name : String) : ColumnType :=
  if name = "uses_keyboard" then .tinyint else if name = "tortuosity" then .float else .int

inductive Cell
  | int (n : Int)
  | float (q : ℚ)
  deriving DecidableEq

-- A number that a column has no room for is refused in strict mode, and else the nearest is taken
-- that it has room for.
def intColumn (strict : Bool) (n : Int) : Option Int :=
  if -2 ^ 31 ≤ n ∧ n < 2 ^ 31 then some n
  else if strict then none
  else some (max (-2 ^ 31) (min (2 ^ 31 - 1) n))

def millionths (q : ℚ) : ℚ := roundEven (1000000 * q) / 1000000

def maxFloat126 : ℚ := 999999999999 / 1000000

def floatColumn (strict : Bool) (q : ℚ) : Option ℚ :=
  if strict ∧ maxFloat126 < |millionths q| then none
  else some (nearestSingle (max (-maxFloat126) (min maxFloat126 (millionths q))))

-- What is stored of a value, none where it is refused: exact is the number that a finite float
-- stands for.
def ColumnType.store (exact : F → Option ℚ) (strict : Bool) : ColumnType → Json F → Option Cell
  | .int, .int n => (intColumn strict n).map .int
  | .tinyint, .bool b => some (.int b.toNat)
  | .float, .float x => ((exact x).bind (floatColumn strict)).map .float
  | _, _ => none

def storedColumn (exact : F → Option ℚ) (strict : Bool) (values : List (String × Bound F))
    (name : String) : Option Cell :=
  match values.lookup name with
  | some (.value v) => (columnType name).store exact strict v
  | _ => none

-- The promoted columns of the row, where the database takes them.
def storedColumns (exact : F → Option ℚ) (strict : Bool) (values : List (String × Bound F)) :
    Option (List (String × Cell)) :=
  PROMOTED_FEATURE_COLUMNS.mapM fun name =>
    (storedColumn exact strict values name).map (Prod.mk name)

-- The most taps that a run has, and 0 where there is no run.
def IsLongest (runs : Array RoboticTapRun) (taps : Int) : Prop :=
  (∀ run ∈ runs, run.tapCount ≤ taps) ∧
    (runs = #[] ∧ taps = 0 ∨ ∃ run ∈ runs, run.tapCount = taps)

-- The values for the columns are what the features give for them.
structure Promotes (values : List (String × Bound F)) (feats : ReplayFeatures F) : Prop where
  frameCount : values.lookup "frame_count" = some (.value (.int feats.frameCount))
  durationMs : values.lookup "duration_ms" = some (.value (.int feats.durationMs))
  tapCount : values.lookup "tap_count" = some (.value (.int feats.tapCount))
  usesKeyboard : values.lookup "uses_keyboard" = some (.value (.bool feats.usesKeyboard))
  tortuosity : values.lookup "tortuosity" = some (.value (.float feats.tortuosity))
  jitterSpikeCount :
    values.lookup "jitter_spike_count" = some (.value (.int feats.jitterSpikeCount))
  roboticTapRunCount :
    values.lookup "robotic_tap_run_count" = some (.value (.int feats.roboticTapRuns.size))
  maxRoboticRunTaps : ∃ taps, IsLongest feats.roboticTapRuns taps ∧
    values.lookup "max_robotic_run_taps" = some (.value (.int taps))
  frozenSpanCount : values.lookup "frozen_span_count" = some (.value (.int feats.frozenSpans.size))
  straightRunCount :
    values.lookup "straight_run_count" = some (.value (.int feats.straightRuns.size))
  constantVelocityRunCount : values.lookup "constant_velocity_run_count" =
    some (.value (.int feats.constantVelocityRuns.size))

def FitsInt (n : Int) : Prop := -2 ^ 31 ≤ n ∧ n < 2 ^ 31

-- The number itself, or outside of strict mode the nearer end of what the column has room for.
def HoldsInt (strict : Bool) (row : List (String × Cell)) (name : String) (n : Int) : Prop :=
  ∃ m, row.lookup name = some (.int m) ∧
    (FitsInt n ∧ m = n ∨
      ¬FitsInt n ∧ strict = false ∧ m = if n < 0 then -2 ^ 31 else 2 ^ 31 - 1)

-- Six digits before the point, and six that it is rounded to after it.
def FitsFloat (q : ℚ) : Prop := |(roundEven (1000000 * q) : ℚ) / 1000000| ≤ 999999.999999

def HoldsFloat (strict : Bool) (row : List (String × Cell)) (name : String) (q : ℚ) : Prop :=
  ∃ x, row.lookup name = some (.float x) ∧
    (FitsFloat q ∧ x = nearestSingle (roundEven (1000000 * q) / 1000000) ∨
      ¬FitsFloat q ∧ strict = false ∧
        x = nearestSingle (if q < 0 then -999999.999999 else 999999.999999))

-- The columns of a row hold what their types make of what the features give for them.
structure Holds (exact : F → Option ℚ) (strict : Bool) (row : List (String × Cell))
    (feats : ReplayFeatures F) : Prop where
  frameCount : HoldsInt strict row "frame_count" feats.frameCount
  durationMs : HoldsInt strict row "duration_ms" feats.durationMs
  tapCount : HoldsInt strict row "tap_count" feats.tapCount
  usesKeyboard : row.lookup "uses_keyboard" = some (.int feats.usesKeyboard.toNat)
  tortuosity : ∃ q ∈ exact feats.tortuosity, HoldsFloat strict row "tortuosity" q
  jitterSpikeCount : HoldsInt strict row "jitter_spike_count" feats.jitterSpikeCount
  roboticTapRunCount : HoldsInt strict row "robotic_tap_run_count" feats.roboticTapRuns.size
  maxRoboticRunTaps : ∃ taps, IsLongest feats.roboticTapRuns taps ∧
    HoldsInt strict row "max_robotic_run_taps" taps
  frozenSpanCount : HoldsInt strict row "frozen_span_count" feats.frozenSpans.size
  straightRunCount : HoldsInt strict row "straight_run_count" feats.straightRuns.size
  constantVelocityRunCount :
    HoldsInt strict row "constant_velocity_run_count" feats.constantVelocityRuns.size

def promotedInts (feats : ReplayFeatures F) (longestRun : Int) : List Int :=
  [feats.frameCount, feats.durationMs, feats.tapCount, feats.jitterSpikeCount,
    feats.roboticTapRuns.size, longestRun, feats.frozenSpans.size, feats.straightRuns.size,
    feats.constantVelocityRuns.size]

-- The tortuosity is a finite number, and strict mode refuses no column.
structure Taken (exact : F → Option ℚ) (strict : Bool) (feats : ReplayFeatures F) : Prop where
  finite : ∃ q, exact feats.tortuosity = some q
  tortuosity : strict = true → ∀ q ∈ exact feats.tortuosity, FitsFloat q
  ints : strict = true → ∀ taps, IsLongest feats.roboticTapRuns taps →
    ∀ n ∈ promotedInts feats taps, FitsInt n

section Cells

variable {strict : Bool} {n m : Int} {q x : ℚ}

theorem intColumn_eq_some : intColumn strict n = some m ↔
    FitsInt n ∧ m = n ∨
      ¬FitsInt n ∧ strict = false ∧ m = if n < 0 then -2 ^ 31 else 2 ^ 31 - 1 := by
  unfold intColumn
  by_cases hfits : FitsInt n
  · have hrange : -2 ^ 31 ≤ n ∧ n < 2 ^ 31 := hfits
    rw [if_pos hrange]
    simp [hfits, eq_comm]
  · have hrange : ¬(-2 ^ 31 ≤ n ∧ n < 2 ^ 31) := hfits
    rw [if_neg hrange]
    have hclipped : max (-2 ^ 31) (min (2 ^ 31 - 1) n) =
        if n < 0 then -2 ^ 31 else (2 ^ 31 - 1 : Int) := by
      split <;> omega
    rw [hclipped]
    cases strict <;> simp [hfits, eq_comm]

theorem exists_intColumn : (∃ m, intColumn strict n = some m) ↔ (strict = true → FitsInt n) := by
  simp only [intColumn_eq_some]
  by_cases hfits : FitsInt n <;> cases strict <;> simp [hfits]

theorem millionths_nonneg (h : 0 ≤ q) : 0 ≤ millionths q := by
  have hround := roundEven_mono (p := 0) (q := 1000000 * q) (by linarith)
  have hzero : roundEven 0 = 0 := by exact_mod_cast roundEven_intCast 0
  rw [hzero] at hround
  have hcast : (0 : ℚ) ≤ roundEven (1000000 * q) := by exact_mod_cast hround
  exact div_nonneg hcast (by norm_num)

theorem millionths_nonpos (h : q ≤ 0) : millionths q ≤ 0 := by
  have hround := roundEven_mono (p := 1000000 * q) (q := 0) (by linarith)
  have hzero : roundEven 0 = 0 := by exact_mod_cast roundEven_intCast 0
  rw [hzero] at hround
  have hcast : (roundEven (1000000 * q) : ℚ) ≤ 0 := by exact_mod_cast hround
  exact div_nonpos_of_nonpos_of_nonneg hcast (by norm_num)

theorem floatColumn_eq_some : floatColumn strict q = some x ↔
    FitsFloat q ∧ x = nearestSingle (roundEven (1000000 * q) / 1000000) ∨
      ¬FitsFloat q ∧ strict = false ∧
        x = nearestSingle (if q < 0 then -999999.999999 else 999999.999999) := by
  have hmax : maxFloat126 = 999999.999999 := by norm_num [maxFloat126]
  unfold floatColumn
  rw [hmax, ← millionths]
  by_cases hfits : FitsFloat q
  · have hle : |millionths q| ≤ 999999.999999 := hfits
    rw [if_neg fun h => absurd hle (not_le.mpr h.2), min_eq_right (abs_le.mp hle).2,
      max_eq_right (abs_le.mp hle).1]
    simp [hfits, eq_comm]
  · have hlt : 999999.999999 < |millionths q| := not_le.mp hfits
    have hclipped : max (-999999.999999) (min 999999.999999 (millionths q)) =
        if q < 0 then -999999.999999 else (999999.999999 : ℚ) := by
      split
      case isTrue hneg =>
        have hnonpos := millionths_nonpos hneg.le
        rw [abs_of_nonpos hnonpos] at hlt
        rw [min_eq_right (by linarith), max_eq_left (by linarith)]
      case isFalse hpos =>
        have hnonneg := millionths_nonneg (not_lt.mp hpos)
        rw [abs_of_nonneg hnonneg] at hlt
        rw [min_eq_left hlt.le, max_eq_right (by norm_num)]
    rw [hclipped]
    cases strict <;> simp [hfits, hlt, eq_comm]

theorem exists_floatColumn :
    (∃ x, floatColumn strict q = some x) ↔ (strict = true → FitsFloat q) := by
  simp only [floatColumn_eq_some]
  by_cases hfits : FitsFloat q <;> cases strict <;> simp [hfits]

end Cells

section Columns

variable {exact : F → Option ℚ} {strict : Bool} {values : List (String × Bound F)}
  {row : List (String × Cell)} {name : String}

theorem stored_of_promoted (hrow : storedColumns exact strict values = some row)
    (hname : name ∈ PROMOTED_FEATURE_COLUMNS) {v : Json F}
    (hv : values.lookup name = some (.value v)) :
    ∃ cell, (columnType name).store exact strict v = some cell ∧ row.lookup name = some cell := by
  obtain ⟨cell, hcell, hlookup⟩ := lookup_of_mapM hrow hname
  rw [storedColumn, hv] at hcell
  exact ⟨cell, hcell, hlookup⟩

theorem holdsInt_of_promoted (hrow : storedColumns exact strict values = some row)
    (hname : name ∈ PROMOTED_FEATURE_COLUMNS ∧ columnType name = .int) {n : Int}
    (hn : values.lookup name = some (.value (.int n))) : HoldsInt strict row name n := by
  obtain ⟨cell, hcell, hlookup⟩ := stored_of_promoted hrow hname.1 hn
  rw [hname.2] at hcell
  obtain ⟨m, hm, rfl⟩ := Option.map_eq_some_iff.mp hcell
  exact ⟨m, hlookup, intColumn_eq_some.mp hm⟩

theorem holds_of_promotes {feats : ReplayFeatures F} (h : Promotes values feats)
    (hrow : storedColumns exact strict values = some row) : Holds exact strict row feats := by
  have hint {name : String} {n : Int}
      (hname : name ∈ PROMOTED_FEATURE_COLUMNS ∧ columnType name = .int) :=
    @holdsInt_of_promoted F exact strict values row name hrow hname n
  obtain ⟨keyboard, hkeyboard, hkeyboardIn⟩ :=
    stored_of_promoted hrow (by decide) h.usesKeyboard
  obtain ⟨cell, hcell, htortuosity⟩ := stored_of_promoted hrow (by decide) h.tortuosity
  obtain ⟨single, hsingle, rfl⟩ := Option.map_eq_some_iff.mp hcell
  obtain ⟨q, hq, hsingle⟩ := Option.bind_eq_some_iff.mp hsingle
  obtain ⟨taps, hlongest, htaps⟩ := h.maxRoboticRunTaps
  cases hkeyboard
  exact {
    frameCount := hint (by decide) h.frameCount
    durationMs := hint (by decide) h.durationMs
    tapCount := hint (by decide) h.tapCount
    usesKeyboard := hkeyboardIn
    tortuosity := ⟨q, hq, single, htortuosity, floatColumn_eq_some.mp hsingle⟩
    jitterSpikeCount := hint (by decide) h.jitterSpikeCount
    roboticTapRunCount := hint (by decide) h.roboticTapRunCount
    maxRoboticRunTaps := ⟨taps, hlongest, hint (by decide) htaps⟩
    frozenSpanCount := hint (by decide) h.frozenSpanCount
    straightRunCount := hint (by decide) h.straightRunCount
    constantVelocityRunCount := hint (by decide) h.constantVelocityRunCount }

theorem HoldsInt.fits {n : Int} (h : HoldsInt strict row name n) (hstrict : strict = true) :
    FitsInt n := by
  obtain ⟨m, -, ⟨hfits, -⟩ | ⟨-, hloose, -⟩⟩ := h
  · exact hfits
  · cases hstrict.symm.trans hloose

theorem IsLongest.unique {runs : Array RoboticTapRun} {taps other : Int} (h : IsLongest runs taps)
    (h' : IsLongest runs other) : taps = other := by
  obtain ⟨hle, ⟨hnil, rfl⟩ | ⟨run, hrun, rfl⟩⟩ := h
  · rcases h'.2 with ⟨-, rfl⟩ | ⟨run, hrun, -⟩
    · rfl
    · rw [hnil] at hrun
      exact absurd hrun (Array.not_mem_empty run)
  · rcases h'.2 with ⟨hnil, -⟩ | ⟨last, hlast, rfl⟩
    · rw [hnil] at hrun
      exact absurd hrun (Array.not_mem_empty run)
    · exact le_antisymm (h'.1 run hrun) (hle last hlast)

theorem exists_pair {v : Json F} (hv : values.lookup name = some (.value v))
    (hcell : ∃ cell, (columnType name).store exact strict v = some cell) :
    ∃ pair, (storedColumn exact strict values name).map (Prod.mk name) = some pair := by
  obtain ⟨cell, hcell⟩ := hcell
  refine ⟨(name, cell), ?_⟩
  rw [storedColumn, hv]
  dsimp only
  rw [hcell]
  rfl

theorem taken_of_promotes {feats : ReplayFeatures F} (h : Promotes values feats)
    (hrow : storedColumns exact strict values = some row) : Taken exact strict feats := by
  have hholds := holds_of_promotes h hrow
  obtain ⟨q, hq, x, -, hfloat⟩ := hholds.tortuosity
  obtain ⟨longest, hlongest, htaps⟩ := hholds.maxRoboticRunTaps
  refine ⟨⟨q, hq⟩, fun hstrict other hother => ?_, fun hstrict taps hmost n hn => ?_⟩
  · cases hq.symm.trans hother
    rcases hfloat with ⟨hfits, -⟩ | ⟨-, hloose, -⟩
    · exact hfits
    · cases hstrict.symm.trans hloose
  · cases hlongest.unique hmost
    simp only [promotedInts, List.mem_cons, List.not_mem_nil, or_false] at hn
    rcases hn with rfl | rfl | rfl | rfl | rfl | rfl | rfl | rfl | rfl
    · exact hholds.frameCount.fits hstrict
    · exact hholds.durationMs.fits hstrict
    · exact hholds.tapCount.fits hstrict
    · exact hholds.jitterSpikeCount.fits hstrict
    · exact hholds.roboticTapRunCount.fits hstrict
    · exact htaps.fits hstrict
    · exact hholds.frozenSpanCount.fits hstrict
    · exact hholds.straightRunCount.fits hstrict
    · exact hholds.constantVelocityRunCount.fits hstrict

theorem stored_of_taken {feats : ReplayFeatures F} (h : Promotes values feats)
    (htaken : Taken exact strict feats) : ∃ row, storedColumns exact strict values = some row := by
  obtain ⟨taps, hlongest, htaps⟩ := h.maxRoboticRunTaps
  obtain ⟨q, hq⟩ := htaken.finite
  obtain ⟨x, hx⟩ := exists_floatColumn.mpr fun hstrict => htaken.tortuosity hstrict q hq
  have hint {name : String} {n : Int} (hn : n ∈ promotedInts feats taps)
      (htype : columnType name = .int) (hv : values.lookup name = some (.value (.int n))) :
      ∃ pair, (storedColumn exact strict values name).map (Prod.mk name) = some pair := by
    obtain ⟨m, hm⟩ := exists_intColumn.mpr fun hstrict => htaken.ints hstrict taps hlongest n hn
    refine exists_pair hv ⟨.int m, ?_⟩
    rw [htype]
    exact congrArg (Option.map Cell.int) hm
  apply exists_mapM_some
  simp only [PROMOTED_FEATURE_COLUMNS, List.forall_mem_cons, List.not_mem_nil, false_implies,
    implies_true, and_true]
  refine ⟨?_, ?_, ?_, ?_, ?_, ?_, ?_, ?_, ?_, ?_, ?_⟩
  · exact hint (by simp [promotedInts]) (by decide) h.frameCount
  · exact hint (by simp [promotedInts]) (by decide) h.durationMs
  · exact hint (by simp [promotedInts]) (by decide) h.tapCount
  · exact exists_pair h.usesKeyboard ⟨_, rfl⟩
  · refine exists_pair h.tortuosity ⟨.float x, ?_⟩
    show ((exact feats.tortuosity).bind (floatColumn strict)).map Cell.float = _
    rw [hq, Option.bind_some, hx]
    rfl
  · exact hint (by simp [promotedInts]) (by decide) h.jitterSpikeCount
  · exact hint (by simp [promotedInts]) (by decide) h.roboticTapRunCount
  · exact hint (by simp [promotedInts]) (by decide) htaps
  · exact hint (by simp [promotedInts]) (by decide) h.frozenSpanCount
  · exact hint (by simp [promotedInts]) (by decide) h.straightRunCount
  · exact hint (by simp [promotedInts]) (by decide) h.constantVelocityRunCount

-- The row is refused exactly for what one of its columns refuses.
theorem exists_storedColumns {feats : ReplayFeatures F} (h : Promotes values feats) :
    (∃ row, storedColumns exact strict values = some row) ↔ Taken exact strict feats :=
  ⟨fun ⟨_, hrow⟩ => taken_of_promotes h hrow, stored_of_taken h⟩

end Columns

theorem isLongest_max (feats : ReplayFeatures F) :
    IsLongest feats.roboticTapRuns (maxRoboticRunTaps feats) := by
  cases hmax : (feats.roboticTapRuns.toList.map RoboticTapRun.tapCount).max? with
  | none =>
    have hnil : feats.roboticTapRuns = #[] := by
      simpa using hmax
    rw [maxRoboticRunTaps, hmax]
    refine ⟨fun run hrun => ?_, Or.inl ⟨hnil, rfl⟩⟩
    rw [hnil] at hrun
    simp at hrun
  | some taps =>
    obtain ⟨hmem, hle⟩ := List.max?_eq_some_iff.mp hmax
    rw [maxRoboticRunTaps, hmax]
    obtain ⟨run, hrun, htaps⟩ := List.mem_map.mp hmem
    exact ⟨fun run hrun => hle _ (List.mem_map_of_mem (Array.mem_toList_iff.mpr hrun)),
      Or.inr ⟨run, Array.mem_toList_iff.mp hrun, htaps⟩⟩

theorem promotes_of_ok {floats : Json.FloatText F} {feats : ReplayFeatures F}
    {scoreId mode extractorVersion : Int} {values : List (String × Bound F)}
    (h : markAnalyzedValues floats scoreId mode extractorVersion (featuresToDict feats) =
      .ok values) : Promotes values feats := by
  cases h
  exact ⟨rfl, rfl, rfl, rfl, rfl, rfl, rfl, ⟨_, isLongest_max feats, rfl⟩, rfl, rfl, rfl⟩

-- A record comes back out of its dictionary, and out of the text that is stored of it, and the
-- columns beside the text hold what the record gives, as far as their types can.
theorem features_roundTrip {floats : Json.FloatText F} (h : floats.ReadsBack)
    (feats : ReplayFeatures F) (scoreId mode extractorVersion : Int) :
    featuresFromDict (featuresToDict feats) = .ok feats ∧
      ∃ values text, markAnalyzedValues floats scoreId mode extractorVersion
          (featuresToDict feats) = .ok values ∧
        (∀ name ∈ PROMOTED_FEATURE_COLUMNS,
          ∃ v, item (featuresToDict feats) name = .ok v ∧ values.lookup name = some (.value v)) ∧
        Promotes values feats ∧
        (∀ exact strict, (∃ row, storedColumns exact strict values = some row) ↔
          Taken exact strict feats) ∧
        (∀ exact strict row, storedColumns exact strict values = some row →
          Holds exact strict row feats) ∧
        values.lookup "features" = some (.value (.str text)) ∧
        (AllFinite floats feats.numbers → ∃ decoded, Json.loads floats text.toList =
          some (.dict decoded) ∧ featuresFromDict decoded = .ok feats) := by
  refine ⟨featuresFromDict_toDict feats, _, _, rfl, ?_, promotes_of_ok rfl,
    fun _ _ => exists_storedColumns (promotes_of_ok rfl),
    fun _ _ _ hrow => holds_of_promotes (promotes_of_ok rfl) hrow, rfl, fun hfinite => ?_⟩
  · simp only [PROMOTED_FEATURE_COLUMNS, List.forall_mem_cons]
    exact ⟨⟨_, rfl, rfl⟩, ⟨_, rfl, rfl⟩, ⟨_, rfl, rfl⟩, ⟨_, rfl, rfl⟩, ⟨_, rfl, rfl⟩, ⟨_, rfl, rfl⟩,
      ⟨_, rfl, rfl⟩, ⟨_, rfl, rfl⟩, ⟨_, rfl, rfl⟩, ⟨_, rfl, rfl⟩, ⟨_, rfl, rfl⟩, by simp⟩
  · refine ⟨featuresToDict feats, ?_, featuresFromDict_toDict feats⟩
    rw [String.toList_ofList]
    exact Json.loads_dumps h (proper_features hfinite)

-- The floats 0.0, 1.3333333333333333, 3.0, 4.0 and nan.
def sampleTexts (x : Fin 5) : List Char :=
  match x with
  | 0 => "0.0".toList
  | 1 => "1.3333333333333333".toList
  | 2 => "3.0".toList
  | 3 => "4.0".toList
  | 4 => "nan".toList

def sampleFloats : Json.FloatText (Fin 5) where
  constant x := if x = 4 then some .NaN else none
  ofConstant _ := 4
  repr := sampleTexts
  float text := ((List.finRange 5).find? fun x => sampleTexts x = text).getD 4

def sampleExact (x : Fin 5) : Option ℚ :=
  match x with
  | 0 => some 0
  | 1 => some (nearest (4 / 3))
  | 2 => some 3
  | 3 => some 4
  | 4 => none

theorem sampleFloats_readsBack : sampleFloats.ReadsBack := by
  intro x hx
  match x with
  | 0 => exact ⟨⟨".0".toList, rfl, by decide, rfl⟩, rfl⟩
  | 1 => exact ⟨⟨".3333333333333333".toList, rfl, by decide, rfl⟩, rfl⟩
  | 2 => exact ⟨⟨".0".toList, rfl, by decide, rfl⟩, rfl⟩
  | 3 => exact ⟨⟨".0".toList, rfl, by decide, rfl⟩, rfl⟩
  | 4 => cases hx

-- A cursor that stands still while a key is pressed, and let go at once, every 100 ms. In two last
-- frames of no time it goes 3.5 to the right and 0.5 back.
def sampleFeatures : ReplayFeatures (Fin 5) :=
  let zeros (n : Int) : Distribution (Fin 5) := ⟨n, 0, 0, 0, 0, 0, 0, 0, 0, 0⟩
  let empty (kind : SegmentKind) : SegmentStats (Fin 5) :=
    ⟨kind, 0, zeros 0, zeros 0, zeros 0, zeros 0⟩
  { frameCount := 16
    durationMs := 600
    tapCount := 7
    usesKeyboard := true
    hold := zeros 7
    jump := empty .JUMP
    stream := empty .STREAM
    idle := empty .IDLE
    roboticTapRuns := #[⟨100, 700, 7, 100⟩]
    straightRuns := #[]
    constantVelocityRuns := #[]
    frozenSpans := #[⟨100, 0, 0, 14⟩]
    totalPath := 3
    straightLineDisplacement := 2
    tortuosity := 1
    jitterMean := 0
    jitterStd := 0
    jitterThreshold := 0
    jitterSpikeCount := 0 }

theorem features_roundTrip_sample :
    featuresFromDict (featuresToDict sampleFeatures) = .ok sampleFeatures ∧
      ∃ values text, markAnalyzedValues sampleFloats 11 0 2 (featuresToDict sampleFeatures) =
          .ok values ∧
        (∀ name ∈ PROMOTED_FEATURE_COLUMNS,
          ∃ v, item (featuresToDict sampleFeatures) name = .ok v ∧
            values.lookup name = some (.value v)) ∧
        Promotes values sampleFeatures ∧
        (∀ exact strict, (∃ row, storedColumns exact strict values = some row) ↔
          Taken exact strict sampleFeatures) ∧
        (∀ exact strict row, storedColumns exact strict values = some row →
          Holds exact strict row sampleFeatures) ∧
        values.lookup "features" = some (.value (.str text)) ∧
        ∃ decoded, Json.loads sampleFloats text.toList = some (.dict decoded) ∧
          featuresFromDict decoded = .ok sampleFeatures := by
  have hfinite : AllFinite sampleFloats sampleFeatures.numbers := by
    unfold AllFinite
    decide
  obtain ⟨hdict, values, text, hvalues, hitems, hpromotes, htaken, hholds, htext, hdecoded⟩ :=
    features_roundTrip sampleFloats_readsBack sampleFeatures 11 0 2
  exact ⟨hdict, values, text, hvalues, hitems, hpromotes, htaken, hholds, htext, hdecoded hfinite⟩

-- The column tortuosity has fewer digits than the record, in strict mode and outside of it.
theorem not_features_columns :
    (∃ values, markAnalyzedValues sampleFloats 11 0 2 (featuresToDict sampleFeatures) =
        .ok values ∧ ∀ strict,
          (storedColumns sampleExact strict values).bind (·.lookup "tortuosity") =
            some (.float (1398101 / 1048576))) ∧
      sampleExact sampleFeatures.tortuosity = some (6004799503160661 / 4503599627370496) := by
  refine ⟨⟨_, rfl, fun strict => ?_⟩, by decide +kernel⟩
  cases strict with
  | true => decide +kernel
  | false => decide +kernel

end Storing

end BanchoPrism.Anticheat
