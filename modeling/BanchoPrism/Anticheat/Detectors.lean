import BanchoPrism.Anticheat.Detection
import BanchoPrism.Anticheat.Features
import Mathlib.Algebra.Order.Field.Rat
import Mathlib.Tactic.Linarith
import Mathlib.Tactic.NormNum

namespace BanchoPrism.Anticheat

-- A floor that is divided by is positive.
structure DetectorConfig where
  holdMinSamples : Int := 60
  holdCovFloor : ℚ := 8 / 100
  holdInstantMs : ℚ := 16
  aimMinJumpLegs : Int := 150
  aimOvershootP90Floor : ℚ := 6 / 10
  aimArcStdFloor : ℚ := 12
  aimVelCovFloor : ℚ := 15 / 100
  aimConditionsForFlag : Int := 2
  roboticRunTapsFloor : Int := 12
  roboticRunCountFloor : Int := 3
  mechanicalRunCountFloor : Int := 6
  independenceDivergenceFloor : ℚ := 1 / 2
  independenceMachineFloor : ℚ := 6 / 10
  holdCovFloor_pos : 0 < holdCovFloor := by norm_num
  aimOvershootP90Floor_pos : 0 < aimOvershootP90Floor := by norm_num
  aimArcStdFloor_pos : 0 < aimArcStdFloor := by norm_num
  aimVelCovFloor_pos : 0 < aimVelCovFloor := by norm_num

-- How a detail prints a number: with so many decimals, or as str() does.
structure Printer where
  fixed : Nat → ℚ → String
  str : ℚ → String

section Scoring

def clamp01 (value : ℚ) : ℚ := if value < 0 then 0 else if 1 < value then 1 else value

def coefficientOfVariation (dist : Distribution ℚ) : Option ℚ :=
  if dist.mean ≤ 0 then none else some (dist.std / dist.mean)

variable (feats : ReplayFeatures ℚ) (cfg : DetectorConfig)

def aimMachineness : Option ℚ :=
  let jump := feats.jump
  if jump.n < cfg.aimMinJumpLegs then none
  else
    let overshootClean :=
      clamp01 ((cfg.aimOvershootP90Floor - jump.overshoot.p90) / cfg.aimOvershootP90Floor)
    let arcClean := clamp01 ((cfg.aimArcStdFloor - jump.arc.std) / cfg.aimArcStdFloor)
    let velClean :=
      match coefficientOfVariation jump.vel with
      -- zero mean velocity over a jump segment is itself odd.
      | none => 1
      | some velCov => clamp01 ((cfg.aimVelCovFloor - velCov) / cfg.aimVelCovFloor)
    some ((overshootClean + arcClean + velClean) / 3)

def timingMachineness : Option ℚ :=
  if feats.tapCount < 2 then none
  else
    let roboticFraction := clamp01 (maxRoboticRunTaps feats / feats.tapCount)
    let hold := feats.hold
    let holdMachineness :=
      if hold.n < cfg.holdMinSamples then 0
      else if hold.mean ≤ 0 then 1
      else clamp01 ((cfg.holdCovFloor - hold.std / hold.mean) / cfg.holdCovFloor)
    some (max roboticFraction holdMachineness)

end Scoring

section Detecting

def signalOf (code title : String) (severity : Severity) (confidence : ℚ) (flagged : Bool)
    (detail : String) (evidence : List (String × ℚ)) : DetectionSignal where
  code := code
  title := title
  severity := severity
  confidence := confidence
  flagged := flagged
  detail := detail
  evidence := evidence

variable (print : Printer) (feats : ReplayFeatures ℚ) (cfg : DetectorConfig)

def holdSignal : Severity → ℚ → Bool → String → List (String × ℚ) → DetectionSignal :=
  signalOf "B1_HOLD_DURATION" "Hold-duration uniformity"

def detectHoldUniformity : DetectionSignal :=
  let hold := feats.hold
  let evidence : List (String × ℚ) :=
    [("hold_n", hold.n), ("hold_mean_ms", hold.mean), ("hold_std_ms", hold.std),
      ("hold_p90_ms", hold.p90)]
  if hold.n < cfg.holdMinSamples then
    holdSignal .NONE 0 false
      ("only " ++ toString hold.n ++ " holds; need " ++ toString cfg.holdMinSamples ++
        " to judge spread") evidence
  -- every press released on its own frame -> instantaneous injected clicks.
  else if hold.mean ≤ 0 then
    holdSignal .HIGH (95 / 100) true
      "every key press has zero hold time -- inputs are injected, not held" evidence
  else
    let cov := hold.std / hold.mean
    let evidence := evidence ++ [("hold_cov", cov)]
    let instant : Bool := hold.p90 ≤ cfg.holdInstantMs
    let uniform : Bool := cov ≤ cfg.holdCovFloor
    if uniform && instant then
      holdSignal .HIGH (9 / 10) true
        ("holds are both near-constant (cov " ++ print.fixed 3 cov ++ ") and near-instant (p90 " ++
          print.fixed 1 hold.p90 ++ "ms) -- consistent with an auto-clicker") evidence
    else if uniform then
      holdSignal .MEDIUM (7 / 10) true
        ("hold widths barely vary (cov " ++ print.fixed 3 cov ++ " <= " ++
          print.str cfg.holdCovFloor ++ ")") evidence
    else if instant then
      holdSignal .LOW (4 / 10) false
        ("holds are very short (p90 " ++ print.fixed 1 hold.p90 ++ "ms) but do vary") evidence
    else
      holdSignal .NONE 0 false ("hold widths vary humanly (cov " ++ print.fixed 3 cov ++ ")")
        evidence

def aimSignal : Severity → ℚ → Bool → String → List (String × ℚ) → DetectionSignal :=
  signalOf "B3_AIM_CONTROLLER" "Aim-controller cleanliness"

-- One for each of the three conditions that is met.
def aimReasons : List String :=
  let jump := feats.jump
  (if jump.overshoot.p90 ≤ cfg.aimOvershootP90Floor then
    ["no overshoot tail (p90 " ++ print.fixed 2 jump.overshoot.p90 ++ ")"] else []) ++
  (if jump.arc.std ≤ cfg.aimArcStdFloor then
    ["low arc dispersion (std " ++ print.fixed 1 jump.arc.std ++ " deg)"] else []) ++
  match coefficientOfVariation jump.vel with
  | none => []
  | some velCov =>
      if velCov ≤ cfg.aimVelCovFloor then
        ["near-constant velocity (cov " ++ print.fixed 3 velCov ++ ")"]
      else []

def detectAimController : DetectionSignal :=
  let jump := feats.jump
  let evidence : List (String × ℚ) :=
    [("jump_legs", jump.n), ("jump_overshoot_p90", jump.overshoot.p90),
      ("jump_arc_std", jump.arc.std), ("jump_vel_mean", jump.vel.mean),
      ("jump_vel_std", jump.vel.std)]
  if jump.n < cfg.aimMinJumpLegs then
    aimSignal .NONE 0 false
      ("only " ++ toString jump.n ++ " jump legs; need " ++ toString cfg.aimMinJumpLegs) evidence
  else
    let reasons := aimReasons print feats cfg
    let met := reasons.length
    let evidence := evidence ++
      ((coefficientOfVariation jump.vel).toList.map fun velCov => ("jump_vel_cov", velCov)) ++
      [("aim_machineness", (aimMachineness feats cfg).getD 0)]
    if cfg.aimConditionsForFlag ≤ met then
      aimSignal (if 3 ≤ met then .HIGH else .MEDIUM) (clamp01 (1 / 2 + 2 / 10 * met)) true
        ("jump aim is too clean for a human: " ++ "; ".intercalate reasons) evidence
    else if met = 1 then
      aimSignal .LOW (35 / 100) false ("one clean-aim indicator: " ++ reasons.headD "") evidence
    else aimSignal .NONE 0 false "jump aim carries a human correction tail" evidence

def roboticSignal : Severity → ℚ → Bool → String → List (String × ℚ) → DetectionSignal :=
  signalOf "B4_ROBOTIC_TIMING" "Robotic timing / mechanical motion"

def mechanicalRuns : Int := feats.straightRuns.size + feats.constantVelocityRuns.size

def strongComb : Bool :=
  cfg.roboticRunTapsFloor ≤ maxRoboticRunTaps feats ||
    cfg.roboticRunCountFloor ≤ feats.roboticTapRuns.size

def mechanicalCursor : Bool := cfg.mechanicalRunCountFloor ≤ mechanicalRuns feats

def detectRoboticTiming : DetectionSignal :=
  let longest := maxRoboticRunTaps feats
  let runCount := feats.roboticTapRuns.size
  let mechanical := mechanicalRuns feats
  let evidence : List (String × ℚ) :=
    [("max_robotic_run_taps", longest), ("robotic_run_count", runCount),
      ("straight_run_count", feats.straightRuns.size),
      ("constant_velocity_run_count", feats.constantVelocityRuns.size)]
  if strongComb feats cfg && mechanicalCursor feats cfg then
    roboticSignal .HIGH (85 / 100) true
      ("pixel-identical tap comb (longest run " ++ toString longest ++ " taps) alongside " ++
        toString mechanical ++ " mechanical cursor runs") evidence
  else if strongComb feats cfg then
    roboticSignal .MEDIUM (7 / 10) true
      ("pixel-identical tap interval sustained " ++ toString longest ++ " taps over " ++
        toString runCount ++ " run(s) -- not human motor noise") evidence
  else if mechanicalCursor feats cfg then
    roboticSignal .LOW (4 / 10) false
      (toString mechanical ++ " straight/constant-velocity cursor runs") evidence
  else
    roboticSignal .NONE 0 false "tap intervals and cursor motion carry human variation" evidence

def independenceSignal : Severity → ℚ → Bool → String → List (String × ℚ) → DetectionSignal :=
  signalOf "C1_TIMING_AIM_INDEPENDENCE" "Timing/aim independence"

def detectTimingAimIndependence : DetectionSignal :=
  let aim := aimMachineness feats cfg
  let timing := timingMachineness feats cfg
  let evidence : List (String × ℚ) :=
    (aim.toList.map fun aim => ("aim_machineness", aim)) ++
      timing.toList.map fun timing => ("timing_machineness", timing)
  match aim, timing with
  | some aim, some timing =>
      let divergence := |aim - timing|
      let cleanest := max aim timing
      let evidence := evidence ++ [("divergence", divergence)]
      if cfg.independenceDivergenceFloor ≤ divergence ∧
          cfg.independenceMachineFloor ≤ cleanest then
        let channel := if timing < aim then "aim" else "timing"
        let other := if timing < aim then "timing" else "aim"
        independenceSignal .MEDIUM (clamp01 divergence) true
          (channel ++ " is machine-clean (" ++ print.fixed 2 cleanest ++ ") while " ++ other ++
            " looks human -- the two are decoupled (divergence " ++ print.fixed 2 divergence ++ ")")
          evidence
      else
        independenceSignal .NONE 0 false
          ("aim and timing are consistent (divergence " ++ print.fixed 2 divergence ++ ")") evidence
  | _, _ =>
      independenceSignal .NONE 0 false
        "not enough jump legs and/or taps to compare the two channels" evidence

-- The signals of _MOVEMENT_DETECTORS.
def movementSignals : List DetectionSignal :=
  [detectHoldUniformity print feats cfg, detectAimController print feats cfg,
    detectRoboticTiming feats cfg, detectTimingAimIndependence print feats cfg]

def detectionReport : DetectionReport := runDetectors (movementSignals print feats cfg)

end Detecting

section Signals

variable {print : Printer} {feats : ReplayFeatures ℚ} {cfg : DetectorConfig}

-- The confidence is a fraction, and the flag says that the severity is medium or high.
structure DetectionSignal.Coherent (s : DetectionSignal) : Prop where
  nonneg : 0 ≤ s.confidence
  le_one : s.confidence ≤ 1
  flagged_iff : s.flagged = true ↔ s.severity = .MEDIUM ∨ s.severity = .HIGH

theorem signalOf_coherent {code title detail : String} {severity : Severity} {confidence : ℚ}
    {flagged : Bool} {evidence : List (String × ℚ)} (h : 0 ≤ confidence ∧ confidence ≤ 1)
    (hflagged : flagged = true ↔ severity = .MEDIUM ∨ severity = .HIGH) :
    (signalOf code title severity confidence flagged detail evidence).Coherent :=
  ⟨h.1, h.2, hflagged⟩

theorem clamp01_mem (value : ℚ) : 0 ≤ clamp01 value ∧ clamp01 value ≤ 1 := by
  unfold clamp01
  split
  · norm_num
  · split
    · norm_num
    · constructor <;> linarith

theorem hold_coherent : (detectHoldUniformity print feats cfg).Coherent := by
  dsimp only [detectHoldUniformity, holdSignal]
  split
  · exact signalOf_coherent (by norm_num) (by decide)
  split
  · exact signalOf_coherent (by norm_num) (by decide)
  split
  · exact signalOf_coherent (by norm_num) (by decide)
  split
  · exact signalOf_coherent (by norm_num) (by decide)
  split
  · exact signalOf_coherent (by norm_num) (by decide)
  · exact signalOf_coherent (by norm_num) (by decide)

theorem aim_coherent : (detectAimController print feats cfg).Coherent := by
  dsimp only [detectAimController, aimSignal]
  split
  · exact signalOf_coherent (by norm_num) (by decide)
  split
  · refine signalOf_coherent (clamp01_mem _) ⟨fun _ => ?_, fun _ => rfl⟩
    split
    · exact Or.inr rfl
    · exact Or.inl rfl
  split
  · exact signalOf_coherent (by norm_num) (by decide)
  · exact signalOf_coherent (by norm_num) (by decide)

theorem robotic_coherent : (detectRoboticTiming feats cfg).Coherent := by
  dsimp only [detectRoboticTiming, roboticSignal]
  split
  · exact signalOf_coherent (by norm_num) (by decide)
  split
  · exact signalOf_coherent (by norm_num) (by decide)
  split
  · exact signalOf_coherent (by norm_num) (by decide)
  · exact signalOf_coherent (by norm_num) (by decide)

theorem independence_coherent : (detectTimingAimIndependence print feats cfg).Coherent := by
  dsimp only [detectTimingAimIndependence, independenceSignal]
  split
  · split
    · exact signalOf_coherent (clamp01_mem _) (by decide)
    · exact signalOf_coherent (by norm_num) (by decide)
  · exact signalOf_coherent (by norm_num) (by decide)

theorem movementSignals_coherent : ∀ s ∈ movementSignals print feats cfg, s.Coherent := by
  intro s hs
  simp only [movementSignals, List.mem_cons, List.not_mem_nil, or_false] at hs
  rcases hs with rfl | rfl | rfl | rfl
  · exact hold_coherent
  · exact aim_coherent
  · exact robotic_coherent
  · exact independence_coherent

end Signals

section Reports

variable {signals : List DetectionSignal}

-- The signal goes before the other in a report.
def DetectionSignal.Stronger (a b : DetectionSignal) : Prop :=
  severityRank b.severity < severityRank a.severity ∨
    severityRank a.severity = severityRank b.severity ∧ b.confidence ≤ a.confidence

-- The verdict is that of the strongest signal, and what triggered it is what is flagged.
structure DetectionReport.Coherent (report : DetectionReport) : Prop where
  upper : ∀ s ∈ report.signals, severityRank s.severity ≤ severityRank report.severity
  attained : ∃ s ∈ report.signals, s.severity = report.severity
  flagged_iff : report.flagged = true ↔ ∃ s ∈ report.signals, s.flagged = true
  triggered_perm : report.triggered.Perm (report.signals.filter DetectionSignal.flagged)
  triggered_ordered : report.triggered.Pairwise DetectionSignal.Stronger

theorem foldl_maxSeverity (severities : List Severity) (best : Severity) :
    let top := severities.foldl
      (fun best s => if severityRank best < severityRank s then s else best) best
    (top = best ∨ top ∈ severities) ∧ severityRank best ≤ severityRank top ∧
      ∀ s ∈ severities, severityRank s ≤ severityRank top := by
  induction severities generalizing best with
  | nil => simp
  | cons s rest ih =>
    obtain ⟨hmem, hbest, hrest⟩ := ih (if severityRank best < severityRank s then s else best)
    rw [List.foldl_cons]
    by_cases hlt : severityRank best < severityRank s
    · rw [if_pos hlt] at hmem hbest hrest ⊢
      refine ⟨Or.inr ?_, by omega, fun other hother => ?_⟩
      · rcases hmem with heq | hmem
        · rw [heq]
          exact List.mem_cons_self
        · exact List.mem_cons_of_mem s hmem
      · rcases List.mem_cons.mp hother with rfl | hother
        · exact hbest
        · exact hrest other hother
    · rw [if_neg hlt] at hmem hbest hrest ⊢
      refine ⟨hmem.imp_right (List.mem_cons_of_mem s), hbest, fun other hother => ?_⟩
      rcases List.mem_cons.mp hother with rfl | hother
      · omega
      · exact hrest other hother

theorem severityRank_injective {a b : Severity} (h : severityRank a = severityRank b) : a = b := by
  cases a <;> cases b <;> first | rfl | cases h

theorem medium_le_iff {severity : Severity} :
    severityRank .MEDIUM ≤ severityRank severity ↔ severity = .MEDIUM ∨ severity = .HIGH := by
  cases severity <;> decide

theorem triggered_ordered (report : DetectionReport) :
    report.triggered.Pairwise DetectionSignal.Stronger := by
  unfold DetectionReport.triggered
  refine (List.pairwise_mergeSort ?_ ?_ _).imp fun h => ?_
  · intro a b c hab hbc
    simp only [Bool.or_eq_true, Bool.and_eq_true, decide_eq_true_eq] at hab hbc ⊢
    rcases hab with hab | ⟨hab, hab'⟩ <;> rcases hbc with hbc | ⟨hbc, hbc'⟩
    · exact Or.inl (by omega)
    · exact Or.inl (by omega)
    · exact Or.inl (by omega)
    · exact Or.inr ⟨by omega, hbc'.trans hab'⟩
  · intro a b
    simp only [Bool.or_eq_true, Bool.and_eq_true, decide_eq_true_eq]
    rcases Nat.lt_trichotomy (severityRank a.severity) (severityRank b.severity) with
      hlt | heq | hgt
    · exact Or.inr (Or.inl hlt)
    · exact (le_total b.confidence a.confidence).imp (fun h => Or.inr ⟨heq, h⟩)
        fun h => Or.inr ⟨heq.symm, h⟩
    · exact Or.inl (Or.inl hgt)
  · simp only [Bool.or_eq_true, Bool.and_eq_true, decide_eq_true_eq] at h
    exact h

theorem runDetectors_coherent (hne : signals ≠ []) (h : ∀ s ∈ signals, s.Coherent) :
    (runDetectors signals).Coherent := by
  obtain ⟨hmem, -, hupper⟩ := foldl_maxSeverity (signals.map DetectionSignal.severity) .NONE
  have hall : ∀ s ∈ signals,
      severityRank s.severity ≤ severityRank (runDetectors signals).severity :=
    fun s hs => hupper s.severity (List.mem_map_of_mem hs)
  have hattained : ∃ s ∈ signals, s.severity = (runDetectors signals).severity := by
    rcases hmem with hnone | hmem
    · obtain ⟨s, hs⟩ := List.exists_mem_of_ne_nil signals hne
      refine ⟨s, hs, severityRank_injective (Nat.le_antisymm (hall s hs) ?_)⟩
      have hzero : (runDetectors signals).severity = .NONE := hnone
      rw [hzero]
      exact Nat.zero_le _
    · obtain ⟨s, hs, heq⟩ := List.mem_map.mp hmem
      exact ⟨s, hs, heq⟩
  refine ⟨hall, hattained, ?_, List.mergeSort_perm _ _, triggered_ordered _⟩
  have hflag : (runDetectors signals).flagged = true ↔
      severityRank .MEDIUM ≤ severityRank (runDetectors signals).severity := decide_eq_true_iff
  rw [hflag]
  constructor
  · intro hmedium
    obtain ⟨s, hs, heq⟩ := hattained
    rw [← heq, medium_le_iff] at hmedium
    exact ⟨s, hs, (h s hs).flagged_iff.mpr hmedium⟩
  · rintro ⟨s, hs, hflagged⟩
    have hmedium := medium_le_iff.mpr ((h s hs).flagged_iff.mp hflagged)
    exact Nat.le_trans hmedium (hall s hs)

end Reports

section Monotone

variable {print : Printer} {feats feats' : ReplayFeatures ℚ} {cfg : DetectorConfig}

-- The holds are as many and as long on average, and vary less or are shorter.
structure HoldCleaner (feats feats' : ReplayFeatures ℚ) : Prop where
  n : feats'.hold.n = feats.hold.n
  mean : feats'.hold.mean = feats.hold.mean
  std : feats'.hold.std ≤ feats.hold.std
  p90 : feats'.hold.p90 ≤ feats.hold.p90

theorem hold_rank :
    severityRank (detectHoldUniformity print feats cfg).severity =
      if feats.hold.n < cfg.holdMinSamples then 0
      else if feats.hold.mean ≤ 0 then 3
      else (if feats.hold.std / feats.hold.mean ≤ cfg.holdCovFloor then 2 else 0) +
        if feats.hold.p90 ≤ cfg.holdInstantMs then 1 else 0 := by
  dsimp only [detectHoldUniformity, holdSignal]
  split
  · rfl
  split
  · rfl
  by_cases huniform : feats.hold.std / feats.hold.mean ≤ cfg.holdCovFloor <;>
    by_cases hinstant : feats.hold.p90 ≤ cfg.holdInstantMs <;>
      simp [huniform, hinstant, signalOf, severityRank]

theorem hold_monotone (h : HoldCleaner feats feats') :
    severityRank (detectHoldUniformity print feats cfg).severity ≤
      severityRank (detectHoldUniformity print feats' cfg).severity := by
  rw [hold_rank, hold_rank, h.n, h.mean]
  split
  · exact Nat.le_refl 0
  split
  · exact Nat.le_refl 3
  rename_i hmean
  have hcov : feats'.hold.std / feats.hold.mean ≤ feats.hold.std / feats.hold.mean :=
    div_le_div_of_nonneg_right h.std (not_le.mp hmean).le
  refine Nat.add_le_add ?_ ?_
  · split
    · rename_i huniform
      rw [if_pos (hcov.trans huniform)]
    · exact Nat.zero_le _
  · split
    · rename_i hinstant
      rw [if_pos (h.p90.trans hinstant)]
    · exact Nat.zero_le _

-- The runs are no shorter and no fewer.
structure RoboticCleaner (feats feats' : ReplayFeatures ℚ) : Prop where
  longest : maxRoboticRunTaps feats ≤ maxRoboticRunTaps feats'
  runCount : feats.roboticTapRuns.size ≤ feats'.roboticTapRuns.size
  mechanical : mechanicalRuns feats ≤ mechanicalRuns feats'

theorem robotic_rank :
    severityRank (detectRoboticTiming feats cfg).severity =
      (if strongComb feats cfg then 2 else 0) + if mechanicalCursor feats cfg then 1 else 0 := by
  dsimp only [detectRoboticTiming, roboticSignal]
  cases strongComb feats cfg <;> cases mechanicalCursor feats cfg <;> rfl

theorem robotic_monotone (h : RoboticCleaner feats feats') :
    severityRank (detectRoboticTiming feats cfg).severity ≤
      severityRank (detectRoboticTiming feats' cfg).severity := by
  have hcomb : strongComb feats cfg = true → strongComb feats' cfg = true := by
    simp only [strongComb, Bool.or_eq_true, decide_eq_true_eq]
    have := h.longest
    have := h.runCount
    omega
  have hcursor : mechanicalCursor feats cfg = true → mechanicalCursor feats' cfg = true := by
    simp only [mechanicalCursor, decide_eq_true_eq]
    have := h.mechanical
    omega
  rw [robotic_rank, robotic_rank]
  refine Nat.add_le_add ?_ ?_
  · split
    · rename_i hstrong
      rw [if_pos (hcomb hstrong)]
    · exact Nat.zero_le _
  · split
    · rename_i hmechanical
      rw [if_pos (hcursor hmechanical)]
    · exact Nat.zero_le _

end Monotone

section Aim

-- What is measured of the jumps.
structure AimMeasures where
  legs : Int
  overshoot : ℚ
  arc : ℚ
  variation : Option ℚ

def aimMeasures (feats : ReplayFeatures ℚ) : AimMeasures where
  legs := feats.jump.n
  overshoot := feats.jump.overshoot.p90
  arc := feats.jump.arc.std
  variation := coefficientOfVariation feats.jump.vel

-- A variation that is not defined is the cleanest.
def VariationCleaner : Option ℚ → Option ℚ → Prop
  | _, none => True
  | none, some _ => False
  | some velCov, some velCov' => velCov' ≤ velCov

namespace AimMeasures

-- One of the quantities moves in the direction of a machine.
inductive Cleaner : AimMeasures → AimMeasures → Prop
  | overshoot (m : AimMeasures) (overshoot : ℚ) (h : overshoot ≤ m.overshoot) :
      Cleaner m { m with overshoot := overshoot }
  | arc (m : AimMeasures) (arc : ℚ) (h : arc ≤ m.arc) : Cleaner m { m with arc := arc }
  | variation (m : AimMeasures) (variation : Option ℚ)
      (h : VariationCleaner m.variation variation) : Cleaner m { m with variation := variation }

variable (cfg : DetectorConfig) (m m' : AimMeasures)

def variationMet : Bool := m.variation.any fun velCov => velCov ≤ cfg.aimVelCovFloor

-- How many of the three conditions are met.
def met : ℕ :=
  (if m.overshoot ≤ cfg.aimOvershootP90Floor then 1 else 0) +
    (if m.arc ≤ cfg.aimArcStdFloor then 1 else 0) + if m.variationMet cfg then 1 else 0

-- The ways in which a cleaner aim is found to be less severe: a second condition is met where
-- three are asked for, or the variation that met its condition is not defined any more.
structure Lowers : Prop where
  enough : cfg.aimMinJumpLegs ≤ m.legs
  cleaner : Cleaner m m'
  lowered : 3 ≤ cfg.aimConditionsForFlag ∧ m.met cfg = 1 ∧ m'.met cfg = 2 ∨
    m.variationMet cfg ∧ m'.variation = none ∧
      (m.met cfg = 1 ∧ 1 ≤ cfg.aimConditionsForFlag ∨
        m.met cfg = 2 ∧ cfg.aimConditionsForFlag = 2 ∨
          m.met cfg = 3 ∧ cfg.aimConditionsForFlag ≤ 3)

end AimMeasures

def aimRank (conditionsForFlag : Int) (met : ℕ) : ℕ :=
  if conditionsForFlag ≤ met then if 3 ≤ met then 3 else 2 else if met = 1 then 1 else 0

variable {print : Printer} {feats feats' : ReplayFeatures ℚ} {cfg : DetectorConfig}
variable {m m' : AimMeasures} {k : Int} {n : ℕ}

theorem length_aimReasons : (aimReasons print feats cfg).length = (aimMeasures feats).met cfg := by
  unfold aimReasons AimMeasures.met AimMeasures.variationMet aimMeasures
  dsimp only
  rw [List.length_append, List.length_append]
  congr 1
  · congr 1
    · split <;> rfl
    · split <;> rfl
  · cases coefficientOfVariation feats.jump.vel with
    | none => rfl
    | some velCov =>
      simp only [Option.any_some, decide_eq_true_eq]
      split <;> rfl

theorem aim_rank :
    severityRank (detectAimController print feats cfg).severity =
      if feats.jump.n < cfg.aimMinJumpLegs then 0
      else aimRank cfg.aimConditionsForFlag ((aimMeasures feats).met cfg) := by
  dsimp only [detectAimController, aimSignal, aimRank]
  rw [length_aimReasons]
  split
  · rfl
  split
  · dsimp only [signalOf]
    split <;> rfl
  split <;> rfl

-- One condition more is met.
theorem aimRank_succ (hn : n < 3) : aimRank k n ≤ aimRank k (n + 1) ↔ ¬(3 ≤ k ∧ n = 1) := by
  unfold aimRank
  split <;> split <;> split <;> split <;> omega

-- One condition is not met any more.
theorem aimRank_pred (hn : n < 3) :
    aimRank k (n + 1) ≤ aimRank k n ↔
      ¬(n + 1 = 1 ∧ 1 ≤ k ∨ n + 1 = 2 ∧ k = 2 ∨ n + 1 = 3 ∧ k ≤ 3) := by
  unfold aimRank
  split <;> split <;> split <;> split <;> omega

theorem step_of_imp {p q : Prop} [Decidable p] [Decidable q] (h : p → q) :
    (if q then 1 else 0 : ℕ) = (if p then 1 else 0) ∨
      (if q then 1 else 0 : ℕ) = (if p then 1 else 0) + 1 := by
  by_cases hp : p
  · exact Or.inl (by rw [if_pos hp, if_pos (h hp)])
  · rw [if_neg hp]
    split
    · exact Or.inr rfl
    · exact Or.inl rfl

-- The variation was low enough, and is not defined any more.
def AimMeasures.Lost (cfg : DetectorConfig) (m m' : AimMeasures) : Prop :=
  m.variationMet cfg ∧ m'.variation = none

theorem AimMeasures.not_lost (h : m'.variation = m.variation) : ¬m.Lost cfg m' := by
  rintro ⟨hmet, hnone⟩
  rw [variationMet, ← h, hnone] at hmet
  cases hmet

-- Either one condition more is met or none, or the variation's is not met any more.
theorem AimMeasures.Cleaner.met_cases (cfg : DetectorConfig) (h : m.Cleaner m') :
    ¬m.Lost cfg m' ∧ (m'.met cfg = m.met cfg ∨ m'.met cfg = m.met cfg + 1) ∨
      m.Lost cfg m' ∧ m.met cfg = m'.met cfg + 1 := by
  cases h with
  | overshoot overshoot h =>
    left
    refine ⟨not_lost rfl, ?_⟩
    have hstep := step_of_imp fun hlow : m.overshoot ≤ cfg.aimOvershootP90Floor => h.trans hlow
    unfold met variationMet
    dsimp only
    omega
  | arc arc h =>
    left
    refine ⟨not_lost rfl, ?_⟩
    have hstep := step_of_imp fun hlow : m.arc ≤ cfg.aimArcStdFloor => h.trans hlow
    unfold met variationMet
    dsimp only
    omega
  | variation variation h =>
    cases variation with
    | none =>
      cases hmet : m.variationMet cfg with
      | true =>
        right
        refine ⟨⟨hmet, rfl⟩, ?_⟩
        unfold met
        rw [hmet]
        simp [variationMet]
      | false =>
        left
        refine ⟨fun hlost => absurd hlost.1 (by simp [hmet]), Or.inl ?_⟩
        unfold met
        rw [hmet]
        simp [variationMet]
    | some velCov' =>
      left
      refine ⟨fun hlost => absurd hlost.2 (by simp), ?_⟩
      obtain ⟨velCov, hvel, hle⟩ : ∃ velCov, m.variation = some velCov ∧ velCov' ≤ velCov := by
        cases hvel : m.variation with
        | none =>
          rw [hvel] at h
          exact h.elim
        | some velCov =>
          rw [hvel] at h
          exact ⟨velCov, rfl, h⟩
      have hstep := step_of_imp fun hlow : velCov ≤ cfg.aimVelCovFloor => hle.trans hlow
      unfold met variationMet
      simp only [hvel, Option.any_some, decide_eq_true_eq]
      omega

theorem aim_lowers_iff (hclean : m.Cleaner m') (henough : cfg.aimMinJumpLegs ≤ m.legs) :
    aimRank cfg.aimConditionsForFlag (m.met cfg) ≤ aimRank cfg.aimConditionsForFlag (m'.met cfg) ↔
      ¬m.Lowers cfg m' := by
  have hbound : m.met cfg ≤ 3 ∧ m'.met cfg ≤ 3 := by
    unfold AimMeasures.met
    constructor <;> (split <;> split <;> split <;> omega)
  have hlowers : m.Lowers cfg m' ↔ _ :=
    ⟨AimMeasures.Lowers.lowered, AimMeasures.Lowers.mk henough hclean⟩
  rw [hlowers]
  rcases hclean.met_cases cfg with ⟨hkept, heq | hmore⟩ | ⟨⟨hmet, hnone⟩, hless⟩
  · rw [heq]
    refine iff_of_true (Nat.le_refl _) ?_
    rintro (hsecond | ⟨hmet, hnone, -⟩)
    · omega
    · exact hkept ⟨hmet, hnone⟩
  · rw [hmore, aimRank_succ (by omega)]
    refine not_congr ⟨fun h => Or.inl (by omega), ?_⟩
    rintro (hsecond | ⟨hmet, hnone, -⟩)
    · omega
    · exact absurd ⟨hmet, hnone⟩ hkept
  · rw [hless, aimRank_pred (by omega)]
    refine not_congr ⟨fun h => Or.inr ⟨hmet, hnone, h⟩, ?_⟩
    rintro (hsecond | ⟨-, -, h⟩)
    · omega
    · exact h

-- A cleaner aim is found to be as severe at least, unless it is one of those that are lowered.
theorem aim_monotone_iff :
    ((aimMeasures feats).Cleaner (aimMeasures feats') →
      severityRank (detectAimController print feats cfg).severity ≤
        severityRank (detectAimController print feats' cfg).severity) ↔
      ¬(aimMeasures feats).Lowers cfg (aimMeasures feats') := by
  have hlegs (hclean : (aimMeasures feats).Cleaner (aimMeasures feats')) :
      feats'.jump.n = feats.jump.n := by
    have hsame {m m' : AimMeasures} (h : m.Cleaner m') : m'.legs = m.legs := by
      cases h <;> rfl
    exact hsame hclean
  rw [aim_rank, aim_rank]
  constructor
  · intro h hlowers
    have hn : ¬feats.jump.n < cfg.aimMinJumpLegs := not_lt.mpr hlowers.enough
    have hrank := h hlowers.cleaner
    rw [hlegs hlowers.cleaner, if_neg hn, if_neg hn] at hrank
    exact (aim_lowers_iff hlowers.cleaner hlowers.enough).mp hrank hlowers
  · intro h hclean
    rw [hlegs hclean]
    split
    · exact Nat.le_refl 0
    · rename_i hn
      exact (aim_lowers_iff hclean (not_lt.mp hn)).mpr h

-- What the detectors promise of two records: none lowers its severity where the second is the
-- cleaner one, and the signals and the report of the first are coherent.
structure DetectorsLawful (print : Printer) (cfg : DetectorConfig)
    (feats feats' : ReplayFeatures ℚ) : Prop where
  hold : HoldCleaner feats feats' →
    severityRank (detectHoldUniformity print feats cfg).severity ≤
      severityRank (detectHoldUniformity print feats' cfg).severity
  aim : (aimMeasures feats).Cleaner (aimMeasures feats') →
    severityRank (detectAimController print feats cfg).severity ≤
      severityRank (detectAimController print feats' cfg).severity
  robotic : RoboticCleaner feats feats' →
    severityRank (detectRoboticTiming feats cfg).severity ≤
      severityRank (detectRoboticTiming feats' cfg).severity
  signals : ∀ s ∈ (detectionReport print feats cfg).signals, s.Coherent
  report : (detectionReport print feats cfg).Coherent

theorem detectors_lawful_iff (print : Printer) (cfg : DetectorConfig)
    (feats feats' : ReplayFeatures ℚ) :
    DetectorsLawful print cfg feats feats' ↔
      ¬(aimMeasures feats).Lowers cfg (aimMeasures feats') := by
  refine ⟨fun h => aim_monotone_iff.mp h.aim, fun h => ⟨hold_monotone, aim_monotone_iff.mpr h,
    robotic_monotone, movementSignals_coherent, ?_⟩⟩
  exact runDetectors_coherent (List.cons_ne_nil _ _) movementSignals_coherent

def jumpDistribution (mean std p90 : ℚ) : Distribution ℚ where
  n := 200
  mean := mean
  std := std
  p10 := 0
  p25 := 0
  p50 := 0
  p75 := 0
  p90 := p90
  p99 := p90
  max := p90

def jumpSegment (kind : SegmentKind) (arcStd velMean velStd : ℚ) : SegmentStats ℚ where
  kind := kind
  n := 200
  arc := jumpDistribution 30 arcStd 60
  vel := jumpDistribution velMean velStd 2
  overshoot := jumpDistribution 0 0 0
  dt := jumpDistribution 200 10 200

-- The overshoot of its jumps is low, and their arcs and speeds are given.
def sampleJumps (arcStd velMean velStd : ℚ) : ReplayFeatures ℚ where
  frameCount := 5000
  durationMs := 60000
  tapCount := 201
  usesKeyboard := true
  hold := jumpDistribution 60 20 90
  jump := jumpSegment .JUMP arcStd velMean velStd
  stream := jumpSegment .STREAM 31 1 1
  idle := jumpSegment .IDLE 31 1 1
  roboticTapRuns := #[]
  straightRuns := #[]
  constantVelocityRuns := #[]
  frozenSpans := #[]
  totalPath := 40000
  straightLineDisplacement := 100
  tortuosity := 400
  jitterMean := 0
  jitterStd := 0
  jitterThreshold := 0
  jitterSpikeCount := 0

def samplePrinter : Printer where
  fixed _ q := toString q.num ++ "/" ++ toString q.den
  str q := toString q.num ++ "/" ++ toString q.den

-- The defaults, and what another number of conditions makes of them.
def standardConfig : DetectorConfig := {}

def threeConditions : DetectorConfig := { aimConditionsForFlag := 3 }

theorem met_sampleJumps (cfg : DetectorConfig) (arcStd velMean velStd : ℚ) :
    (aimMeasures (sampleJumps arcStd velMean velStd)).met cfg =
      1 + (if arcStd ≤ cfg.aimArcStdFloor then 1 else 0) +
        if 0 < velMean ∧ velStd / velMean ≤ cfg.aimVelCovFloor then 1 else 0 := by
  have hovershoot : (0 : ℚ) ≤ cfg.aimOvershootP90Floor := cfg.aimOvershootP90Floor_pos.le
  simp only [AimMeasures.met, AimMeasures.variationMet, aimMeasures, sampleJumps, jumpSegment,
    jumpDistribution, coefficientOfVariation]
  by_cases harc : arcStd ≤ cfg.aimArcStdFloor <;> by_cases hmean : velMean ≤ 0
  · simp [hovershoot, harc, hmean, not_lt.mpr hmean]
  · simp [hovershoot, harc, hmean, not_le.mp hmean]
  · simp [hovershoot, harc, hmean, not_lt.mpr hmean]
  · simp [hovershoot, harc, hmean, not_le.mp hmean]

-- Where three conditions are asked for, a second one that is met takes the severity from low to
-- none; and a speed that is 0 all along takes it from medium to low.
theorem not_detectors_lawful :
    ¬DetectorsLawful samplePrinter threeConditions (sampleJumps 31 1 1) (sampleJumps 5 1 1) ∧
      ¬DetectorsLawful samplePrinter standardConfig (sampleJumps 31 1 0) (sampleJumps 31 0 0) := by
  constructor
  · intro h
    have hrank := h.aim (.arc (aimMeasures (sampleJumps 31 1 1)) 5 (by norm_num [aimMeasures,
      sampleJumps, jumpSegment, jumpDistribution]))
    rw [aim_rank, aim_rank, met_sampleJumps, met_sampleJumps] at hrank
    norm_num [threeConditions, sampleJumps, jumpSegment, aimRank] at hrank
  · intro h
    have hrank := h.aim (.variation (aimMeasures (sampleJumps 31 1 0)) none trivial)
    rw [aim_rank, aim_rank, met_sampleJumps, met_sampleJumps] at hrank
    norm_num [standardConfig, sampleJumps, jumpSegment, aimRank] at hrank

end Aim

end BanchoPrism.Anticheat
