import BanchoPrism.Anticheat.Features
import BanchoPrism.Anticheat.Taps
import BanchoPrism.Library.Mapping
import BanchoPrism.Library.Stretches

namespace BanchoPrism.Anticheat

open Library
open BanchoPrism.Library.Stretch (advance flush openRuns)

def ROBOTIC_MIN_TAPS : Nat := 6

def ROBOTIC_MIN_DT_MS : Int := 25

def STREAM_MAX_DT_MS : Int := 150

def ROBOTIC_MAX_DT_MS : Int := STREAM_MAX_DT_MS

def STRAIGHT_MIN_FRAMES : Nat := 4

def CONST_V_MIN_FRAMES : Nat := 4

def FROZEN_MIN_FRAMES : Nat := 3

variable {F : Type}

-- What is computed of a step or of two: hypot over the time, or 0 where no time passes; a turn
-- of under one degree between legs that are long enough; two speeds that hardly differ; and the
-- hypot between two samples.
structure Geometry (F : Type) where
  speed : Sample F → Sample F → F
  straight : Sample F → Sample F → Sample F → Bool
  steady : F → F → Bool
  distance : Sample F → Sample F → F

-- [step(l[i - 1], l[i]) for i in range(1, len(l))]. An index that leaves the list is an
-- IndexError, which is none here and below.
def steps {α β : Type} (step : α → α → β) (l : List α) : Option (List β) :=
  (List.range' 1 (l.length - 1)).mapM fun i => do
    let current ← l[i]?
    let previous ← l[i - 1]?
    return step previous current

section Taps

def tapIntervals (taps : List (Sample F)) : Option (List Int) :=
  steps (fun previous tap => tap.t - previous.t) taps

def InBand (dt : Int) : Prop := ROBOTIC_MIN_DT_MS ≤ dt ∧ dt ≤ ROBOTIC_MAX_DT_MS

instance (dt : Int) : Decidable (InBand dt) := inferInstanceAs (Decidable (_ ∧ _))

def roboticTapRun (taps : List (Sample F)) (dt : Int) (i j : Nat) : Option RoboticTapRun := do
  let first ← taps[i]?
  let last ← taps[j]?
  -- intervals -> taps that bound them
  return { startMs := first.t, endMs := last.t, tapCount := (j - i : Nat) + 1, dtMs := dt }

-- while i < n
def roboticFrom (taps : List (Sample F)) (intervals : List Int) (i : Nat)
    (runs : List RoboticTapRun) : Option (List RoboticTapRun) :=
  if i < intervals.length then do
    let dt ← intervals[i]?
    if InBand dt then
      let j ← advance (fun j => intervals[j]?.map fun other => decide (other = dt))
        intervals.length i
      let runs ← flush ROBOTIC_MIN_TAPS (roboticTapRun taps dt) runs (some i) j
      roboticFrom taps intervals (if i < j then j else i + 1) runs
    else roboticFrom taps intervals (i + 1) runs
  else some runs
  termination_by intervals.length - i
  decreasing_by
    · split <;> omega
    · omega

def roboticTapRuns (taps : List (Sample F)) : Option (List RoboticTapRun) := do
  let intervals ← tapIntervals taps
  roboticFrom taps intervals 0 []

end Taps

section Frames

variable (g : Geometry F)

def stepVelocities (samples : List (Sample F)) : Option (List F) := steps g.speed samples

def straightAt (samples : List (Sample F)) (i : Nat) : Option Bool := do
  let previous ← samples[i - 1]?
  let sample ← samples[i]?
  let next ← samples[i + 1]?
  return g.straight previous sample next

def straightRun (samples : List (Sample F)) (start stop : Nat) : Option (StraightRun F) := do
  let first ← samples[start]?
  let last ← samples[stop]?
  return {
    startMs := first.t, frameCount := (stop - start : Nat), distance := g.distance first last }

def straightRuns (samples : List (Sample F)) : Option (List (StraightRun F)) :=
  openRuns (straightAt g samples) STRAIGHT_MIN_FRAMES (straightRun g samples) 1
    (samples.length - 1)

def steadyAt (velocities : List F) (i : Nat) : Option Bool := do
  let cur ← velocities[i]?
  let prev ← velocities[i - 1]?
  return g.steady cur prev

-- velocity index j corresponds to sample j+1; report the run's start time.
def constVRun (samples : List (Sample F)) (velocities : List F) (start stop : Nat) :
    Option (ConstantVelocityRun F) := do
  let first ← samples[start + 1]?
  let velocity ← velocities[start]?
  return { startMs := first.t, frameCount := (stop - start : Nat), velocity := velocity }

def constantVelocityRuns (samples : List (Sample F)) (velocities : List F) :
    Option (List (ConstantVelocityRun F)) :=
  openRuns (steadyAt g velocities) CONST_V_MIN_FRAMES (constVRun samples velocities) 1
    velocities.length

end Frames

section Frozen

variable [DecidableEq F]

def frozenSpan (samples : List (Sample F)) (i j : Nat) : Option (FrozenSpan F) := do
  let first ← samples[i]?
  return { startMs := first.t, x := first.x, y := first.y, frameCount := (j - i : Nat) }

def sameAt (samples : List (Sample F)) (i j : Nat) : Option Bool := do
  let sample ← samples[j]?
  let first ← samples[i]?
  return decide (sample.x = first.x ∧ sample.y = first.y)

-- while i < n - 1
def frozenFrom (samples : List (Sample F)) (i : Nat) (spans : List (FrozenSpan F)) :
    Option (List (FrozenSpan F)) :=
  if i < samples.length - 1 then do
    let j ← advance (sameAt samples i) samples.length i
    let spans ← flush FROZEN_MIN_FRAMES (frozenSpan samples) spans (some i) j
    frozenFrom samples (if i < j then j else i + 1) spans
  else some spans
  termination_by samples.length - i
  decreasing_by split <;> omega

def frozenSpans (samples : List (Sample F)) : Option (List (FrozenSpan F)) :=
  frozenFrom samples 0 []

end Frozen

section Steps

variable {α β : Type} {step : α → α → β} {l : List α}

-- What is computed of an element and the next one.
def stepAt (step : α → α → β) (l : List α) (k : Nat) : Option β := do
  let current ← l[k]?
  let next ← l[k + 1]?
  return step current next

theorem steps_spec (step : α → α → β) (l : List α) :
    ∃ values, steps step l = some values ∧ values.length = l.length - 1 ∧
      ∀ k, values[k]? = stepAt step l k := by
  refine ⟨List.zipWith step l l.tail, ?_, by simp, fun k => ?_⟩
  · refine mapM_of_map_eq (List.ext_getElem (by simp) fun k hk hk' => ?_)
    have hlt : k + 1 < l.length := by
      rw [List.length_map, List.length_range'] at hk
      omega
    have hprevious : 1 + 1 * k - 1 = k := by omega
    have hcurrent : 1 + 1 * k = k + 1 := by omega
    rw [List.getElem_map, List.getElem_map, List.getElem_range', hprevious, hcurrent,
      List.getElem?_eq_getElem hlt, List.getElem?_eq_getElem (Nat.lt_of_succ_lt hlt),
      List.getElem_zipWith, List.getElem_tail]
    rfl
  · rw [List.getElem?_zipWith, List.getElem?_tail, stepAt]
    cases l[k]? <;> cases l[k + 1]? <;> rfl

end Steps

section Robotic

variable {taps : List (Sample F)} {intervals : List Int}

-- The time from a tap to the next one.
def intervalAt (taps : List (Sample F)) (k : Nat) : Option Int :=
  stepAt (fun previous tap => tap.t - previous.t) taps k

-- A run of equal intervals is told of by the taps at its ends.
structure RoboticTapRun.Tells (taps : List (Sample F)) (s : Stretch) (run : RoboticTapRun) :
    Prop where
  start : (taps[s.start]?).map Sample.t = some run.startMs
  stop : (taps[s.stop]?).map Sample.t = some run.endMs
  count : run.tapCount = s.length + 1
  interval : intervalAt taps s.start = some run.dtMs

theorem roboticFrom_exact {i : Nat} {runs : List RoboticTapRun}
    (hlength : intervals.length = taps.length - 1) (hget : ∀ k, intervals[k]? = intervalAt taps k)
    (htold : Stretch.Told (Stretch.Alike InBand (intervalAt taps)) (RoboticTapRun.Tells taps) 0
      intervals.length ROBOTIC_MIN_TAPS i runs) :
    ∃ runs', roboticFrom taps intervals i runs = some runs' ∧
      Stretch.AllTold (Stretch.Alike InBand (intervalAt taps)) (RoboticTapRun.Tells taps) 0
        (taps.length - 1) ROBOTIC_MIN_TAPS runs' := by
  induction hrest : intervals.length - i using Nat.strong_induction_on generalizing i runs with
  | _ rest ih =>
    rw [roboticFrom]
    split
    · rename_i hi
      have hdt := List.getElem?_eq_getElem hi
      rw [hdt, Option.bind_eq_bind, Option.bind_some]
      split
      · rename_i hband
        have htest : ∀ k < intervals.length,
            (intervals[k]?.map fun other => decide (other = intervals[i])) =
              some (decide (intervalAt taps k = some intervals[i])) := by
          intro k hk
          rw [← hget k, List.getElem?_eq_getElem hk, Option.map_some]
          simp only [Option.some.injEq]
        have htell : ∀ j, i < j → j ≤ intervals.length →
            ∃ run, roboticTapRun taps intervals[i] i j = some run ∧
              RoboticTapRun.Tells taps ⟨i, j⟩ run := by
          intro j hij hj
          have hfirst := List.getElem?_eq_getElem (l := taps) (i := i) (by omega)
          have hlast := List.getElem?_eq_getElem (l := taps) (i := j) (by omega)
          refine ⟨_, by rw [roboticTapRun, hfirst, hlast]; rfl, ?_⟩
          exact ⟨by rw [hfirst]; rfl, by rw [hlast]; rfl, rfl, (hget i).symm.trans hdt⟩
        obtain ⟨j, runs', hadvance, hij, hj, hflush, hnext⟩ :=
          htold.alike (Nat.zero_le i) hi ((hget i).symm.trans hdt) hband htest htell
        rw [hadvance, Option.bind_eq_bind, Option.bind_some, hflush, Option.bind_eq_bind,
          Option.bind_some, if_pos hij]
        exact ih _ (by omega) hnext rfl
      · rename_i hband
        refine ih _ (by omega) (htold.skip fun k hk hgood => ?_) rfl
        obtain ⟨dt, hok, hall⟩ := hgood
        have hsame := (hget i).trans (hall i (Nat.le_refl i) hk)
        rw [hdt, Option.some.injEq] at hsame
        exact hband (hsame ▸ hok)
    · refine ⟨runs, rfl, ?_⟩
      rw [← hlength]
      exact htold.all (by unfold ROBOTIC_MIN_TAPS; omega)

end Robotic

section Frozen

variable [DecidableEq F] {samples : List (Sample F)}

-- Where the cursor is.
def positionAt (samples : List (Sample F)) (k : Nat) : Option (F × F) :=
  (samples[k]?).map fun sample => (sample.x, sample.y)

structure FrozenSpan.Tells (samples : List (Sample F)) (s : Stretch) (span : FrozenSpan F) :
    Prop where
  start : (samples[s.start]?).map Sample.t = some span.startMs
  position : positionAt samples s.start = some (span.x, span.y)
  count : span.frameCount = s.length

theorem frozenFrom_exact {i : Nat} {spans : List (FrozenSpan F)}
    (htold : Stretch.Told (Stretch.Alike (fun _ => True) (positionAt samples))
      (FrozenSpan.Tells samples) 0 samples.length FROZEN_MIN_FRAMES i spans) :
    ∃ spans', frozenFrom samples i spans = some spans' ∧
      Stretch.AllTold (Stretch.Alike (fun _ => True) (positionAt samples))
        (FrozenSpan.Tells samples) 0 samples.length FROZEN_MIN_FRAMES spans' := by
  induction hrest : samples.length - i using Nat.strong_induction_on generalizing i spans with
  | _ rest ih =>
    rw [frozenFrom]
    split
    · rename_i hi
      have hlt : i < samples.length := by omega
      have hfirst := List.getElem?_eq_getElem hlt
      have hposition : positionAt samples i = some (samples[i].x, samples[i].y) := by
        rw [positionAt, hfirst, Option.map_some]
      have htest : ∀ k < samples.length, sameAt samples i k =
          some (decide (positionAt samples k = some (samples[i].x, samples[i].y))) := by
        intro k hk
        rw [sameAt, hfirst, positionAt, List.getElem?_eq_getElem hk, Option.map_some]
        simp only [Option.bind_eq_bind, Option.bind_some, Option.pure_def, Option.some.injEq,
          Prod.mk.injEq]
      have htell : ∀ j, i < j → j ≤ samples.length →
          ∃ span, frozenSpan samples i j = some span ∧ FrozenSpan.Tells samples ⟨i, j⟩ span := by
        intro j _ _
        refine ⟨_, by rw [frozenSpan, hfirst]; rfl, ?_⟩
        exact ⟨by rw [hfirst]; rfl, hposition, rfl⟩
      obtain ⟨j, spans', hadvance, hij, hj, hflush, hnext⟩ :=
        htold.alike (Nat.zero_le i) hlt hposition trivial htest htell
      rw [hadvance, Option.bind_eq_bind, Option.bind_some, hflush, Option.bind_eq_bind,
        Option.bind_some, if_pos hij]
      exact ih _ (by omega) hnext rfl
    · exact ⟨spans, rfl, htold.all (by unfold FROZEN_MIN_FRAMES; omega)⟩

end Frozen

section Opened

variable {g : Geometry F} {samples : List (Sample F)}

structure StraightRun.Tells (g : Geometry F) (samples : List (Sample F)) (s : Stretch)
    (run : StraightRun F) : Prop where
  start : (samples[s.start]?).map Sample.t = some run.startMs
  count : run.frameCount = s.length
  distance : ∃ first last, samples[s.start]? = some first ∧ samples[s.stop]? = some last ∧
    run.distance = g.distance first last

-- The vertices are those between two samples.
theorem straightRuns_exact (g : Geometry F) (samples : List (Sample F)) :
    ∃ runs, straightRuns g samples = some runs ∧
      Stretch.AllTold (Stretch.Holds fun i => straightAt g samples i = some true)
        (StraightRun.Tells g samples) 1 (samples.length - 1) STRAIGHT_MIN_FRAMES runs := by
  refine Stretch.openRuns_exact (fun a b ha hab hb => ?_) (fun k hlo hhi => ?_) (by decide)
  · have hfirst := List.getElem?_eq_getElem (l := samples) (i := a) (by omega)
    have hlast := List.getElem?_eq_getElem (l := samples) (i := b) (by omega)
    refine ⟨_, by rw [straightRun, hfirst, hlast]; rfl, ?_⟩
    exact ⟨by rw [hfirst]; rfl, rfl, _, _, hfirst, hlast, rfl⟩
  · have hprevious := List.getElem?_eq_getElem (l := samples) (i := k - 1) (by omega)
    have hcurrent := List.getElem?_eq_getElem (l := samples) (i := k) (by omega)
    have hnext := List.getElem?_eq_getElem (l := samples) (i := k + 1) (by omega)
    simp [straightAt, hprevious, hcurrent, hnext]

-- The speed of the step from a sample to the next one.
def velocityAt (g : Geometry F) (samples : List (Sample F)) (k : Nat) : Option F :=
  stepAt g.speed samples k

-- Whether a step is about as fast as the one before it.
def steadyStepAt (g : Geometry F) (samples : List (Sample F)) (i : Nat) : Option Bool := do
  let cur ← velocityAt g samples i
  let prev ← velocityAt g samples (i - 1)
  return g.steady cur prev

-- Such a run starts where its first step ends.
structure ConstantVelocityRun.Tells (g : Geometry F) (samples : List (Sample F)) (s : Stretch)
    (run : ConstantVelocityRun F) : Prop where
  start : (samples[s.start + 1]?).map Sample.t = some run.startMs
  count : run.frameCount = s.length
  velocity : velocityAt g samples s.start = some run.velocity

theorem constantVelocityRuns_exact (g : Geometry F) (samples : List (Sample F)) :
    ∃ velocities, stepVelocities g samples = some velocities ∧
      ∃ runs, constantVelocityRuns g samples velocities = some runs ∧
        Stretch.AllTold (Stretch.Holds fun i => steadyStepAt g samples i = some true)
          (ConstantVelocityRun.Tells g samples) 1 (samples.length - 1) CONST_V_MIN_FRAMES runs := by
  obtain ⟨velocities, hvelocities, hlength, hget⟩ := steps_spec g.speed samples
  refine ⟨velocities, hvelocities, ?_⟩
  rw [← hlength]
  have hsteady : ∀ k, steadyAt g velocities k = steadyStepAt g samples k := by
    intro k
    rw [steadyAt, steadyStepAt, hget, hget]
    rfl
  refine Stretch.openRuns_exact (fun a b ha hab hb => ?_) (fun k hlo hhi => ?_) (by decide)
  · have hfirst := List.getElem?_eq_getElem (l := samples) (i := a + 1) (by omega)
    have hvelocity := List.getElem?_eq_getElem (l := velocities) (i := a) (by omega)
    refine ⟨_, by rw [constVRun, hfirst, hvelocity]; rfl, ?_⟩
    exact ⟨by rw [hfirst]; rfl, rfl, (hget a).symm.trans hvelocity⟩
  · have hcur := List.getElem?_eq_getElem (l := velocities) (i := k) (by omega)
    have hprev := List.getElem?_eq_getElem (l := velocities) (i := k - 1) (by omega)
    rw [← hsteady]
    simp [steadyAt, hcur, hprev]

end Opened

-- Each detector tells of exactly the longest stretches of its kind that are long enough.
theorem detected_runs_exact [DecidableEq F] (g : Geometry F) (taps samples : List (Sample F)) :
    (∃ runs, roboticTapRuns taps = some runs ∧
      Stretch.AllTold (Stretch.Alike InBand (intervalAt taps)) (RoboticTapRun.Tells taps) 0
        (taps.length - 1) ROBOTIC_MIN_TAPS runs) ∧
      (∃ spans, frozenSpans samples = some spans ∧
        Stretch.AllTold (Stretch.Alike (fun _ => True) (positionAt samples))
          (FrozenSpan.Tells samples) 0 samples.length FROZEN_MIN_FRAMES spans) ∧
      (∃ runs, straightRuns g samples = some runs ∧
        Stretch.AllTold (Stretch.Holds fun i => straightAt g samples i = some true)
          (StraightRun.Tells g samples) 1 (samples.length - 1) STRAIGHT_MIN_FRAMES runs) ∧
      ∃ velocities, stepVelocities g samples = some velocities ∧
        ∃ runs, constantVelocityRuns g samples velocities = some runs ∧
          Stretch.AllTold (Stretch.Holds fun i => steadyStepAt g samples i = some true)
            (ConstantVelocityRun.Tells g samples) 1 (samples.length - 1) CONST_V_MIN_FRAMES
            runs := by
  refine ⟨?_, frozenFrom_exact Stretch.Told.start, straightRuns_exact g samples,
    constantVelocityRuns_exact g samples⟩
  obtain ⟨intervals, hintervals, hlength, hget⟩ :=
    steps_spec (fun previous tap : Sample F => tap.t - previous.t) taps
  obtain ⟨runs, hruns, hall⟩ := roboticFrom_exact hlength hget Stretch.Told.start
  refine ⟨runs, ?_, hall⟩
  rw [roboticTapRuns, tapIntervals, hintervals]
  exact hruns

end BanchoPrism.Anticheat
