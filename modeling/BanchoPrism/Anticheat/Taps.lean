import BanchoPrism.Library.Edges
import BanchoPrism.Library.Mapping
import BanchoPrism.Library.Rounding
import BanchoPrism.Replays.Osr
import Mathlib.Algebra.BigOperators.Group.List.Basic
import Mathlib.Logic.Function.Basic

namespace BanchoPrism.Anticheat

open Library
open BanchoPrism.Replays (ReplayFrame)

section ReplayKeys

def MOUSE_1 : Nat := 1 <<< 0

def MOUSE_2 : Nat := 1 <<< 1

def KEY_1 : Nat := 1 <<< 2

def KEY_2 : Nat := 1 <<< 3

def KEYBOARD_KEYS : Nat := KEY_1 ||| KEY_2

def KEYBOARD_CHANNELS : List Nat := [KEY_1, KEY_2]

def MOUSE_CHANNELS : List Nat := [MOUSE_1, MOUSE_2]

end ReplayKeys

-- (t, x, y)
structure Sample (F : Type) where
  t : Int
  x : F
  y : F

variable {F : Type}

-- bool(frame.keys & channel)
def isDown (frame : ReplayFrame F) (channel : Nat) : Bool := frame.keys &&& channel ≠ 0

def activeChannels (frames : List (ReplayFrame F)) : Bool × List Nat :=
  let usesKeyboard := frames.any fun frame => isDown frame KEYBOARD_KEYS
  (usesKeyboard, if usesKeyboard then KEYBOARD_CHANNELS else MOUSE_CHANNELS)

-- held is False for a channel that nothing has set.
@[ext]
structure TapScan (F : Type) where
  t : Int := 0
  held : Nat → Bool := fun _ => false
  taps : List (Sample F) := []

def tapChannel (frame : ReplayFrame F) (scan : TapScan F) (channel : Nat) : TapScan F :=
  let now := isDown frame channel
  { scan with
    taps :=
      if now && !scan.held channel then
        scan.taps ++ [{ t := scan.t, x := frame.x, y := frame.y }]
      else scan.taps
    held := Function.update scan.held channel now }

def tapFrame (channels : List Nat) (scan : TapScan F) (frame : ReplayFrame F) : TapScan F :=
  channels.foldl (tapChannel frame) { scan with t := scan.t + frame.timeDelta }

def tapSamples (frames : List (ReplayFrame F)) : Bool × List (Sample F) :=
  let (usesKeyboard, channels) := activeChannels frames
  (usesKeyboard, (frames.foldl (tapFrame channels) {}).taps)

@[ext]
structure HoldScan where
  t : Int := 0
  held : Nat → Bool := fun _ => false
  pressTime : Nat → Option Int := fun _ => none
  durations : List Int := []

def holdChannel (frame : ReplayFrame F) (scan : HoldScan) (channel : Nat) : Option HoldScan := do
  let now := isDown frame channel
  let scan ←
    if now && !scan.held channel then
      some { scan with pressTime := Function.update scan.pressTime channel (some scan.t) }
    else if !now && scan.held channel then do
      let durations ←
        match scan.pressTime channel with
        | none => some scan.durations
        | some start => (floatOf (scan.t - start)).map fun hold => scan.durations ++ [hold]
      some
        { scan with
          durations := durations
          pressTime := Function.update scan.pressTime channel none }
    else some scan
  return { scan with held := Function.update scan.held channel now }

def holdFrame (channels : List Nat) (scan : HoldScan) (frame : ReplayFrame F) : Option HoldScan :=
  channels.foldlM (holdChannel frame) { scan with t := scan.t + frame.timeDelta }

def holdDurations (frames : List (ReplayFrame F)) : Option (List Int) :=
  (frames.foldlM (holdFrame (activeChannels frames).2) {}).map HoldScan.durations

section Signals

-- Whether the channel is down at a frame.
def keyAt (frames : List (ReplayFrame F)) (channel i : Nat) : Bool :=
  (frames[i]?).any fun frame => isDown frame channel

-- The time at which the first so many frames are over.
def timeBefore (frames : List (ReplayFrame F)) (k : Nat) : Int :=
  ((frames.take k).map ReplayFrame.timeDelta).sum

def timeAt (frames : List (ReplayFrame F)) (i : Nat) : Int := timeBefore frames (i + 1)

def sampleAt (frames : List (ReplayFrame F)) (i : Nat) : Option (Sample F) :=
  (frames[i]?).map fun frame => { t := timeAt frames i, x := frame.x, y := frame.y }

-- The channels that go down with a frame, each with the frame's sample.
def edgesAt (frames : List (ReplayFrame F)) (channels : List Nat) (i : Nat) : List (Sample F) :=
  (channels.filter fun channel => Signal.rises (keyAt frames channel) i).filterMap
    fun _ => sampleAt frames i

def risingEdges (frames : List (ReplayFrame F)) (channels : List Nat) (k : Nat) :
    List (Sample F) :=
  (List.range k).flatMap (edgesAt frames channels)

-- A channel that goes down with one frame, and up with a later one.
structure Press where
  channel : Nat
  press : Nat
  release : Nat
  deriving DecidableEq

structure Press.Completed (frames : List (ReplayFrame F)) (p : Press) : Prop where
  rises : Signal.rises (keyAt frames p.channel) p.press
  before : p.press < p.release
  down : ∀ i, p.press ≤ i → i < p.release → keyAt frames p.channel i = true
  up : keyAt frames p.channel p.release = false
  inside : p.release < frames.length

def Press.duration (frames : List (ReplayFrame F)) (p : Press) : Int :=
  timeAt frames p.release - timeAt frames p.press

def releasedAt (frames : List (ReplayFrame F)) (channels : List Nat) (k : Nat) : List Press :=
  channels.filterMap fun channel =>
    if Signal.falls (keyAt frames channel) k then
      (Signal.lastRise (keyAt frames channel) k).map fun i =>
        { channel := channel, press := i, release := k }
    else none

def completedPresses (frames : List (ReplayFrame F)) (channels : List Nat) (k : Nat) :
    List Press :=
  (List.range k).flatMap (releasedAt frames channels)

end Signals

section Scans

variable {frames : List (ReplayFrame F)} {channels : List Nat} {k : Nat}

theorem timeBefore_succ (hk : k < frames.length) :
    timeBefore frames (k + 1) = timeBefore frames k + frames[k].timeDelta := by
  rw [timeBefore, timeBefore, ← List.take_concat_get' frames k hk, List.map_append,
    List.sum_append, List.map_singleton, List.sum_singleton]

theorem keyAt_eq (hk : k < frames.length) (channel : Nat) :
    keyAt frames channel k = isDown frames[k] channel := by
  rw [keyAt, List.getElem?_eq_getElem hk, Option.any_some]

theorem sampleAt_eq (hk : k < frames.length) :
    sampleAt frames k = some { t := timeAt frames k, x := frames[k].x, y := frames[k].y } := by
  rw [sampleAt, List.getElem?_eq_getElem hk, Option.map_some]

-- Each channel is looked at once in a frame, so that what is held is what was held before it.
theorem foldl_tapChannel (frame : ReplayFrame F) (scan : TapScan F) (hnodup : channels.Nodup) :
    channels.foldl (tapChannel frame) scan =
      { t := scan.t
        held := fun channel =>
          if channel ∈ channels then isDown frame channel else scan.held channel
        taps := scan.taps ++
          (channels.filter fun channel => isDown frame channel && !scan.held channel).map
            fun _ => { t := scan.t, x := frame.x, y := frame.y } } := by
  induction channels generalizing scan with
  | nil => simp
  | cons channel rest ih =>
    obtain ⟨hnot, hrest⟩ := List.nodup_cons.mp hnodup
    have hother : ∀ other ∈ rest, (tapChannel frame scan channel).held other = scan.held other :=
      fun other hmem => Function.update_of_ne (fun heq : other = channel => hnot (heq ▸ hmem)) _ _
    rw [List.foldl_cons, ih _ hrest]
    refine TapScan.ext rfl (funext fun other => ?_) ?_
    · by_cases hmem : other ∈ rest
      · simp [hmem]
      · by_cases heq : other = channel
        · subst heq
          simp [hmem, tapChannel]
        · simp [hmem, heq, tapChannel]
    · rw [List.filter_congr fun other hmem => by rw [hother other hmem]]
      simp only [List.filter_cons, tapChannel]
      split
      · rw [List.map_cons, List.append_assoc, List.singleton_append]
      · rfl

-- What the scan knows once so many frames are over.
def tapScanAt (frames : List (ReplayFrame F)) (channels : List Nat) (k : Nat) : TapScan F where
  t := timeBefore frames k
  held channel := decide (channel ∈ channels) && Signal.before (keyAt frames channel) k
  taps := risingEdges frames channels k

theorem tapFrame_at (hnodup : channels.Nodup) (hk : k < frames.length) :
    tapFrame channels (tapScanAt frames channels k) frames[k] =
      tapScanAt frames channels (k + 1) := by
  rw [tapFrame, foldl_tapChannel _ _ hnodup]
  refine TapScan.ext (timeBefore_succ hk).symm (funext fun channel => ?_) ?_
  · by_cases hmem : channel ∈ channels
    · simp [tapScanAt, hmem, keyAt_eq hk]
    · simp [tapScanAt, hmem]
  · have hsample : sampleAt frames k =
        some { t := timeBefore frames k + frames[k].timeDelta, x := frames[k].x,
               y := frames[k].y } := by
      rw [sampleAt_eq hk, timeAt, timeBefore_succ hk]
    have hrises : ∀ channel ∈ channels,
        (isDown frames[k] channel && !(tapScanAt frames channels k).held channel) =
          Signal.rises (keyAt frames channel) k := by
      intro channel hmem
      simp [tapScanAt, hmem, Signal.rises, keyAt_eq hk]
    simp only [tapScanAt] at hrises
    simp only [tapScanAt, risingEdges, List.range_succ, List.flatMap_append,
      List.flatMap_singleton, edgesAt, hsample, List.filter_congr hrises]
    rw [List.filterMap_eq_map']

theorem foldl_tapFrame (hnodup : channels.Nodup) (hk : k ≤ frames.length) :
    (frames.take k).foldl (tapFrame channels) {} = tapScanAt frames channels k := by
  induction k with
  | zero =>
    refine TapScan.ext rfl (funext fun channel => ?_) rfl
    simp [tapScanAt]
  | succ k ih =>
    rw [← List.take_concat_get' frames k hk, List.foldl_append, ih (Nat.le_of_lt hk)]
    exact tapFrame_at hnodup hk

-- The same scan, before a duration is made a float.
def timeChannel (frame : ReplayFrame F) (scan : HoldScan) (channel : Nat) : HoldScan :=
  let now := isDown frame channel
  let scan :=
    if now && !scan.held channel then
      { scan with pressTime := Function.update scan.pressTime channel (some scan.t) }
    else if !now && scan.held channel then
      { scan with
        durations :=
          match scan.pressTime channel with
          | none => scan.durations
          | some start => scan.durations ++ [scan.t - start]
        pressTime := Function.update scan.pressTime channel none }
    else scan
  { scan with held := Function.update scan.held channel now }

def timeFrame (channels : List Nat) (scan : HoldScan) (frame : ReplayFrame F) : HoldScan :=
  channels.foldl (timeChannel frame) { scan with t := scan.t + frame.timeDelta }

def HoldScan.floated (scan : HoldScan) : Option HoldScan :=
  (scan.durations.mapM floatOf).map fun durations => { scan with durations := durations }

theorem map_durations_floated (scan : HoldScan) :
    scan.floated.map HoldScan.durations = scan.durations.mapM floatOf := by
  unfold HoldScan.floated
  cases scan.durations.mapM floatOf <;> rfl

theorem floated_timeChannel (frame : ReplayFrame F) (scan : HoldScan) (channel : Nat) :
    (timeChannel frame scan channel).floated =
      scan.floated.bind fun scan => holdChannel frame scan channel := by
  unfold HoldScan.floated timeChannel holdChannel
  cases hfloats : scan.durations.mapM floatOf
  · cases isDown frame channel <;> cases scan.held channel
    · simp [hfloats]
    · cases scan.pressTime channel with
      | none => simp [hfloats]
      | some start => simp [List.mapM_append, hfloats]
    · simp [hfloats]
    · simp [hfloats]
  · cases isDown frame channel <;> cases hheld : scan.held channel
    · simp [hheld, hfloats]
    · cases hpress : scan.pressTime channel with
      | none => simp [hheld, hpress, hfloats]
      | some start =>
        cases hfloat : floatOf (scan.t - start) <;>
          simp [hheld, hpress, List.mapM_append, hfloats, hfloat]
    · simp [hheld, hfloats]
    · simp [hheld, hfloats]

theorem floated_foldl {α : Type} {code : HoldScan → α → Option HoldScan}
    {time : HoldScan → α → HoldScan}
    (hstep : ∀ scan a, (time scan a).floated = scan.floated.bind fun scan => code scan a)
    (items : List α) (scan : HoldScan) :
    (items.foldl time scan).floated = scan.floated.bind fun scan => items.foldlM code scan := by
  induction items generalizing scan with
  | nil => simp
  | cons a rest ih =>
    rw [List.foldl_cons, ih, hstep]
    cases scan.floated with
    | none => rfl
    | some floats => rw [Option.bind_some, Option.bind_some, List.foldlM_cons]; rfl

theorem floated_timeFrame (channels : List Nat) (scan : HoldScan) (frame : ReplayFrame F) :
    (timeFrame channels scan frame).floated =
      scan.floated.bind fun scan => holdFrame channels scan frame := by
  have hmoved : ({ scan with t := scan.t + frame.timeDelta } : HoldScan).floated =
      scan.floated.map fun scan => { scan with t := scan.t + frame.timeDelta } := by
    unfold HoldScan.floated
    cases scan.durations.mapM floatOf <;> rfl
  rw [timeFrame, floated_foldl (floated_timeChannel frame), hmoved]
  cases scan.floated <;> rfl

-- The time of the press that is open after a frame.
def pressAfter (now was : Bool) (t : Int) (start : Option Int) : Option Int :=
  if now && !was then some t else if !now && was then none else start

-- The hold that a frame ends.
def releasedHold (now was : Bool) (t : Int) (start : Option Int) : Option Int :=
  if !now && was then start.map (t - ·) else none

theorem timeChannel_eq (frame : ReplayFrame F) (scan : HoldScan) (channel : Nat) :
    timeChannel frame scan channel =
      { t := scan.t
        held := Function.update scan.held channel (isDown frame channel)
        pressTime := Function.update scan.pressTime channel
          (pressAfter (isDown frame channel) (scan.held channel) scan.t (scan.pressTime channel))
        durations := scan.durations ++
          (releasedHold (isDown frame channel) (scan.held channel) scan.t
            (scan.pressTime channel)).toList } := by
  unfold timeChannel pressAfter releasedHold
  cases isDown frame channel <;> cases scan.held channel
  · simp
  · cases scan.pressTime channel <;> simp
  · simp
  · simp

theorem foldl_timeChannel (frame : ReplayFrame F) (scan : HoldScan) (hnodup : channels.Nodup) :
    channels.foldl (timeChannel frame) scan =
      { t := scan.t
        held := fun channel =>
          if channel ∈ channels then isDown frame channel else scan.held channel
        pressTime := fun channel =>
          if channel ∈ channels then
            pressAfter (isDown frame channel) (scan.held channel) scan.t (scan.pressTime channel)
          else scan.pressTime channel
        durations := scan.durations ++ channels.filterMap fun channel =>
          releasedHold (isDown frame channel) (scan.held channel) scan.t
            (scan.pressTime channel) } := by
  induction channels generalizing scan with
  | nil => simp
  | cons channel rest ih =>
    obtain ⟨hnot, hrest⟩ := List.nodup_cons.mp hnodup
    have hne : ∀ other ∈ rest, other ≠ channel := fun other hmem heq => hnot (heq ▸ hmem)
    rw [List.foldl_cons, ih _ hrest, timeChannel_eq]
    refine HoldScan.ext rfl (funext fun other => ?_) (funext fun other => ?_) ?_
    · by_cases hmem : other ∈ rest
      · simp [hmem]
      · by_cases heq : other = channel
        · subst heq
          simp [hmem]
        · simp [hmem, heq]
    · by_cases hmem : other ∈ rest
      · simp [hmem, hne other hmem]
      · by_cases heq : other = channel
        · subst heq
          simp [hmem]
        · simp [hmem, heq]
    · have hsame : ∀ held pressed, (rest.filterMap fun other =>
          releasedHold (isDown frame other) (Function.update scan.held channel held other) scan.t
            (Function.update scan.pressTime channel pressed other)) =
          rest.filterMap fun other =>
            releasedHold (isDown frame other) (scan.held other) scan.t (scan.pressTime other) := by
        intro held pressed
        refine List.filterMap_congr fun other hmem => ?_
        rw [Function.update_of_ne (hne other hmem), Function.update_of_ne (hne other hmem)]
      rw [hsame, List.append_assoc, List.filterMap_cons]
      cases releasedHold (isDown frame channel) (scan.held channel) scan.t
          (scan.pressTime channel) <;> rfl

def holdScanAt (frames : List (ReplayFrame F)) (channels : List Nat) (k : Nat) : HoldScan where
  t := timeBefore frames k
  held channel := decide (channel ∈ channels) && Signal.before (keyAt frames channel) k
  pressTime channel :=
    if channel ∈ channels ∧ Signal.before (keyAt frames channel) k then
      (Signal.lastRise (keyAt frames channel) k).map (timeAt frames)
    else none
  durations := (completedPresses frames channels k).map (Press.duration frames)

theorem timeFrame_at (hnodup : channels.Nodup) (hk : k < frames.length) :
    timeFrame channels (holdScanAt frames channels k) frames[k] =
      holdScanAt frames channels (k + 1) := by
  rw [timeFrame, foldl_timeChannel _ _ hnodup]
  have htime : timeBefore frames k + frames[k].timeDelta = timeAt frames k :=
    (timeBefore_succ hk).symm
  refine HoldScan.ext (timeBefore_succ hk).symm (funext fun channel => ?_)
    (funext fun channel => ?_) ?_
  · by_cases hmem : channel ∈ channels
    · simp [holdScanAt, hmem, keyAt_eq hk]
    · simp [holdScanAt, hmem]
  · by_cases hmem : channel ∈ channels
    · simp only [holdScanAt, hmem, if_true, true_and, decide_true, Bool.true_and, htime,
        Signal.before_succ, Signal.lastRise, Signal.rises, keyAt_eq hk, pressAfter]
      cases isDown frames[k] channel <;> cases Signal.before (keyAt frames channel) k <;> simp
    · simp [holdScanAt, hmem]
  · simp only [holdScanAt, completedPresses, List.range_succ, List.flatMap_append,
      List.flatMap_singleton, List.map_append, releasedAt, List.map_filterMap]
    congr 1
    refine List.filterMap_congr fun channel hmem => ?_
    simp only [hmem, true_and, decide_true, Bool.true_and, htime, releasedHold, Signal.falls,
      keyAt_eq hk]
    cases isDown frames[k] channel <;>
      cases Signal.before (keyAt frames channel) k <;>
        simp [Press.duration, Function.comp_def]

theorem foldl_timeFrame (hnodup : channels.Nodup) (hk : k ≤ frames.length) :
    (frames.take k).foldl (timeFrame channels) {} = holdScanAt frames channels k := by
  induction k with
  | zero =>
    refine HoldScan.ext rfl (funext fun channel => ?_) (funext fun channel => ?_) rfl
    · simp [holdScanAt]
    · simp [holdScanAt]
  | succ k ih =>
    rw [← List.take_concat_get' frames k hk, List.foldl_append, ih (Nat.le_of_lt hk)]
    exact timeFrame_at hnodup hk

end Scans

section Results

variable {frames : List (ReplayFrame F)} {channels : List Nat} {k : Nat}

theorem activeChannels_nodup (frames : List (ReplayFrame F)) :
    (activeChannels frames).2.Nodup := by
  unfold activeChannels
  cases frames.any fun frame => isDown frame KEYBOARD_KEYS <;> decide

theorem tapSamples_eq (frames : List (ReplayFrame F)) :
    (tapSamples frames).2 = risingEdges frames (activeChannels frames).2 frames.length := by
  have hscan := foldl_tapFrame (activeChannels_nodup frames) (Nat.le_refl frames.length)
  rw [List.take_length] at hscan
  exact congrArg TapScan.taps hscan

-- What is extracted are the times of the presses as floats.
theorem holdDurations_eq (frames : List (ReplayFrame F)) :
    holdDurations frames =
      (completedPresses frames (activeChannels frames).2 frames.length).mapM
        fun p => floatOf (p.duration frames) := by
  have hscan := foldl_timeFrame (activeChannels_nodup frames) (Nat.le_refl frames.length)
  rw [List.take_length] at hscan
  have hfloated := floated_foldl (floated_timeFrame (activeChannels frames).2) frames {}
  have hstart : HoldScan.floated {} = some {} := rfl
  rw [hscan, hstart, Option.bind_some] at hfloated
  rw [holdDurations, ← hfloated, map_durations_floated, holdScanAt]
  dsimp only
  rw [List.mapM_map, Function.comp_def]

theorem length_edgesAt (hk : k < frames.length) :
    (edgesAt frames channels k).length =
      channels.countP fun channel => Signal.rises (keyAt frames channel) k := by
  rw [edgesAt, sampleAt_eq hk, List.filterMap_eq_map', List.length_map,
    List.countP_eq_length_filter]

theorem length_releasedAt :
    (releasedAt frames channels k).length =
      channels.countP fun channel => Signal.falls (keyAt frames channel) k := by
  rw [releasedAt, List.length_filterMap_eq_countP]
  refine List.countP_congr fun channel _ => ?_
  split
  · rename_i hfalls
    have hbefore : Signal.before (keyAt frames channel) k = true :=
      (Bool.and_eq_true _ _ ▸ hfalls).2
    simp [hfalls, Signal.lastRise_isSome hbefore]
  · rename_i hfalls
    simp [hfalls]

-- A channel that is down has been pressed once more than it was released.
theorem length_risingEdges (hk : k ≤ frames.length) :
    (risingEdges frames channels k).length =
      (completedPresses frames channels k).length +
        channels.countP fun channel => Signal.before (keyAt frames channel) k := by
  induction k with
  | zero => simp [risingEdges, completedPresses]
  | succ k ih =>
    have hbefore := ih (Nat.le_of_lt hk)
    have hstep := Signal.countP_rises (keyAt frames) channels k
    simp only [risingEdges, completedPresses] at hbefore ⊢
    rw [List.range_succ, List.flatMap_append, List.flatMap_append, List.length_append,
      List.length_append, List.flatMap_singleton, List.flatMap_singleton, length_edgesAt hk,
      length_releasedAt]
    omega

theorem mem_releasedAt {p : Press} :
    p ∈ releasedAt frames channels k ↔
      p.release = k ∧ p.channel ∈ channels ∧ Signal.falls (keyAt frames p.channel) k ∧
        Signal.lastRise (keyAt frames p.channel) k = some p.press := by
  simp only [releasedAt, List.mem_filterMap, Option.ite_none_right_eq_some, Option.map_eq_some_iff]
  constructor
  · rintro ⟨channel, hmem, hfalls, i, hi, rfl⟩
    exact ⟨rfl, hmem, hfalls, hi⟩
  · rintro ⟨rfl, hmem, hfalls, hi⟩
    exact ⟨p.channel, hmem, hfalls, p.press, hi, rfl⟩

theorem mem_completedPresses {p : Press} :
    p ∈ completedPresses frames channels frames.length ↔
      p.channel ∈ channels ∧ p.Completed frames := by
  simp only [completedPresses, List.mem_flatMap, List.mem_range, mem_releasedAt, Signal.falls,
    Bool.and_eq_true, Bool.not_eq_true']
  constructor
  · rintro ⟨k, hk, rfl, hmem, ⟨hup, hbefore⟩, hlast⟩
    obtain ⟨hlt, hrises, hdown⟩ := (Signal.lastRise_iff hbefore).mp hlast
    exact ⟨hmem, hrises, hlt, hdown, hup, hk⟩
  · rintro ⟨hmem, h⟩
    have hbefore : Signal.before (keyAt frames p.channel) p.release = true := by
      obtain ⟨last, hlast⟩ : ∃ last, p.release = last + 1 :=
        ⟨p.release - 1, by have := h.before; omega⟩
      have := h.before
      rw [hlast, Signal.before_succ]
      exact h.down last (by omega) (by omega)
    refine ⟨p.release, h.inside, rfl, hmem, ⟨h.up, hbefore⟩, ?_⟩
    exact (Signal.lastRise_iff hbefore).mpr ⟨h.before, h.rises, h.down⟩

theorem nodup_releasedAt (hnodup : channels.Nodup) : (releasedAt frames channels k).Nodup := by
  refine hnodup.filterMap fun channel other p hp hother => ?_
  simp only [Option.mem_def, Option.ite_none_right_eq_some, Option.map_eq_some_iff] at hp hother
  obtain ⟨-, _, -, rfl⟩ := hp
  obtain ⟨-, _, -, heq⟩ := hother
  exact (congrArg Press.channel heq).symm

theorem nodup_completedPresses (hnodup : channels.Nodup) :
    (completedPresses frames channels k).Nodup := by
  refine List.nodup_flatMap.mpr ⟨fun i _ => nodup_releasedAt hnodup, ?_⟩
  refine (List.nodup_range (n := k)).imp fun hne p hp hother => hne ?_
  rw [← (mem_releasedAt.mp hp).1, ← (mem_releasedAt.mp hother).1]

theorem timeBefore_mono (hdeltas : ∀ frame ∈ frames, 0 ≤ frame.timeDelta) {i j : Nat}
    (hij : i ≤ j) (hj : j ≤ frames.length) : timeBefore frames i ≤ timeBefore frames j := by
  induction j, hij using Nat.le_induction with
  | base => exact le_refl _
  | succ j _ ih =>
    rw [timeBefore_succ hj]
    have := ih (Nat.le_of_lt hj)
    have := hdeltas frames[j] (List.getElem_mem hj)
    omega

theorem Press.Completed.duration_nonneg {p : Press} (h : p.Completed frames)
    (hdeltas : ∀ frame ∈ frames, 0 ≤ frame.timeDelta) : 0 ≤ p.duration frames := by
  refine Int.sub_nonneg_of_le ?_
  exact timeBefore_mono hdeltas (Nat.succ_le_succ (Nat.le_of_lt h.before)) h.inside

-- The channels that are down in the last frame.
def stillHeld (frames : List (ReplayFrame F)) (channels : List Nat) : List Nat :=
  channels.filter fun channel => keyAt frames channel (frames.length - 1)

theorem length_stillHeld :
    (stillHeld frames channels).length =
      channels.countP fun channel => Signal.before (keyAt frames channel) frames.length := by
  rw [stillHeld, ← List.countP_eq_length_filter]
  refine List.countP_congr fun channel _ => ?_
  cases frames with
  | nil => simp [keyAt]
  | cons frame rest => simp

-- Each completed press gives the float of its time. A time that no float holds is an
-- OverflowError, and there are no durations then.
theorem taps_pair (frames : List (ReplayFrame F)) :
    (tapSamples frames).2 = risingEdges frames (activeChannels frames).2 frames.length ∧
      ∃ presses : List Press, presses.Nodup ∧
        (∀ p, p ∈ presses ↔ p.channel ∈ (activeChannels frames).2 ∧ p.Completed frames) ∧
        (tapSamples frames).2.length =
          presses.length + (stillHeld frames (activeChannels frames).2).length ∧
        holdDurations frames = presses.mapM (fun p => floatOf (p.duration frames)) ∧
        ((∀ p ∈ presses, (p.duration frames).natAbs < 2 ^ 53) →
          holdDurations frames = some (presses.map (Press.duration frames))) ∧
        ∀ holds, holdDurations frames = some holds →
          holds.length = presses.length ∧
            ((∀ frame ∈ frames, 0 ≤ frame.timeDelta) → ∀ hold ∈ holds, 0 ≤ hold) := by
  refine ⟨tapSamples_eq frames, _, nodup_completedPresses (activeChannels_nodup frames),
    fun p => mem_completedPresses, ?_, holdDurations_eq frames, fun hsmall => ?_,
    fun holds hholds => ⟨?_, fun hdeltas hold hmem => ?_⟩⟩
  · rw [tapSamples_eq, length_stillHeld]
    exact length_risingEdges (Nat.le_refl _)
  · rw [holdDurations_eq]
    refine mapM_of_map_eq ?_
    rw [List.map_map]
    exact List.map_congr_left fun p hp => floatOf_of_lt (hsmall p hp)
  · rw [holdDurations_eq] at hholds
    exact (forall₂_of_mapM_some hholds).length_eq.symm
  · rw [holdDurations_eq] at hholds
    obtain ⟨p, hp, hfloat⟩ := exists_of_mem_forall₂ (forall₂_of_mapM_some hholds) hmem
    exact floatOf_nonneg hfloat ((mem_completedPresses.mp hp).2.duration_nonneg hdeltas)

-- K1 is held for 10 ** 309 milliseconds: there is one tap, and no duration.
theorem not_taps_pair :
    ¬ ∀ frames : List (ReplayFrame Int),
      ∃ holds, holdDurations frames = some holds ∧
        (tapSamples frames).2.length =
          holds.length + (stillHeld frames (activeChannels frames).2).length := by
  intro h
  obtain ⟨holds, hholds, -⟩ := h
    [{ timeDelta := 0, x := 0, y := 0, keys := KEY_1 },
      { timeDelta := 10 ^ 309, x := 0, y := 0, keys := 0 }]
  have hraised : holdDurations
      [({ timeDelta := 0, x := 0, y := 0, keys := KEY_1 } : ReplayFrame Int),
        { timeDelta := 10 ^ 309, x := 0, y := 0, keys := 0 }] = none := by decide +kernel
  rw [hraised] at hholds
  exact absurd hholds (by simp)

end Results

end BanchoPrism.Anticheat
