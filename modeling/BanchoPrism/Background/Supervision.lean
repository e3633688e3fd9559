import Mathlib.Algebra.Order.Ring.Rat
import Mathlib.Tactic.NormNum

namespace BanchoPrism.Background

def baseBackoffSeconds : ℚ := 5

def maxBackoffSeconds : ℚ := 300

-- The counters of one task, which outlive a run of its loop.
structure BackgroundTaskMetrics where
  iterations : ℕ := 0
  failures : ℕ := 0
  consecutiveFailures : ℕ := 0
  lastError : Option String := none

inductive Raised
  | CancelledError
  | OverflowError
  deriving DecidableEq

-- The int 2 ** k as a float. A power of two is exact up to the largest exponent, and an int of
-- 2 ** 1024 or more does not convert.
def floatOfPower (k : ℕ) : Except Raised ℚ :=
  if k < 1024 then .ok (2 ^ k) else .error .OverflowError

-- The count is positive wherever this is called. Five times a power is exact as well, or inf, where
-- the clamp takes the maximum as it does here.
def backoffSeconds (consecutiveFailures : ℕ) : Except Raised ℚ := do
  let power ← floatOfPower (consecutiveFailures - 1)
  return min maxBackoffSeconds (baseBackoffSeconds * power)

-- What one call of the work comes to. An exception is here as its repr.
inductive Outcome
  | returns
  | raises (exc : String)
  deriving DecidableEq

-- What the loop is waiting for.
inductive Phase
  | starting (delay : ℚ)
  | working
  | backingOff (delay : ℚ)
  | resting (delay : ℚ)
  | ended (e : Raised)
  deriving DecidableEq

structure Loop where
  metrics : BackgroundTaskMetrics
  -- How many calls of the work are over.
  attempts : ℕ
  phase : Phase

-- The except branch, up to its sleep.
def Loop.failed (l : Loop) (exc : String) : Loop :=
  let metrics := { l.metrics with
    failures := l.metrics.failures + 1
    consecutiveFailures := l.metrics.consecutiveFailures + 1
    lastError := some exc }
  { metrics
    attempts := l.attempts + 1
    phase :=
      match backoffSeconds metrics.consecutiveFailures with
      | .ok delay => .backingOff delay
      | .error e => .ended e }

-- What follows an attempt without an exception, up to the sleep.
def Loop.succeeded (l : Loop) (interval : ℚ) : Loop where
  metrics := { l.metrics with iterations := l.metrics.iterations + 1, consecutiveFailures := 0 }
  attempts := l.attempts + 1
  phase := .resting interval

section Runs

variable (interval : ℚ) (runImmediately : Bool) (metrics : BackgroundTaskMetrics)
  (work : ℕ → Outcome) (cancels : ℕ → Bool)

-- What the loop waits for is over.
def Loop.resumed (l : Loop) : Loop :=
  match l.phase with
  | .starting _ | .backingOff _ | .resting _ => { l with phase := .working }
  | .working =>
    match work l.attempts with
    | .returns => l.succeeded interval
    | .raises exc => l.failed exc
  | .ended _ => l

-- CancelledError, raised at the await, leaves the loop.
def Loop.cancelled (l : Loop) : Loop :=
  match l.phase with
  | .ended _ => l
  | _ => { l with phase := .ended .CancelledError }

-- run_supervised_loop after n awaits. The k-th call of the work comes to work k, and the task is
-- cancelled at the awaits that cancels says.
def runSupervisedLoop : ℕ → Loop
  | 0 =>
    { metrics
      attempts := 0
      phase := if runImmediately then .working else .starting interval }
  | n + 1 =>
    if cancels n then (runSupervisedLoop n).cancelled
    else (runSupervisedLoop n).resumed interval work

-- The await that is the k-th call of the work.
def awaitOf (k : ℕ) : ℕ := if runImmediately then 2 * k else 2 * k + 1

-- The k-th call comes to its end before the task is cancelled.
def Reached (k : ℕ) : Prop := ∀ c ≤ awaitOf runImmediately k, cancels c = false

-- How many failures in a row there are after k calls, with those that the task had before.
def inRow (before : ℕ) (work : ℕ → Outcome) : ℕ → ℕ
  | 0 => before
  | k + 1 =>
    match work k with
    | .returns => 0
    | .raises _ => inRow before work k + 1

structure Survives : Prop where
  ends : ∀ n e, (runSupervisedLoop interval runImmediately metrics work cancels n).phase = .ended e →
    e = .CancelledError ∧ ∃ c < n, cancels c = true
  bounds : ∀ n d,
    (runSupervisedLoop interval runImmediately metrics work cancels n).phase = .backingOff d →
    baseBackoffSeconds ≤ d ∧ d ≤ maxBackoffSeconds
  grows : ∀ n d d',
    (runSupervisedLoop interval runImmediately metrics work cancels n).phase = .backingOff d →
    (runSupervisedLoop interval runImmediately metrics work cancels (n + 2)).phase =
      .backingOff d' → d ≤ d'
  resets : ∀ n r d,
    (runSupervisedLoop interval runImmediately metrics work cancels n).phase = .resting r →
    (runSupervisedLoop interval runImmediately metrics work cancels (n + 2)).phase =
      .backingOff d → d = baseBackoffSeconds

end Runs

theorem backoffSeconds_ok {n : ℕ} {d : ℚ} (h : backoffSeconds n = .ok d) :
    n ≤ 1024 ∧ d = min maxBackoffSeconds (baseBackoffSeconds * 2 ^ (n - 1)) := by
  unfold backoffSeconds floatOfPower at h
  split at h
  case isTrue hn =>
    cases h
    exact ⟨by omega, rfl⟩
  case isFalse => cases h

theorem backoffSeconds_error {n : ℕ} {e : Raised} (h : backoffSeconds n = .error e) :
    1024 < n ∧ e = .OverflowError := by
  unfold backoffSeconds floatOfPower at h
  split at h
  case isTrue => cases h
  case isFalse hn =>
    cases h
    exact ⟨by omega, rfl⟩

theorem backoffSeconds_bounds {n : ℕ} {d : ℚ} (h : backoffSeconds n = .ok d) :
    baseBackoffSeconds ≤ d ∧ d ≤ maxBackoffSeconds := by
  obtain ⟨-, rfl⟩ := backoffSeconds_ok h
  have hp : (1 : ℚ) ≤ 2 ^ (n - 1) := one_le_pow₀ (by norm_num)
  constructor
  · apply le_min
    · norm_num [baseBackoffSeconds, maxBackoffSeconds]
    · exact le_mul_of_one_le_right (by norm_num [baseBackoffSeconds]) hp
  · exact min_le_left _ _

theorem backoffSeconds_mono {m n : ℕ} {d d' : ℚ} (hmn : m ≤ n) (hm : backoffSeconds m = .ok d)
    (hn : backoffSeconds n = .ok d') : d ≤ d' := by
  obtain ⟨-, rfl⟩ := backoffSeconds_ok hm
  obtain ⟨-, rfl⟩ := backoffSeconds_ok hn
  have hp : (2 : ℚ) ^ (m - 1) ≤ 2 ^ (n - 1) := pow_le_pow_right₀ (by norm_num) (by omega)
  apply min_le_min_left
  exact mul_le_mul_of_nonneg_left hp (by norm_num [baseBackoffSeconds])

theorem backoffSeconds_one {d : ℚ} (h : backoffSeconds 1 = .ok d) : d = baseBackoffSeconds := by
  obtain ⟨-, rfl⟩ := backoffSeconds_ok h
  norm_num [baseBackoffSeconds, maxBackoffSeconds]

section Runs

variable {interval : ℚ} {runImmediately : Bool} {metrics : BackgroundTaskMetrics}
  {work : ℕ → Outcome} {cancels : ℕ → Bool}

theorem inRow_returns {before k : ℕ} (h : work k = .returns) : inRow before work (k + 1) = 0 := by
  simp [inRow, h]

theorem inRow_raises {before k : ℕ} {exc : String} (h : work k = .raises exc) :
    inRow before work (k + 1) = inRow before work k + 1 := by
  simp [inRow, h]

-- Where a loop that is not over stands after n awaits.
def Standing (runImmediately : Bool) (before : ℕ) (work : ℕ → Outcome) (n : ℕ) (l : Loop) : Prop :=
  match l.phase with
  | .starting _ => awaitOf runImmediately l.attempts = n + 1 ∧ n = 0
  | .working => awaitOf runImmediately l.attempts = n
  | .backingOff d => awaitOf runImmediately l.attempts = n + 1 ∧
      backoffSeconds (inRow before work l.attempts) = .ok d ∧
      ∃ k exc, l.attempts = k + 1 ∧ work k = .raises exc
  | .resting _ => awaitOf runImmediately l.attempts = n + 1 ∧
      ∃ k, l.attempts = k + 1 ∧ work k = .returns
  | .ended _ => False

-- What stopped a loop that is over.
def Stopped (runImmediately : Bool) (before : ℕ) (work : ℕ → Outcome) (cancels : ℕ → Bool) (n : ℕ)
    (e : Raised) : Prop :=
  (e = .CancelledError ∧ ∃ c < n, cancels c = true) ∨
    ∃ k, Reached runImmediately cancels k ∧ 1024 < inRow before work (k + 1)

structure Along (runImmediately : Bool) (before : ℕ) (work : ℕ → Outcome) (cancels : ℕ → Bool)
    (n : ℕ) (l : Loop) : Prop where
  count : l.metrics.consecutiveFailures = inRow before work l.attempts
  stopped : ∀ e, l.phase = .ended e → Stopped runImmediately before work cancels n e
  running : (∀ e, l.phase ≠ .ended e) →
    (∀ c < n, cancels c = false) ∧ Standing runImmediately before work n l

theorem awaitOf_succ (k : ℕ) : awaitOf runImmediately (k + 1) = awaitOf runImmediately k + 2 := by
  unfold awaitOf
  split <;> omega

theorem awaitOf_inj {j k : ℕ} (h : awaitOf runImmediately j = awaitOf runImmediately k) : j = k := by
  unfold awaitOf at h
  split at h <;> omega

theorem Stopped.mono {before n : ℕ} {e : Raised}
    (h : Stopped runImmediately before work cancels n e) :
    Stopped runImmediately before work cancels (n + 1) e := by
  rcases h with ⟨he, c, hc, hs⟩ | h
  · exact .inl ⟨he, c, by omega, hs⟩
  · exact .inr h

theorem Along.cancelled {before n : ℕ} {l : Loop} (hc : cancels n = true)
    (h : Along runImmediately before work cancels n l) :
    Along runImmediately before work cancels (n + 1) l.cancelled := by
  have hstop : Stopped runImmediately before work cancels (n + 1) .CancelledError :=
    .inl ⟨rfl, n, by omega, hc⟩
  cases hp : l.phase with
  | ended e =>
    have hl : l.cancelled = l := by simp [Loop.cancelled, hp]
    rw [hl]
    refine ⟨h.count, fun e' he' => (h.stopped e' he').mono, fun hr => ?_⟩
    exact absurd hp (hr e)
  | starting | working | backingOff | resting =>
    have hl : l.cancelled = { l with phase := .ended .CancelledError } := by
      simp [Loop.cancelled, hp]
    rw [hl]
    refine ⟨h.count, fun e' he' => ?_, fun hr => absurd rfl (hr _)⟩
    cases he'
    exact hstop

theorem Along.woken {before n : ℕ} {l : Loop} (hc : cancels n = false)
    (h : Along runImmediately before work cancels n l) (hr : ∀ e, l.phase ≠ .ended e)
    (hn : awaitOf runImmediately l.attempts = n + 1) :
    Along runImmediately before work cancels (n + 1) { l with phase := .working } := by
  obtain ⟨hq, -⟩ := h.running hr
  refine ⟨h.count, fun e he => ?_, fun _ => ⟨fun c hlt => ?_, hn⟩⟩
  · cases he
  · rcases Nat.lt_succ_iff_lt_or_eq.mp hlt with hlt | rfl
    · exact hq c hlt
    · exact hc

theorem Along.succeeded {before n : ℕ} {l : Loop} (hq : ∀ c < n + 1, cancels c = false)
    (hn : awaitOf runImmediately l.attempts = n) (hw : work l.attempts = .returns) :
    Along runImmediately before work cancels (n + 1) (l.succeeded interval) := by
  refine ⟨(inRow_returns hw).symm, fun e he => ?_, fun _ => ⟨hq, ?_, l.attempts, rfl, hw⟩⟩
  · cases he
  · rw [← hn]
    exact awaitOf_succ l.attempts

theorem Loop.failed_phase (l : Loop) (exc : String) :
    (l.failed exc).phase =
      match backoffSeconds (l.metrics.consecutiveFailures + 1) with
      | .ok delay => .backingOff delay
      | .error e => .ended e := rfl

theorem Along.failed {before n : ℕ} {l : Loop} {exc : String}
    (h : Along runImmediately before work cancels n l) (hq : ∀ c < n + 1, cancels c = false)
    (hn : awaitOf runImmediately l.attempts = n) (hw : work l.attempts = .raises exc) :
    Along runImmediately before work cancels (n + 1) (l.failed exc) := by
  have hrow : inRow before work (l.attempts + 1) = inRow before work l.attempts + 1 :=
    inRow_raises hw
  have hcount : (l.failed exc).metrics.consecutiveFailures =
      inRow before work (l.attempts + 1) := by
    rw [hrow, ← h.count]
    rfl
  cases hb : backoffSeconds (inRow before work (l.attempts + 1)) with
  | error e =>
    have hp : (l.failed exc).phase = .ended e := by
      rw [l.failed_phase, h.count, ← hrow, hb]
    refine ⟨hcount, fun e' he' => .inr ⟨l.attempts, ?_, (backoffSeconds_error hb).1⟩,
      fun hr => absurd hp (hr e)⟩
    intro c hle
    exact hq c (by omega)
  | ok d =>
    have hp : (l.failed exc).phase = .backingOff d := by
      rw [l.failed_phase, h.count, ← hrow, hb]
    refine ⟨hcount, fun e he => ?_, fun _ => ⟨hq, ?_⟩⟩
    · rw [hp] at he
      cases he
    · unfold Standing
      rw [hp]
      refine ⟨?_, hb, l.attempts, exc, rfl, hw⟩
      rw [← hn]
      exact awaitOf_succ l.attempts

theorem Along.resumed {before n : ℕ} {l : Loop} (hc : cancels n = false)
    (h : Along runImmediately before work cancels n l) :
    Along runImmediately before work cancels (n + 1) (l.resumed interval work) := by
  have hrun := h.running
  unfold Standing at hrun
  unfold Loop.resumed
  cases hp : l.phase with
  | ended e =>
    refine ⟨h.count, fun e' he' => (h.stopped e' he').mono, fun hr => ?_⟩
    exact absurd hp (hr e)
  | starting | backingOff | resting =>
    have hr : ∀ e, l.phase ≠ .ended e := by simp [hp]
    obtain ⟨-, hs⟩ := hrun hr
    rw [hp] at hs
    exact h.woken hc hr hs.1
  | working =>
    obtain ⟨hq, hs⟩ := hrun (by simp [hp])
    rw [hp] at hs
    have hq' : ∀ c < n + 1, cancels c = false := by
      intro c hlt
      rcases Nat.lt_succ_iff_lt_or_eq.mp hlt with hlt | rfl
      · exact hq c hlt
      · exact hc
    cases hw : work l.attempts with
    | returns => simpa only [hw] using Along.succeeded hq' hs hw
    | raises exc => simpa only [hw] using h.failed hq' hs hw

theorem along (interval : ℚ) (runImmediately : Bool) (metrics : BackgroundTaskMetrics)
    (work : ℕ → Outcome) (cancels : ℕ → Bool) (n : ℕ) :
    Along runImmediately metrics.consecutiveFailures work cancels n
      (runSupervisedLoop interval runImmediately metrics work cancels n) := by
  induction n with
  | zero =>
    cases runImmediately with
    | true => exact ⟨rfl, nofun, fun _ => ⟨by omega, rfl⟩⟩
    | false => exact ⟨rfl, nofun, fun _ => ⟨by omega, rfl, rfl⟩⟩
  | succ n ih =>
    unfold runSupervisedLoop
    cases hc : cancels n with
    | true => exact ih.cancelled hc
    | false => exact ih.resumed hc

theorem standing {n : ℕ} {p : Phase} (hr : ∀ e, p ≠ .ended e)
    (hp : (runSupervisedLoop interval runImmediately metrics work cancels n).phase = p) :
    Standing runImmediately metrics.consecutiveFailures work n
      (runSupervisedLoop interval runImmediately metrics work cancels n) :=
  ((along interval runImmediately metrics work cancels n).running (by rw [hp]; exact hr)).2

theorem backingOff_at {n : ℕ} {d : ℚ}
    (hp : (runSupervisedLoop interval runImmediately metrics work cancels n).phase =
      .backingOff d) :
    ∃ k exc, awaitOf runImmediately k + 1 = n ∧ work k = .raises exc ∧
      backoffSeconds (inRow metrics.consecutiveFailures work (k + 1)) = .ok d := by
  have h := standing (by simp) hp
  unfold Standing at h
  rw [hp] at h
  obtain ⟨hn, hd, k, exc, hk, hw⟩ := h
  rw [hk] at hn hd
  rw [awaitOf_succ] at hn
  exact ⟨k, exc, by omega, hw, hd⟩

theorem resting_at {n : ℕ} {r : ℚ}
    (hp : (runSupervisedLoop interval runImmediately metrics work cancels n).phase = .resting r) :
    ∃ k, awaitOf runImmediately k + 1 = n ∧ work k = .returns := by
  have h := standing (by simp) hp
  unfold Standing at h
  rw [hp] at h
  obtain ⟨hn, k, hk, hw⟩ := h
  rw [hk, awaitOf_succ] at hn
  exact ⟨k, by omega, hw⟩

theorem survives_of_inRow_le
    (h : ∀ k, Reached runImmediately cancels k →
      inRow metrics.consecutiveFailures work (k + 1) ≤ 1024) :
    Survives interval runImmediately metrics work cancels where
  ends n e hp := by
    rcases (along interval runImmediately metrics work cancels n).stopped e hp with hs | ⟨k, hk, ho⟩
    · exact hs
    · have := h k hk
      omega
  bounds n d hp := by
    obtain ⟨k, exc, -, -, hd⟩ := backingOff_at hp
    exact backoffSeconds_bounds hd
  grows n d d' hp hp' := by
    obtain ⟨k, exc, hn, -, hd⟩ := backingOff_at hp
    obtain ⟨k', exc', hn', hw', hd'⟩ := backingOff_at hp'
    have hk : k' = k + 1 := by
      have hnext : awaitOf runImmediately (k + 1) = awaitOf runImmediately k + 2 := awaitOf_succ k
      exact awaitOf_inj (show awaitOf runImmediately k' = awaitOf runImmediately (k + 1) by omega)
    subst hk
    rw [inRow_raises hw'] at hd'
    exact backoffSeconds_mono (by omega) hd hd'
  resets n r d hp hp' := by
    obtain ⟨k, hn, hw⟩ := resting_at hp
    obtain ⟨k', exc', hn', hw', hd'⟩ := backingOff_at hp'
    have hk : k' = k + 1 := by
      have hnext : awaitOf runImmediately (k + 1) = awaitOf runImmediately k + 2 := awaitOf_succ k
      exact awaitOf_inj (show awaitOf runImmediately k' = awaitOf runImmediately (k + 1) by omega)
    subst hk
    rw [inRow_raises hw', inRow_returns hw] at hd'
    exact backoffSeconds_one hd'

-- Right after the call that makes the count too large the loop is over, and nothing cancelled it.
theorem not_survives_of_lt_inRow {k : ℕ} (hk : Reached runImmediately cancels k)
    (ho : 1024 < inRow metrics.consecutiveFailures work (k + 1)) :
    ¬ Survives interval runImmediately metrics work cancels := by
  intro hs
  cases hp : (runSupervisedLoop interval runImmediately metrics work cancels
      (awaitOf runImmediately k + 1)).phase with
  | ended e =>
    obtain ⟨-, c, hc, htrue⟩ := hs.ends _ _ hp
    rw [hk c (by omega)] at htrue
    cases htrue
  | starting =>
    have h := standing (by simp) hp
    unfold Standing at h
    rw [hp] at h
    omega
  | working =>
    have h := standing (by simp) hp
    unfold Standing at h
    rw [hp] at h
    simp only [awaitOf] at h
    split at h <;> omega
  | backingOff d =>
    obtain ⟨j, exc, hn, -, hd⟩ := backingOff_at hp
    have hj : j = k :=
      awaitOf_inj (show awaitOf runImmediately j = awaitOf runImmediately k by omega)
    subst hj
    have := (backoffSeconds_ok hd).1
    omega
  | resting r =>
    obtain ⟨j, hn, hw⟩ := resting_at hp
    have hj : j = k :=
      awaitOf_inj (show awaitOf runImmediately j = awaitOf runImmediately k by omega)
    subst hj
    rw [inRow_returns hw] at ho
    omega

-- 2 ** (n - 1) is converted to a float before it is clamped, inside the handler of the exception.
theorem survives_iff (interval : ℚ) (runImmediately : Bool) (metrics : BackgroundTaskMetrics)
    (work : ℕ → Outcome) (cancels : ℕ → Bool) :
    Survives interval runImmediately metrics work cancels ↔
      ∀ k, Reached runImmediately cancels k →
        inRow metrics.consecutiveFailures work (k + 1) ≤ 1024 := by
  constructor
  · intro hs k hk
    by_contra ho
    exact not_survives_of_lt_inRow hk (by omega) hs
  · exact survives_of_inRow_le

theorem inRow_of_raises {before : ℕ} (h : ∀ k, ∃ exc, work k = .raises exc) (k : ℕ) :
    inRow before work k = before + k := by
  induction k with
  | zero => rfl
  | succ k ih =>
    obtain ⟨exc, hw⟩ := h k
    rw [inRow_raises hw, ih]
    omega

-- The database stays away, and the loop of a new task ends at its 1025th attempt.
theorem not_survives_down :
    ¬ ∀ (interval : ℚ) (runImmediately : Bool) (metrics : BackgroundTaskMetrics)
      (work : ℕ → Outcome) (cancels : ℕ → Bool),
      Survives interval runImmediately metrics work cancels := by
  intro h
  refine not_survives_of_lt_inRow (k := 1024) (fun c _ => rfl) ?_
    (h 1800 false {} (fun _ => .raises "OperationalError()") fun _ => false)
  rw [inRow_of_raises fun k => ⟨_, rfl⟩]
  decide

end Runs

end BanchoPrism.Background
