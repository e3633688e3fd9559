import BanchoPrism.Background.Logouts
import BanchoPrism.Library.Sweep
import Mathlib.Algebra.Order.Ring.Rat
import Mathlib.Tactic.NormNum

namespace BanchoPrism.Background

open Library Prog

def osuClientMinPingInterval : ℚ := 300

section Sweep

variable (currentTime : ℚ) (lastRecvTime : PlayerRef → ℚ)

def isStale (p : PlayerRef) : Bool := currentTime - lastRecvTime p > osuClientMinPingInterval

-- The iterator of a list holds a place in it and ends at the first place past the end, whatever
-- was taken out meanwhile.
def disconnectFrom : (passes place : ℕ) → Handler Unit
  | 0, _ => Prog.raise .diverges
  | passes + 1, place => do
    let s ← Prog.read
    match s.players.list[place]? with
    | none => pure ()
    | some player => do
      Prog.onlyIf (isStale currentTime lastRecvTime player) (logout player)
      disconnectFrom passes (place + 1)

def disconnectGhosts : Handler Unit := do
  let s ← Prog.read
  disconnectFrom currentTime lastRecvTime (s.players.list.length + 1) 0

end Sweep

section Passes

variable {currentTime : ℚ} {lastRecvTime : PlayerRef → ℚ} {s : Server}

theorem mem_eachLogout {t : Server} {ps : List PlayerRef} (hlist : s.players.list.Nodup)
    (h : Prog.each logout ps s = (.ok (), t)) (p : PlayerRef) :
    p ∈ t.players.list ↔ p ∈ s.players.list ∧ p ∉ ps := by
  induction ps generalizing s with
  | nil =>
    cases h
    simp
  | cons q rest ih =>
    obtain ⟨_, u, hfirst, hrest⟩ := bind_eq_ok h
    have hu := logout_list hfirst
    rw [ih (hu ▸ hlist.erase q) hrest, hu, hlist.mem_erase_iff, List.mem_cons]
    tauto

theorem disconnectFrom_past {passes place : ℕ} (h : s.players.list.length ≤ place) :
    disconnectFrom currentTime lastRecvTime (passes + 1) place s = (.ok (), s) := by
  unfold disconnectFrom
  rw [read_bind_run, List.getElem?_eq_none h]
  rfl

-- From a place on, the loop logs out one after the other whom it comes to. By induction on the
-- passes: with one player off the list, the next place is the next but one of the list before.
theorem disconnectFrom_run {passes : ℕ} (done rest : List PlayerRef)
    (hlist : s.players.list = done ++ rest) (hnodup : s.players.list.Nodup)
    (hpasses : rest.length < passes) :
    disconnectFrom currentTime lastRecvTime passes done.length s =
      Prog.each logout (taken (isStale currentTime lastRecvTime) rest) s := by
  induction passes generalizing s done rest with
  | zero => cases hpasses
  | succ passes ih =>
    cases rest with
    | nil =>
      rw [disconnectFrom_past (by simp [hlist])]
      rfl
    | cons p rest =>
      have hplace : s.players.list[done.length]? = some p := by simp [hlist]
      rw [List.length_cons] at hpasses
      unfold disconnectFrom
      rw [read_bind_run, hplace]
      show (Prog.onlyIf _ (logout p) >>= fun _ => disconnectFrom _ _ passes (done.length + 1)) s = _
      by_cases hp : isStale currentTime lastRecvTime p
      · rw [Prog.onlyIf, if_pos hp, taken_of_drop hp]
        show _ = (logout p >>= fun _ => Prog.each logout _) s
        rcases hlogout : logout p s with ⟨e | _, t⟩
        · rw [bind_run_error hlogout, bind_run_error hlogout]
        have ht : t.players.list = done ++ rest := by
          have haway : p ∉ done := by
            intro hdone
            rw [hlist] at hnodup
            exact List.disjoint_of_nodup_append hnodup hdone List.mem_cons_self
          rw [logout_list hlogout, hlist, List.erase_append_right _ haway, List.erase_cons_head]
        have hnodup' : t.players.list.Nodup := logout_list hlogout ▸ hnodup.erase p
        rw [bind_run_ok hlogout, bind_run_ok hlogout]
        cases rest with
        | nil =>
          obtain ⟨passes, rfl⟩ : ∃ left, passes = left + 1 := by
            rw [List.length_nil] at hpasses
            exact ⟨passes - 1, by omega⟩
          rw [disconnectFrom_past (by simp [ht])]
          rfl
        | cons q rest =>
          rw [List.length_cons] at hpasses
          have hnext := ih (done ++ [q]) rest (by simpa using ht) hnodup' (by omega)
          rw [List.length_append] at hnext
          exact hnext
      · have hkeep := Bool.eq_false_iff.mpr hp
        have hnext := ih (done ++ [p]) rest (by simpa using hlist) hnodup (by omega)
        rw [Prog.onlyIf, if_neg hp, taken_of_keep hkeep, ← hnext, List.length_append]
        rfl

theorem disconnectGhosts_run (hnodup : s.players.list.Nodup) :
    disconnectGhosts currentTime lastRecvTime s =
      Prog.each logout (taken (isStale currentTime lastRecvTime) s.players.list) s :=
  disconnectFrom_run [] s.players.list rfl hnodup (Nat.lt_succ_self _)

end Passes

section Completeness

variable (currentTime : ℚ) (lastRecvTime : PlayerRef → ℚ) (s : Server)

-- The pass goes through, and takes off the list exactly the players that are past the interval,
-- without the bot.
structure GhostsGone : Prop where
  returns : (disconnectGhosts currentTime lastRecvTime s).1 = .ok ()
  online : ∀ p ∈ s.players.list,
    p ∈ (disconnectGhosts currentTime lastRecvTime s).2.players.list ↔
      ¬(isStale currentTime lastRecvTime p ∧ p ≠ botRef)

-- Whom the pass is to log out.
def ghosts : List PlayerRef := s.players.list.filter (isStale currentTime lastRecvTime)

-- The bot is not past the interval, no two neighbours on the list both are, and those who are
-- have keys of their own in the indexes.
structure Spread : Prop where
  bot : isStale currentTime lastRecvTime botRef = false
  apart : Apart (isStale currentTime lastRecvTime) s.players.list
  keyed : Keyed (ghosts currentTime lastRecvTime s) s

end Completeness

section Examples

-- These have been silent since 1970, the bot is never heard of before 2038.
def silentSince (ghosts : List PlayerRef) (p : PlayerRef) : ℚ :=
  if p = botRef then 0x7FFFFFFF else if p ∈ ghosts then 0 else 1000

def watched : Server := (runFrom World.step oneChannel.start twoWatchOne).server

theorem watched_inOrder : InOrder [1, 3] watched := by
  have hsocial : ∀ event ∈ twoWatchOne, event.social := by decide
  have hsafe : Guarded World.step (fun w event => event.Safe w) oneChannel.start twoWatchOne := by
    decide +kernel
  refine InOrder.of_rostered (orderly_of_safe oneChannel hsafe)
    (rostered_of_social oneChannel hsocial) (fun p hp host hsome => ?_) (by decide +kernel)
  rcases List.mem_cons.mp hp with rfl | hp
  · have hnone : (watched.player 1).spectating = none := by decide +kernel
    rw [hnone] at hsome
    cases hsome
  · obtain rfl := List.mem_singleton.mp hp
    have hfirst : (watched.player 3).spectating = some 1 := by decide +kernel
    obtain rfl := Option.some.inj (hfirst.symm.trans hsome)
    exact ⟨by decide +kernel, 1, by decide +kernel, by decide +kernel⟩

-- The player's own session and a tourney client, both silent: the pass ends with a KeyError.
example :
    let tourney : Event := .login { id := 11, name := "11", token := "tourney", priv := 3 }
    let s := (runFrom World.step (Setup.start {}) [visit 11, visit 12, tourney]).server
    (disconnectGhosts 1200 (silentSince [1, 3]) s).1 = .error .key := by
  decide +kernel

end Examples

end BanchoPrism.Background
