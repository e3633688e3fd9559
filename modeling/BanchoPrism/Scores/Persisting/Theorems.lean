import BanchoPrism.Scores.Persisting

namespace BanchoPrism.Scores

open Library Prog

-- What the transaction leaves alone: the other modes, the recent scores and
-- everything of the beatmap but its plays and passes.
structure Touches (score : Score) (s t : Memory) : Prop where
  stats : ∀ mode, mode ≠ score.mode → t.stats mode = s.stats mode
  recentScores : t.recentScores = s.recentScores
  bmap : { t.bmap with plays := s.bmap.plays, passes := s.bmap.passes } = s.bmap

section Frame

variable {score : Score}

instance touches_refl : Std.Refl (Touches score) := ⟨fun _ => ⟨fun _ _ => rfl, rfl, rfl⟩⟩

instance touches_trans : IsTrans Memory (Touches score) where
  trans s t u h k :=
    { stats := fun mode hmode => (k.stats mode hmode).trans (h.stats mode hmode)
      recentScores := k.recentScores.trans h.recentScores
      bmap := by
        have hst := h.bmap
        have htu := k.bmap
        rw [Beatmap.mk.injEq] at hst htu ⊢
        exact ⟨htu.1.trans hst.1, htu.2.1.trans hst.2.1, htu.2.2.1.trans hst.2.2.1, rfl, rfl⟩ }

theorem touches_setStats (m : Memory) (stats : ModeData) :
    Touches score m (m.setStats score.mode stats) where
  stats _ hmode := Function.update_of_ne hmode _ _
  recentScores := rfl
  bmap := rfl

theorem touches_scoreId (m : Memory) (id : Option Nat) :
    Touches score m { m with scoreId := id } := ⟨fun _ _ => rfl, rfl, rfl⟩

theorem touches_applyBeatmapPlayStats (m : Memory) :
    Touches score m { m with bmap := applyBeatmapPlayStats score m.bmap } :=
  ⟨fun _ _ => rfl, rfl, rfl⟩

variable (db : Database) (restricted : Bool)

theorem call_touches {α : Type} (result : Except DriverError α) :
    Within (Touches score) (call result) := Within.lift _

theorem orRaise_touches {α : Type} (e : Failure) (a : Option α) :
    Within (Touches score) (orRaise e a) := by
  cases a with
  | none => exact Within.raise e
  | some a => exact Within.pure a

theorem persistSubmittedScore_touches :
    Within (Touches score) (persistSubmittedScore db score) := by
  unfold persistSubmittedScore createScore
  apply Within.bind
  · exact Within.onlyIf (call_touches db.markSubmitted)
  intro _
  apply Within.bind
  · apply Within.bind (Within.lift _)
    intro recId
    apply Within.bind (call_touches _)
    intro row
    exact orRaise_touches .assertion row
  intro scoreId
  apply Within.bind
  · exact Within.update fun m => touches_scoreId m (some scoreId)
  intro _
  exact Within.pure scoreId

theorem persistWeighted_touches (updated : ModeData × ScoreStatsUpdates) (moves : Bool) :
    Within (Touches score) (persistWeighted db score updated moves) := by
  unfold persistWeighted
  apply Within.ite
  · apply Within.bind (call_touches _)
    intro bestScores
    apply Within.bind (orRaise_touches _ _)
    intro weighted
    apply Within.bind
    · exact Within.update fun m => touches_setStats m weighted.1
    intro _
    exact Within.pure weighted
  · exact Within.pure updated

theorem persistScoreSubmissionStats_touches :
    Within (Touches score) (persistScoreSubmissionStats db restricted score) := by
  unfold persistScoreSubmissionStats persistBeatmapPlayStats
  apply Within.read_bind
  intro m
  apply Moves.bind (orRaise_touches _ _ m)
  intro previousStats t _
  apply Moves.update_bind (touches_setStats t _)
  apply Within.moves
  apply Within.bind (persistWeighted_touches db _ _)
  intro updated
  apply Within.bind (call_touches _)
  intro _
  apply Within.bind
  · apply Within.onlyIf
    apply Within.bind
    · exact Within.update touches_applyBeatmapPlayStats
    intro _
    exact Within.read_bind fun m => (call_touches _ m)
  intro _
  exact Within.pure _

theorem unlockAchievement_touches (owned : List Nat) (achievement : Achievement) :
    Within (Touches score) (unlockAchievement db score owned achievement) := by
  unfold unlockAchievement
  apply Within.ite
  · exact Within.pure []
  apply Within.read_bind
  intro m
  apply Within.moves
  apply Within.bind (Within.lift _)
  intro unlocked
  apply Within.ite
  · exact Within.bind (call_touches _) fun _ => Within.pure _
  · exact Within.pure []

theorem unlockEach_touches (owned : List Nat) (achievements : List Achievement) :
    Within (Touches score) (unlockEach db score owned achievements) := by
  induction achievements with
  | nil => exact Within.pure []
  | cons achievement rest ih =>
      apply Within.bind (unlockAchievement_touches db owned achievement)
      intro first
      exact Within.bind ih fun others => Within.pure _

theorem unlockNewAchievements_touches :
    Within (Touches score) (unlockNewAchievements db score) := by
  apply Within.bind (call_touches _)
  intro serverAchievements
  apply Within.bind (call_touches _)
  intro playerAchievements
  exact unlockEach_touches db playerAchievements serverAchievements

theorem transaction_touches : Within (Touches score) (transaction db restricted score) := by
  unfold transaction
  apply Within.bind (call_touches _)
  intro _
  apply Within.read_bind
  intro m
  apply Within.moves
  apply Within.bind
  · exact Within.ite (call_touches _) (Within.pure none)
  intro previousFirstPlaceScore
  apply Within.bind (persistSubmittedScore_touches db)
  intro scoreId
  apply Within.bind (persistScoreSubmissionStats_touches db restricted)
  intro stats
  apply Within.bind
  · exact Within.ite (unlockNewAchievements_touches db) (Within.pure [])
  intro unlockedAchievements
  exact Within.bind (call_touches _) fun _ => Within.pure _

end Frame

section Restore

variable {score : Score} {m t : Memory} {stats : ModeData}

def snapshotOf (score : Score) (m : Memory) (stats : ModeData) : ScoreSubmissionStateSnapshot :=
  { scoreId := m.scoreId
    stats := stats
    beatmapPlays := m.bmap.plays
    beatmapPasses := m.bmap.passes
    hadRecentScore := (m.recentScores score.mode).isSome
    recentScore := (m.recentScores score.mode).getD none }

theorem capture_run (h : m.stats score.mode = some stats) :
    captureScoreSubmissionState score m = (.ok (snapshotOf score m stats), m) := by
  unfold captureScoreSubmissionState
  rw [h]
  rfl

theorem capture_missing (h : m.stats score.mode = none) :
    captureScoreSubmissionState score m = (.error .key, m) := by
  unfold captureScoreSubmissionState
  rw [h]

-- The memory once everything but the recent score is back.
def restored (score : Score) (m : Memory) (stats : ModeData) (t : Memory) : Memory :=
  { scoreId := m.scoreId
    stats := Function.update t.stats score.mode (some stats)
    recentScores := t.recentScores
    bmap := { t.bmap with plays := m.bmap.plays, passes := m.bmap.passes } }

theorem restored_eq (h : m.stats score.mode = some stats) (ht : Touches score m t) :
    restored score m stats t = m := by
  have hstats : Function.update t.stats score.mode (some stats) = m.stats := by
    funext mode
    by_cases hmode : mode = score.mode
    · subst hmode
      rw [Function.update_self, h]
    · rw [Function.update_of_ne hmode, ht.stats mode hmode]
  ext1
  · rfl
  · exact hstats
  · exact ht.recentScores
  · exact ht.bmap

theorem restore_run (h : m.stats score.mode = some stats) (ht : Touches score m t) :
    restoreScoreSubmissionState score (snapshotOf score m stats) t =
      restoreRecentScore score (snapshotOf score m stats) m := by
  have hrun : restoreScoreSubmissionState score (snapshotOf score m stats) t =
      restoreRecentScore score (snapshotOf score m stats) (restored score m stats t) := rfl
  rw [hrun, restored_eq h ht]

theorem restoreRecentScore_run (h : m.recentScores score.mode ≠ some none) :
    restoreRecentScore score (snapshotOf score m stats) m = (.ok (), m) := by
  rcases hrecent : m.recentScores score.mode with _ | _ | recent
  · have hsame : m.setRecentScore score.mode none = m := by
      rw [Memory.setRecentScore, ← hrecent, Function.update_eq_self]
    simp [restoreRecentScore, snapshotOf, hrecent, hsame]
  · exact absurd hrecent h
  · have hsame : m.setRecentScore score.mode (some (some recent)) = m := by
      rw [Memory.setRecentScore, ← hrecent, Function.update_eq_self]
    simp [restoreRecentScore, snapshotOf, hrecent, hsame]

theorem restoreRecentScore_none (h : m.recentScores score.mode = some none) :
    restoreRecentScore score (snapshotOf score m stats) m = (.error .restoreAssertion, m) := by
  simp [restoreRecentScore, snapshotOf, h]

end Restore

section Theorems

variable {db : Database} {restricted : Bool} {score : Score} {m t : Memory} {e : Failure}
  {stats : ModeData}

-- A transaction that raises leaves through the restoring handler.
theorem persist_raised (h : m.stats score.mode = some stats)
    (hraise : transaction db restricted score m = (.error e, t)) :
    persistScoreSubmission db restricted score m =
      (restoreRecentScore score (snapshotOf score m stats) >>= fun _ =>
        Prog.raise (.transaction e)) m := by
  have htouch : Touches score m t := by
    have := @transaction_touches score db restricted m
    rwa [Moves, hraise] at this
  have hrestore := restore_run h htouch
  unfold persistScoreSubmission
  rw [bind_run_ok (capture_run h), handle_run_error hraise, bind_run, bind_run, hrestore]

-- Whenever the transaction raises, the memory is as before the call, the same
-- exception leaves it, and a duplicate score is answered as one.
structure AllOrNothing (restricted : Bool) (score : Score) (m : Memory) : Prop where
  persist : ∀ db snapshot e t, captureScoreSubmissionState score m = (.ok snapshot, m) →
    transaction db restricted score m = (.error e, t) →
      persistScoreSubmission db restricted score m = (.error (.transaction e), m)
  duplicate : ∀ db snapshot t, captureScoreSubmissionState score m = (.ok snapshot, m) →
    transaction db restricted score m = (.error .duplicateScore, t) →
      submitPersistence db restricted score m = (.ok (.inr .DUPLICATE_SUBMISSION), m)

theorem persist_restores (h : m.stats score.mode = some stats)
    (hrecent : m.recentScores score.mode ≠ some none)
    (hraise : transaction db restricted score m = (.error e, t)) :
    persistScoreSubmission db restricted score m = (.error (.transaction e), m) := by
  rw [persist_raised h hraise, bind_run_ok (restoreRecentScore_run hrecent)]
  rfl

theorem submit_duplicate
    (h : persistScoreSubmission db restricted score m = (.error (.transaction .duplicateScore), m)) :
    submitPersistence db restricted score m = (.ok (.inr .DUPLICATE_SUBMISSION), m) := by
  unfold submitPersistence attempt
  rw [bind_run_error h]
  rfl

-- A database on which every transaction fails at its first call.
def downDatabase : Database := { begin_ := .error (.other 0) }

theorem transaction_downDatabase (restricted : Bool) (score : Score) (m : Memory) :
    transaction downDatabase restricted score m = (.error (.driver (.other 0)), m) := rfl

-- Persistence is all or nothing for the players whose recent score of the mode
-- is a score or absent; a key that holds None breaks it, at any failure.
theorem allOrNothing_iff (restricted : Bool) (score : Score) (m : Memory) :
    AllOrNothing restricted score m ↔
      m.stats score.mode = none ∨ m.recentScores score.mode ≠ some none := by
  rcases h : m.stats score.mode with _ | stats
  · have hall : AllOrNothing restricted score m := by
      constructor
      · intro db snapshot e t hcapture
        rw [capture_missing h] at hcapture
        cases hcapture
      · intro db snapshot t hcapture
        rw [capture_missing h] at hcapture
        cases hcapture
    simp [hall]
  constructor
  · intro hall
    right
    intro hrecent
    have hpersist := hall.persist downDatabase _ _ _ (capture_run h)
      (transaction_downDatabase restricted score m)
    rw [persist_raised h (transaction_downDatabase restricted score m),
      bind_run_error (restoreRecentScore_none hrecent)] at hpersist
    cases hpersist
  · intro hcond
    have hrecent : m.recentScores score.mode ≠ some none := by simpa using hcond
    constructor
    · intro db snapshot e t _ hraise
      exact persist_restores h hrecent hraise
    · intro db snapshot t _ hraise
      exact submit_duplicate (persist_restores h hrecent hraise)

-- A player as Player.__init__ makes it, with the stats of one mode: every mode
-- is a key of recent_scores, and each holds None.
def newcomer : Memory :=
  { scoreId := none
    stats := fun mode => if mode = .VANILLA_OSU then some {} else none
    recentScores := fun _ => some none
    bmap := { id := 1, md5 := "", status := .Ranked } }

def plainScore : Score :=
  { mode := .VANILLA_OSU
    score := 1000
    maxCombo := 10
    n300 := 10
    n100 := 0
    n50 := 0
    nmiss := 0
    ngeki := 0
    nkatu := 0
    grade := .X
    passed := true
    clientChecksum := "a" }

-- The insert finds the checksum taken; the client is not told so.
theorem allOrNothing_newcomer :
    ¬ AllOrNothing false plainScore newcomer := by
  intro h
  let db : Database := { insert := .error .integrity }
  have hcapture : captureScoreSubmissionState plainScore newcomer =
      (.ok (snapshotOf plainScore newcomer {}), newcomer) := rfl
  have hraise : transaction db false plainScore newcomer = (.error .duplicateScore, newcomer) := rfl
  have hsubmit : (submitPersistence db false plainScore newcomer).1 =
      .error .restoreAssertion := rfl
  rw [h.duplicate db _ _ hcapture hraise] at hsubmit
  cases hsubmit

end Theorems

end BanchoPrism.Scores
