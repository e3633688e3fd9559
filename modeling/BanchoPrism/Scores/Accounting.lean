import BanchoPrism.Library.Run
import BanchoPrism.Scores.Persisting.Theorems
import BanchoPrism.Scores.Placement
import Mathlib.Algebra.Order.Ring.Int

namespace BanchoPrism.Scores

open Library Prog

-- The statistics but for the weighted ones and the rank.
def ModeData.counters (stats : ModeData) : ModeData := { stats with acc := 0, pp := 0, rank := 0 }

-- What a transaction that commits has done to the player's statistics.
section Committed

variable {db : Database} {restricted : Bool} {score : Score} {m t : Memory}

def SameStats (s t : Memory) : Prop := t.stats = s.stats ∧ t.bmap = s.bmap

instance sameStats_refl : Std.Refl SameStats := ⟨fun _ => ⟨rfl, rfl⟩⟩

instance sameStats_trans : IsTrans Memory SameStats :=
  ⟨fun _ _ _ h k => ⟨k.1.trans h.1, k.2.trans h.2⟩⟩

theorem call_sameStats {α : Type} (result : Except DriverError α) :
    Within SameStats (call result) := Within.lift _

theorem orRaise_sameStats {α : Type} (e : Failure) (a : Option α) :
    Within SameStats (orRaise e a) := by
  cases a with
  | none => exact Within.raise e
  | some a => exact Within.pure a

theorem previousFirstPlace_sameStats (bmap : Beatmap) :
    Within SameStats (previousFirstPlace db restricted score bmap) :=
  Within.ite (call_sameStats _) (Within.pure none)

theorem persistSubmittedScore_sameStats : Within SameStats (persistSubmittedScore db score) := by
  unfold persistSubmittedScore createScore
  apply Within.bind
  · exact Within.onlyIf (call_sameStats db.markSubmitted)
  intro _
  apply Within.bind
  · apply Within.bind (Within.lift _)
    intro recId
    apply Within.bind (call_sameStats _)
    intro row
    exact orRaise_sameStats .assertion row
  intro scoreId
  apply Within.bind
  · exact Within.update fun m => ⟨rfl, rfl⟩
  intro _
  exact Within.pure scoreId

theorem unlockEach_sameStats (owned : List Nat) (achievements : List Achievement) :
    Within SameStats (unlockEach db score owned achievements) := by
  induction achievements with
  | nil => exact Within.pure []
  | cons achievement rest ih =>
      apply Within.bind
      · unfold unlockAchievement
        apply Within.ite
        · exact Within.pure []
        apply Within.read_bind
        intro m
        apply Within.moves
        apply Within.bind (Within.lift _)
        intro unlocked
        apply Within.ite
        · exact Within.bind (call_sameStats _) fun _ => Within.pure _
        · exact Within.pure []
      intro first
      exact Within.bind ih fun others => Within.pure _

theorem unlockAchievements_sameStats (bmap : Beatmap) :
    Within SameStats (unlockAchievements db restricted score bmap) := by
  unfold unlockAchievements unlockNewAchievements
  apply Within.ite
  · apply Within.bind (call_sameStats _)
    intro serverAchievements
    apply Within.bind (call_sameStats _)
    intro playerAchievements
    exact unlockEach_sameStats playerAchievements serverAchievements
  · exact Within.pure []

theorem orRaise_ok {α : Type} {e : Failure} {found : Option α} {a : α}
    (h : orRaise e found m = (.ok a, t)) : found = some a ∧ t = m := by
  cases found with
  | none => cases h
  | some b =>
      cases h
      exact ⟨rfl, rfl⟩

theorem weighted_counters {stats updated : ModeData × ScoreStatsUpdates}
    {bestScores : List ScorePerformanceRow}
    (h : applyWeightedPerformanceStats stats bestScores = some updated) :
    updated.1.counters = stats.1.counters := by
  unfold applyWeightedPerformanceStats at h
  rcases hacc : calculateWeightedAccuracy bestScores with _ | acc
  · rw [hacc] at h
    cases h
  · rw [hacc] at h
    cases h
    rfl

theorem persistWeighted_ok {updated result : ModeData × ScoreStatsUpdates} {moves : Bool}
    (h : persistWeighted db score updated moves m = (.ok result, t))
    (hm : m.stats score.mode = some updated.1) :
    ∃ stats, t.stats = Function.update m.stats score.mode (some stats) ∧
      stats.counters = updated.1.counters := by
  unfold persistWeighted at h
  split at h
  · obtain ⟨bestScores, u, hbest, hafter⟩ := bind_eq_ok h
    obtain ⟨weighted, v, hweighted, hlast⟩ := bind_eq_ok hafter
    have hu : SameStats m u := by
      have := call_sameStats db.bestPerformances m
      rwa [Moves, hbest] at this
    obtain ⟨hfound, rfl⟩ := orRaise_ok hweighted
    cases hlast
    refine ⟨result.1, ?_, weighted_counters hfound⟩
    rw [← hu.1]
    rfl
  · cases h
    refine ⟨updated.1, ?_, rfl⟩
    rw [← hm, Function.update_eq_self]

theorem persistBeatmap_stats :
    Within (fun s t : Memory => t.stats = s.stats) (persistBeatmapPlayStats db score) := by
  intro m
  unfold Moves persistBeatmapPlayStats
  rw [update_bind_run, read_bind_run]
  exact (call_sameStats _ _).1

theorem persistScoreSubmissionStats_ok {result : ScoreStatsPersistenceResult}
    (h : persistScoreSubmissionStats db restricted score m = (.ok result, t)) :
    ∃ stats stats', m.stats score.mode = some stats ∧
      t.stats = Function.update m.stats score.mode (some stats') ∧
        stats'.counters = (applyScoreStats score m.bmap stats).1.counters := by
  unfold persistScoreSubmissionStats at h
  rw [read_bind_run] at h
  obtain ⟨stats, u, hstats, h⟩ := bind_eq_ok h
  obtain ⟨hfound, rfl⟩ := orRaise_ok hstats
  rw [update_bind_run] at h
  obtain ⟨updated, v, hweighted, h⟩ := bind_eq_ok h
  obtain ⟨_, w, hupdate, h⟩ := bind_eq_ok h
  obtain ⟨_, x, hmap, h⟩ := bind_eq_ok h
  cases h
  obtain ⟨stats', hv, hcounters⟩ := persistWeighted_ok hweighted (Function.update_self _ _ _)
  have hw : w.stats = v.stats := by
    have := (call_sameStats (db.updateStats updated.2) v).1
    rwa [hupdate] at this
  have hx : t.stats = w.stats := by
    unfold onlyIf at hmap
    split at hmap
    · have := @persistBeatmap_stats db score w
      rwa [Moves, hmap] at this
    · cases hmap
      rfl
  refine ⟨stats, stats', hfound, ?_, hcounters⟩
  rw [hx, hw, hv, Memory.setStats, Function.update_idem]

theorem transaction_ok {result : ScoreSubmissionPersistenceResult}
    (h : transaction db restricted score m = (.ok result, t)) :
    ∃ stats stats', m.stats score.mode = some stats ∧
      t.stats = Function.update m.stats score.mode (some stats') ∧
        stats'.counters = (applyScoreStats score m.bmap stats).1.counters := by
  unfold transaction at h
  obtain ⟨_, u, hbegin, h⟩ := bind_eq_ok h
  rw [read_bind_run] at h
  obtain ⟨_, v, hfirst, h⟩ := bind_eq_ok h
  obtain ⟨_, w, hinsert, h⟩ := bind_eq_ok h
  obtain ⟨_, x, hstats, h⟩ := bind_eq_ok h
  obtain ⟨_, y, hunlock, h⟩ := bind_eq_ok h
  obtain ⟨_, z, hcommit, h⟩ := bind_eq_ok h
  cases h
  have hmu : SameStats m u := by
    have := call_sameStats db.begin_ m
    rwa [Moves, hbegin] at this
  have huv : SameStats u v := by
    have := @previousFirstPlace_sameStats db restricted score
      u.bmap u
    rwa [Moves, hfirst] at this
  have hvw : SameStats v w := by
    have := @persistSubmittedScore_sameStats db score v
    rwa [Moves, hinsert] at this
  have hxy : SameStats x y := by
    have := @unlockAchievements_sameStats db restricted score
      u.bmap x
    rwa [Moves, hunlock] at this
  have hyz : SameStats y t := by
    have := call_sameStats db.commit y
    rwa [Moves, hcommit] at this
  have hmw : SameStats m w := trans_of SameStats hmu (trans_of SameStats huv hvw)
  obtain ⟨stats, stats', hfound, hx, hcounters⟩ := persistScoreSubmissionStats_ok hstats
  rw [hmw.1] at hfound hx
  rw [hmw.2] at hcounters
  exact ⟨stats, stats', hfound, hyz.1.trans (hxy.1.trans hx), hcounters⟩

theorem persist_ok {result : ScoreSubmissionPersistenceResult}
    (h : persistScoreSubmission db restricted score m = (.ok result, t)) :
    ∃ stats stats', m.stats score.mode = some stats ∧
      t.stats = Function.update m.stats score.mode (some stats') ∧
        stats'.counters = (applyScoreStats score m.bmap stats).1.counters := by
  unfold persistScoreSubmission at h
  obtain ⟨snapshot, u, hcapture, hbody⟩ := bind_eq_ok h
  have hu : u = m := by
    rcases hstats : m.stats score.mode with _ | stats
    · rw [capture_missing hstats] at hcapture
      cases hcapture
    · rw [capture_run hstats] at hcapture
      cases hcapture
      rfl
  subst hu
  rcases hrun : transaction db restricted score u with ⟨e | result', v⟩
  · rw [handle_run_error hrun] at hbody
    obtain ⟨_, _, _, hraise⟩ := bind_eq_ok hbody
    cases hraise
  · unfold handle at hbody
    rw [hrun] at hbody
    cases hbody
    exact transaction_ok hrun

end Committed

-- One player's rows in one mode.
structure Owner where
  userId : Nat
  mode : GameMode

def Owner.board (owner : Owner) (mapMd5 : String) : Board := ⟨mapMd5, owner.userId, owner.mode⟩

section Totals

-- The maps that give ranked score.
def RankedStatus.Gives (status : RankedStatus) : Prop := status = .Ranked ∨ status = .Approved

instance (status : RankedStatus) : Decidable status.Gives := by
  unfold RankedStatus.Gives
  infer_instance

-- The grades that are counted.
def countedGrades : List Grade := [.XH, .X, .SH, .S, .A]

theorem isRankedBest_iff {score : Score} {bmap : Beatmap} :
    score.isRankedBest bmap = true ↔ bmap.status.Gives ∧ score.status = .BEST := by
  rw [Score.isRankedBest, Bool.and_eq_true, decide_eq_true_eq, Beatmap.awardsRankedPp,
    RankedStatus.awardsRankedPp, decide_eq_true_eq, RankedStatus.Gives]

theorem counted_of_mem {grade : Grade} (h : grade ∈ countedGrades) : grade.counted = true := by
  cases grade <;> revert h <;> decide

variable (rankedStatus : String → RankedStatus) (owner : Owner)

-- A best row of the owner on a map that gives ranked score.
def ScoreRow.isRanked (row : ScoreRow) : Bool :=
  row.isBest (owner.board row.mapMd5) && decide (rankedStatus row.mapMd5).Gives

def rankedRows (rows : List ScoreRow) : List ScoreRow :=
  rows.filter (ScoreRow.isRanked rankedStatus owner)

def total (f : ScoreRow → Int) (rows : List ScoreRow) : Int := (rows.map f).sum

def gradeOf (grade : Grade) (row : ScoreRow) : Int := if row.grade = grade then 1 else 0

@[simp] theorem total_append (f : ScoreRow → Int) (first second : List ScoreRow) :
    total f (first ++ second) = total f first + total f second := by
  simp [total]

theorem total_gradeOf (grade : Grade) (rows : List ScoreRow) :
    total (gradeOf grade) rows = rows.countP (·.grade = grade) := by
  induction rows with
  | nil => rfl
  | cons row rest ih =>
      have hcons : total (gradeOf grade) (row :: rest) =
          gradeOf grade row + total (gradeOf grade) rest := rfl
      rw [hcons, ih, List.countP_cons]
      simp only [gradeOf, decide_eq_true_eq]
      split
      · push_cast
        ring
      · simp

variable {rankedStatus owner}

-- A best row of the board is a ranked row exactly when the map is ranked.
theorem isRanked_of_isBest {row : ScoreRow} {mapMd5 : String}
    (h : row.isBest (owner.board mapMd5) = true) :
    row.isRanked rankedStatus owner = decide (rankedStatus mapMd5).Gives := by
  obtain ⟨-, hboard⟩ := isBest_board h
  have hmap : row.mapMd5 = mapMd5 := congrArg Board.mapMd5 hboard
  simp [ScoreRow.isRanked, hmap, h]

theorem demote_isRanked (row : ScoreRow) (mapMd5 : String) :
    (Table.demote (owner.board mapMd5) row).isRanked rankedStatus owner =
      (row.isRanked rankedStatus owner && !row.isBest (owner.board mapMd5)) := by
  unfold Table.demote
  rcases h : row.isBest (owner.board mapMd5) with _ | _
  · simp
  · simp [ScoreRow.isRanked, ScoreRow.isBest]

-- Demoting the board of a ranked map takes exactly its best rows from the total.
theorem total_demote (f : ScoreRow → Int) {mapMd5 : String}
    (hmap : (rankedStatus mapMd5).Gives) (rows : List ScoreRow) :
    total f (rankedRows rankedStatus owner (rows.map (Table.demote (owner.board mapMd5)))) +
        total f (rows.filter (·.isBest (owner.board mapMd5))) =
      total f (rankedRows rankedStatus owner rows) := by
  induction rows with
  | nil => rfl
  | cons row rest ih =>
      unfold rankedRows at ih ⊢
      rw [List.map_cons, List.filter_cons, List.filter_cons, List.filter_cons, demote_isRanked]
      rcases hbest : row.isBest (owner.board mapMd5) with _ | _
      · have hsame : Table.demote (owner.board mapMd5) row = row := by simp [Table.demote, hbest]
        rw [hsame]
        rcases hranked : row.isRanked rankedStatus owner with _ | _
        · simpa using ih
        · simp only [total, List.map_cons, List.sum_cons, Bool.not_false, Bool.and_self, if_true,
            Bool.false_eq_true, if_false] at ih ⊢
          omega
      · have hranked : row.isRanked rankedStatus owner = true := by
          rw [isRanked_of_isBest hbest, decide_eq_true hmap]
        simp only [hranked, total, List.map_cons, List.sum_cons, Bool.not_true, Bool.and_false,
          if_true, Bool.false_eq_true, if_false] at ih ⊢
        omega

theorem rankedRows_demote {mapMd5 : String}
    (hmap : ¬(rankedStatus mapMd5).Gives) (rows : List ScoreRow) :
    rankedRows rankedStatus owner (rows.map (Table.demote (owner.board mapMd5))) =
      rankedRows rankedStatus owner rows := by
  induction rows with
  | nil => rfl
  | cons row rest ih =>
      unfold rankedRows at ih ⊢
      rw [List.map_cons, List.filter_cons, List.filter_cons, demote_isRanked, ih]
      rcases hbest : row.isBest (owner.board mapMd5) with _ | _
      · simp [Table.demote, hbest]
      · have hranked : row.isRanked rankedStatus owner = false := by
          rw [isRanked_of_isBest hbest, decide_eq_false hmap]
        simp [hranked]

end Totals

section Deltas

variable {score : Score}

-- What a submission that moves ranked score adds to a count, given the rows it
-- replaces.
theorem foldl_addGrade (items : List (Grade × Int)) (stats : ModeData × ScoreStatsUpdates)
    (grade : Grade) :
    (items.foldl addGrade stats).1.grades grade =
      stats.1.grades grade + ((items.filter (·.1 = grade)).map (·.2)).sum := by
  induction items generalizing stats with
  | nil => simp
  | cons item rest ih =>
      rw [List.foldl_cons, ih, List.filter_cons]
      by_cases h : item.1 = grade
      · subst h
        simp [addGrade]
        ring
      · have hne : grade ≠ item.1 := fun h' => h h'.symm
        simp [addGrade, h, Function.update_of_ne hne]

theorem foldl_addGrade_rscore (items : List (Grade × Int)) (stats : ModeData × ScoreStatsUpdates) :
    (items.foldl addGrade stats).1.rscore = stats.1.rscore := by
  induction items generalizing stats with
  | nil => rfl
  | cons item rest ih => exact (ih _).trans rfl

theorem gradeCountDeltas_sum (grade : Grade) (hgrade : grade ∈ countedGrades) :
    (((gradeCountDeltas score).filter (·.1 = grade)).map (·.2)).sum =
      (if score.grade = grade then 1 else 0) -
        ((score.prevBest.map fun prevBest =>
          if prevBest.grade = grade then (1 : Int) else 0).getD 0) := by
  have h := counted_of_mem hgrade
  unfold gradeCountDeltas
  rcases score.prevBest with _ | prevBest
  · by_cases hg : score.grade = grade
    · subst hg
      simp [h]
    · dsimp only
      split <;> simp [hg]
  · by_cases hsame : score.grade = prevBest.grade
    · simp [hsame]
    · by_cases hg : score.grade = grade
      · subst hg
        have hne : prevBest.grade ≠ score.grade := fun h' => hsame h'.symm
        simp only [h, if_neg hsame, if_true]
        split <;> simp [hne]
      · by_cases hp : prevBest.grade = grade
        · subst hp
          simp only [h, if_neg hsame, if_true]
          split <;> simp [hg]
        · simp only [if_neg hsame]
          split <;> split <;> simp [hg, hp]

theorem applyScoreStats_ranked {bmap : Beatmap} {stats : ModeData} (hpassed : score.passed = true)
    (h : score.isRankedBest bmap = true) :
    (applyScoreStats score bmap stats).1.rscore = stats.rscore + rankedScoreDelta score ∧
      ∀ grade, (applyScoreStats score bmap stats).1.grades grade = stats.grades grade +
        (((gradeCountDeltas score).filter (·.1 = grade)).map (·.2)).sum := by
  have hboard : bmap.hasLeaderboard = true := by
    rcases (isRankedBest_iff.mp h).1 with h' | h' <;> simp [Beatmap.hasLeaderboard, h']
  have hrun : applyScoreStats score bmap stats =
      applyRankedScoreStats score (applyMaxCombo score (applyScoreBaseStats score stats)) := by
    simp [applyScoreStats, hpassed, hboard, h]
  have hmax : ∀ updated : ModeData × ScoreStatsUpdates,
      (applyMaxCombo score updated).1.rscore = updated.1.rscore ∧
        (applyMaxCombo score updated).1.grades = updated.1.grades := by
    intro updated
    unfold applyMaxCombo
    split <;> exact ⟨rfl, rfl⟩
  obtain ⟨hrscore, hgrades⟩ := hmax (applyScoreBaseStats score stats)
  rw [hrun]
  constructor
  · simp only [applyRankedScoreStats, foldl_addGrade_rscore, hrscore]
    rfl
  · intro grade
    simp only [applyRankedScoreStats, foldl_addGrade, hgrades]
    rfl

theorem applyScoreStats_other {bmap : Beatmap} {stats : ModeData}
    (h : score.isRankedBest bmap = false) :
    (applyScoreStats score bmap stats).1.rscore = stats.rscore ∧
      (applyScoreStats score bmap stats).1.grades = stats.grades := by
  unfold applyScoreStats applyMaxCombo
  rw [h]
  dsimp only
  repeat' split
  all_goals first | exact ⟨rfl, rfl⟩ | simp_all

end Deltas

end BanchoPrism.Scores
