import BanchoPrism.Library.Discounted
import BanchoPrism.Library.Yields
import BanchoPrism.Scores.Accounting.Theorems

namespace BanchoPrism.Scores

open Library Prog

section Weights

variable {best best' : List ScorePerformanceRow}

-- The best scores of a player, as they come sorted by pp.
structure Sorted (best : List ScorePerformanceRow) : Prop where
  sorted : best.Pairwise fun row other => other.pp ≤ row.pp
  pp : ∀ row ∈ best, 0 ≤ row.pp
  acc : ∀ row ∈ best, 0 ≤ row.acc ∧ row.acc ≤ 100

theorem weightedSum_eq (values : List ℚ) : weightedSum values = discounted (19 / 20) values := by
  induction values with
  | nil => rfl
  | cons value rest ih =>
      show value + 19 / 20 * weightedSum rest = value + 19 / 20 * discounted (19 / 20) rest
      rw [ih]

-- 20 * (1 - 0.95 ** n) is the sum of the weights.
theorem divisor_eq (n : Nat) : 20 * (1 - (19 / 20 : ℚ) ^ n) = weights (19 / 20) n := by
  rw [← weights_eq]
  ring

theorem calculateWeightedAccuracy_eq (hne : best ≠ []) : calculateWeightedAccuracy best =
    some (discounted (19 / 20) (best.map (·.acc)) / weights (19 / 20) best.length) := by
  have hlength : best.length ≠ 0 := by simpa using hne
  have hpos : (0 : ℚ) < weights (19 / 20) best.length := weights_pos (by norm_num) hlength
  unfold calculateWeightedAccuracy
  rw [divisor_eq, if_neg hpos.ne', weightedSum_eq]
  congr 1
  field_simp

theorem calculateWeightedAccuracy_between (hne : best ≠ []) : ∃ acc,
    calculateWeightedAccuracy best = some acc ∧ (∃ low ∈ best, low.acc ≤ acc) ∧
      ∃ high ∈ best, acc ≤ high.acc := by
  have hne' : best.map (·.acc) ≠ [] := by simpa using hne
  have hlength : best.length ≠ 0 := by simpa using hne
  have hpos : (0 : ℚ) < weights (19 / 20) best.length := weights_pos (by norm_num) hlength
  obtain ⟨low, hlow, hle⟩ := exists_le_discounted (w := (19 / 20 : ℚ)) (by norm_num) hne'
  obtain ⟨high, hhigh, hge⟩ := exists_discounted_le (w := (19 / 20 : ℚ)) (by norm_num) hne'
  obtain ⟨lowRow, hlowRow, rfl⟩ := List.mem_map.mp hlow
  obtain ⟨highRow, hhighRow, rfl⟩ := List.mem_map.mp hhigh
  rw [List.length_map] at hle hge
  refine ⟨_, calculateWeightedAccuracy_eq hne, ⟨lowRow, hlowRow, ?_⟩, highRow, hhighRow, ?_⟩
  · exact (le_div_iff₀ hpos).mpr hle
  · exact (div_le_iff₀ hpos).mpr hge

-- weighted_pp + bonus_pp, which calculate_weighted_pp rounds
def unroundedPp (best : List ScorePerformanceRow) : ℚ :=
  weightedSum (best.map (·.pp)) + 4166667 / 10000 * (1 - (4997 / 5000) ^ best.length)

-- sum(row.pp * 0.95**i for i, row in enumerate(best_scores))
theorem sum_zipIdx {α : Type} (f : α → ℚ) (rows : List α) (k : Nat) :
    ((rows.zipIdx k).map fun (row, i) => f row * (19 / 20) ^ i).sum =
      (19 / 20) ^ k * weightedSum (rows.map f) := by
  induction rows generalizing k with
  | nil => simp [weightedSum]
  | cons row rest ih =>
    rw [List.zipIdx_cons, List.map_cons, List.sum_cons, ih, List.map_cons, weightedSum]
    ring

theorem sum_zipIdx_zero {α : Type} (f : α → ℚ) (rows : List α) :
    (rows.zipIdx.map fun (row, i) => f row * (19 / 20) ^ i).sum = weightedSum (rows.map f) := by
  rw [sum_zipIdx, pow_zero, one_mul]

theorem unroundedPp_eq (best : List ScorePerformanceRow) :
    unroundedPp best = (best.zipIdx.map fun (row, i) => row.pp * (19 / 20) ^ i).sum +
      4166667 / 10000 * (1 - (4997 / 5000) ^ best.length) := by
  have hsum := sum_zipIdx_zero (fun row : ScorePerformanceRow => row.pp) best
  exact congrArg (· + 4166667 / 10000 * (1 - (4997 / 5000 : ℚ) ^ best.length)) hsum.symm

theorem sorted_pps (h : Sorted best) : (best.map (·.pp)).Pairwise (· ≥ ·) :=
  List.pairwise_map.mpr h.sorted

theorem unroundedPp_raise {old new : ScorePerformanceRow} {rest : List ScorePerformanceRow}
    (h : Sorted best) (h' : Sorted best') (hperm : best.Perm (old :: rest))
    (hperm' : best'.Perm (new :: rest)) (hpp : old.pp ≤ new.pp) :
    unroundedPp best ≤ unroundedPp best' := by
  have hlength : best.length = best'.length := by
    rw [hperm.length_eq, hperm'.length_eq, List.length_cons, List.length_cons]
  have hsum : discounted (19 / 20) (best.map (·.pp)) ≤ discounted (19 / 20) (best'.map (·.pp)) :=
    discounted_raise (by norm_num) (sorted_pps h) (sorted_pps h') (hperm.map _) (hperm'.map _) hpp
  unfold unroundedPp
  rw [weightedSum_eq, weightedSum_eq, hlength]
  exact add_le_add_left hsum _

theorem unroundedPp_add {new : ScorePerformanceRow} (h : Sorted best) (h' : Sorted best')
    (hperm : best'.Perm (new :: best)) : unroundedPp best ≤ unroundedPp best' := by
  have hsum : discounted (19 / 20) (best.map (·.pp)) ≤ discounted (19 / 20) (best'.map (·.pp)) := by
    apply discounted_add (by norm_num) (sorted_pps h) (sorted_pps h') (hperm.map _)
    intro pp hpp
    obtain ⟨row, hrow, rfl⟩ := List.mem_map.mp hpp
    exact h'.pp row hrow
  have hbonus : (4997 / 5000 : ℚ) ^ (best.length + 1) ≤ (4997 / 5000) ^ best.length :=
    pow_le_pow_of_le_one (by norm_num) (by norm_num) (Nat.le_succ _)
  unfold unroundedPp
  rw [weightedSum_eq, weightedSum_eq, hperm.length_eq, List.length_cons]
  linarith

end Weights

section Query

-- The status that a map has in the maps table, where md5 is unique.
abbrev MapStatuses := String → Option RankedStatus

-- The rows that fetch_weighted_best_performances selects.
def Table.weightedBest (table : Table) (maps : MapStatuses) (userId : Nat) (mode : GameMode) :
    List ScoreRow :=
  table.rows.filter fun row =>
    row.userid = userId && row.mode = mode && row.status = .BEST &&
      (maps row.mapMd5).any (·.awardsRankedPp)

-- ORDER BY pp DESC, with equal ones in any order.
structure Fetched (table : Table) (maps : MapStatuses) (userId : Nat) (mode : GameMode)
    (best : List ScorePerformanceRow) : Prop where
  rows : best.Perm ((table.weightedBest maps userId mode).map fun row => ⟨row.pp, row.acc⟩)
  sorted : best.Pairwise fun row other => other.pp ≤ row.pp

-- The score that was just stored is among them.
theorem fetched_ne_nil {s : Session} {a : Attempt} {maps : MapStatuses}
    {best : List ScorePerformanceRow} (hmap : maps a.sub.bmap.md5 = some a.sub.bmap.status)
    (hranked : (s.score a).isRankedBest a.sub.bmap = true)
    (h : Fetched (a.sub.persistRow s.table (s.score a)) maps a.sub.userId a.sub.score.mode best) :
    best ≠ [] := by
  obtain ⟨hawards, hstatus⟩ : a.sub.bmap.awardsRankedPp = true ∧ (s.score a).status = .BEST := by
    simpa [Score.isRankedBest] using hranked
  have hmode : (s.score a).mode = a.sub.score.mode := Submission.rated_mode
  have hmem : a.sub.inserted s.table (s.score a) ∈
      (a.sub.persistRow s.table (s.score a)).weightedBest maps a.sub.userId a.sub.score.mode := by
    apply List.mem_filter.mpr
    refine ⟨?_, ?_⟩
    · rw [persistRow_best hstatus]
      exact List.mem_append_right _ (List.mem_singleton_self _)
    · have hawards' : a.sub.bmap.status.awardsRankedPp = true := hawards
      simp [Submission.inserted, Submission.row, hmode, hstatus, hmap, hawards']
  rintro rfl
  have hnil := List.map_eq_nil_iff.mp (List.nil_perm.mp h.rows)
  rw [hnil] at hmem
  exact absurd hmem List.not_mem_nil

end Query

section Dividing

variable {db : Database} {restricted : Bool} {score : Score} {m : Memory}

theorem call_avoids {α : Type} (result : Except DriverError α) :
    Avoids .zeroDivision m (call result) := by
  apply Avoids.lift
  cases result with
  | ok a => exact fun h => by cases h
  | error e => exact fun h => by cases h

theorem orRaise_avoids {α : Type} {e : Failure} {found : Option α}
    (h : e ≠ .zeroDivision ∨ found ≠ none) : Avoids .zeroDivision m (orRaise e found) := by
  cases found with
  | none =>
      have hne := h.resolve_right fun h => h rfl
      exact fun hraised => hne (Except.error.inj hraised)
  | some a => exact Avoids.ret a

theorem persistWeighted_avoids {updated : ModeData × ScoreStatsUpdates} {moves : Bool}
    (h : moves = true → ∀ best, db.bestPerformances = .ok best → best ≠ []) :
    Avoids .zeroDivision m (persistWeighted db score updated moves) := by
  refine Avoids.ite (fun hmoves => ?_) fun _ => Avoids.ret _
  refine Avoids.bind (call_avoids _) fun best t hbest => Avoids.bind ?_ fun weighted _ _ => ?_
  · refine orRaise_avoids (.inr ?_)
    have hfound : db.bestPerformances = .ok best := by
      cases hresult : db.bestPerformances with
      | ok rows =>
          rw [hresult] at hbest
          cases hbest
          rfl
      | error e =>
          rw [hresult] at hbest
          cases hbest
    obtain ⟨acc, hacc, -⟩ := calculateWeightedAccuracy_between (h hmoves best hfound)
    unfold applyWeightedPerformanceStats
    rw [hacc]
    exact Option.some_ne_none _
  · exact Avoids.update_bind (Avoids.ret _)

theorem persistBeatmapPlayStats_avoids :
    Avoids .zeroDivision m (persistBeatmapPlayStats db score) :=
  Avoids.update_bind (Avoids.read_bind (call_avoids _))

theorem persistScoreSubmissionStats_avoids
    (h : score.isRankedBest m.bmap = true → ∀ best, db.bestPerformances = .ok best → best ≠ []) :
    Avoids .zeroDivision m (persistScoreSubmissionStats db restricted score) := by
  refine Avoids.read_bind (Avoids.bind (orRaise_avoids (.inl ?_)) fun previous t _ => ?_)
  · exact fun hkey => by cases hkey
  refine Avoids.update_bind (Avoids.bind (persistWeighted_avoids fun hmoves => ?_) fun _ _ _ => ?_)
  · exact h (by simp_all)
  refine Avoids.bind (call_avoids _) fun _ _ _ => Avoids.bind ?_ fun _ _ _ => Avoids.ret _
  exact Avoids.onlyIf fun _ => persistBeatmapPlayStats_avoids

theorem previousFirstPlace_avoids (bmap : Beatmap) :
    Avoids .zeroDivision m (previousFirstPlace db restricted score bmap) :=
  Avoids.ite (fun _ => call_avoids _) fun _ => Avoids.ret none

theorem persistSubmittedScore_avoids : Avoids .zeroDivision m (persistSubmittedScore db score) := by
  refine Avoids.bind (Avoids.onlyIf fun _ => call_avoids _) fun _ _ _ => Avoids.bind ?_ ?_
  · refine Avoids.bind (Avoids.lift ?_) fun recId _ _ => ?_
    · cases db.insert with
      | ok id => exact fun h => by cases h
      | error e =>
          intro h
          have hraised : (if e = .integrity then Failure.duplicateScore else .driver e) =
              .zeroDivision := Except.error.inj h
          split at hraised <;> cases hraised
    · refine Avoids.bind (call_avoids _) fun row _ _ => orRaise_avoids (.inl ?_)
      exact fun h => by cases h
  · exact fun scoreId _ _ => Avoids.update_bind (Avoids.ret scoreId)

theorem unlockAchievement_avoids (owned : List Nat) (achievement : Achievement) :
    Avoids .zeroDivision m (unlockAchievement db score owned achievement) := by
  refine Avoids.ite (fun _ => Avoids.ret []) fun _ => Avoids.read_bind ?_
  refine Avoids.bind (Avoids.lift ?_) fun unlocked _ _ => Avoids.ite (fun _ => ?_) fun _ => ?_
  · cases achievement.cond { score with id := m.scoreId } score.mode.asVanilla with
    | ok unlocked => exact fun h => by cases h
    | error code => exact fun h => by cases h
  · exact Avoids.bind (call_avoids _) fun _ _ _ => Avoids.ret [achievement]
  · exact Avoids.ret []

theorem unlockEach_avoids (owned : List Nat) (achievements : List Achievement) :
    Avoids .zeroDivision m (unlockEach db score owned achievements) := by
  induction achievements generalizing m with
  | nil => exact Avoids.ret []
  | cons achievement rest ih =>
      refine Avoids.bind (unlockAchievement_avoids owned achievement) fun first _ _ => ?_
      exact Avoids.bind ih fun others _ _ => Avoids.ret (first ++ others)

theorem unlockAchievements_avoids (bmap : Beatmap) :
    Avoids .zeroDivision m (unlockAchievements db restricted score bmap) := by
  refine Avoids.ite (fun _ => ?_) fun _ => Avoids.ret []
  refine Avoids.bind (call_avoids _) fun server _ _ => ?_
  exact Avoids.bind (call_avoids _) fun owned _ _ => unlockEach_avoids owned server

theorem transaction_avoids
    (h : score.isRankedBest m.bmap = true → ∀ best, db.bestPerformances = .ok best → best ≠ []) :
    Avoids .zeroDivision m (transaction db restricted score) := by
  refine Avoids.bind (call_avoids _) fun _ t ht => Avoids.read_bind ?_
  refine Avoids.bind (previousFirstPlace_avoids _) fun previous u hu => ?_
  refine Avoids.bind persistSubmittedScore_avoids fun scoreId v hv => Avoids.bind ?_ ?_
  · -- the beatmap is still the one that the submission began with
    have hmt : SameStats m t := by
      have := call_sameStats db.begin_ m
      rwa [Moves, ht] at this
    have htu : SameStats t u := by
      have := @previousFirstPlace_sameStats db restricted score t.bmap t
      rwa [Moves, hu] at this
    have huv : SameStats u v := by
      have := @persistSubmittedScore_sameStats db score u
      rwa [Moves, hv] at this
    have hbmap : v.bmap = m.bmap := (trans_of SameStats hmt (trans_of SameStats htu huv)).2
    exact persistScoreSubmissionStats_avoids (hbmap.symm ▸ h)
  · refine fun stats w _ => Avoids.bind (unlockAchievements_avoids _) fun unlocked _ _ => ?_
    exact Avoids.bind (call_avoids _) fun _ _ _ => Avoids.ret _

theorem restoreScoreSubmissionState_avoids (snapshot : ScoreSubmissionStateSnapshot) (e : Failure) :
    Avoids (.transaction e) m (restoreScoreSubmissionState score snapshot) := by
  refine Avoids.update_bind (Avoids.update_bind (Avoids.update_bind (Avoids.update_bind ?_)))
  refine Avoids.ite (fun _ => ?_) fun _ hraised => by cases hraised
  split
  · exact fun hraised => by cases hraised
  · exact fun hraised => by cases hraised

-- A submission divides by zero only where its transaction does.
theorem persistScoreSubmission_avoids
    (h : Avoids .zeroDivision m (transaction db restricted score)) :
    Avoids (.transaction .zeroDivision) m (persistScoreSubmission db restricted score) := by
  cases hstats : m.stats score.mode with
  | none =>
      unfold Avoids persistScoreSubmission
      rw [bind_run_error (capture_missing hstats)]
      exact fun hraised => by cases hraised
  | some stats =>
      unfold Avoids persistScoreSubmission
      rw [bind_run_ok (capture_run hstats)]
      refine Avoids.handle fun e t hrun => ?_
      refine Avoids.bind (restoreScoreSubmissionState_avoids _ _) fun _ _ _ hraised => ?_
      obtain rfl : e = .zeroDivision := Raised.transaction.inj (Except.error.inj hraised)
      exact h (congrArg Prod.fst hrun)

end Dividing

-- The weighted accuracy is between two of the accuracies; the weighted pp is rounded, and before that
-- neither a score more nor more pp for one makes it less; and no submission divides by zero.
theorem weighted_sound :
    (∀ best, Sorted best → best ≠ [] → ∃ acc, calculateWeightedAccuracy best = some acc ∧
      (∃ low ∈ best, low.acc ≤ acc) ∧ ∃ high ∈ best, acc ≤ high.acc) ∧
    (∀ best, calculateWeightedPp best = roundHalfEven (unroundedPp best)) ∧
    (∀ best, unroundedPp best = (best.zipIdx.map fun (row, i) => row.pp * (19 / 20) ^ i).sum +
      4166667 / 10000 * (1 - (4997 / 5000) ^ best.length)) ∧
    (∀ best best' new, Sorted best → Sorted best' → best'.Perm (new :: best) →
      unroundedPp best ≤ unroundedPp best') ∧
    (∀ best best' old new rest, Sorted best → Sorted best' → best.Perm (old :: rest) →
      best'.Perm (new :: rest) → old.pp ≤ new.pp → unroundedPp best ≤ unroundedPp best') ∧
    ∀ (s : Session) (a : Attempt) (maps : MapStatuses),
      maps a.sub.bmap.md5 = some a.sub.bmap.status →
      (∀ best, a.db.bestPerformances = .ok best →
        Fetched (a.sub.persistRow s.table (s.score a)) maps a.sub.userId a.sub.score.mode best) →
      (persistScoreSubmission a.db a.restricted (s.score a) (s.memory a.sub)).1 ≠
        .error (.transaction .zeroDivision) := by
  refine ⟨fun best _ => calculateWeightedAccuracy_between, fun best => rfl, unroundedPp_eq,
    fun best best' new => unroundedPp_add, fun best best' old new rest => unroundedPp_raise,
    fun s a maps hmap hfetched => ?_⟩
  refine persistScoreSubmission_avoids (transaction_avoids fun hranked best hbest => ?_)
  exact fetched_ne_nil hmap hranked (hfetched best hbest)

theorem weighted_sound_firstPlay :
    (∃ acc, calculateWeightedAccuracy [⟨60, 98⟩, ⟨50, 90⟩] = some acc ∧ 90 ≤ acc) ∧
    unroundedPp [⟨50, 90⟩] ≤ unroundedPp [⟨60, 98⟩, ⟨50, 90⟩] ∧
    unroundedPp [⟨60, 98⟩, ⟨50, 90⟩] ≤ unroundedPp [⟨70, 90⟩, ⟨60, 98⟩] ∧
    (persistScoreSubmission (firstPlay 1000 .A 50 (by decide) "a").db false
      (freshSession.score (firstPlay 1000 .A 50 (by decide) "a"))
      (freshSession.memory (firstPlay 1000 .A 50 (by decide) "a").sub)).1 ≠
        .error (.transaction .zeroDivision) := by
  obtain ⟨hacc, -, -, hadd, hraise, hsubmit⟩ := weighted_sound
  have hone : Sorted [⟨50, 90⟩] := ⟨by simp, by simp, by norm_num⟩
  have htwo : Sorted [⟨60, 98⟩, ⟨50, 90⟩] := ⟨by norm_num, by norm_num, by norm_num⟩
  have hraised : Sorted [⟨70, 90⟩, ⟨60, 98⟩] := ⟨by norm_num, by norm_num, by norm_num⟩
  refine ⟨?_, hadd _ _ ⟨60, 98⟩ hone htwo (.refl _), ?_, ?_⟩
  · obtain ⟨acc, hfound, ⟨low, hlow, hle⟩, -⟩ := hacc _ htwo (List.cons_ne_nil _ _)
    refine ⟨acc, hfound, ?_⟩
    simp only [List.mem_cons, List.not_mem_nil, or_false] at hlow
    rcases hlow with rfl | rfl
    · exact le_trans (by norm_num) hle
    · exact hle
  · exact hraise _ _ ⟨50, 90⟩ ⟨70, 90⟩ [⟨60, 98⟩] htwo hraised (.swap _ _ _) (.refl _) (by norm_num)
  · apply hsubmit freshSession (firstPlay 1000 .A 50 (by decide) "a") (fun _ => some .Ranked) rfl
    rintro best ⟨⟩
    have hrows : (((firstPlay 1000 .A 50 (by decide) "a").sub.persistRow freshSession.table
        (freshSession.score (firstPlay 1000 .A 50 (by decide) "a"))).weightedBest
          (fun _ => some .Ranked) 1 .VANILLA_OSU).map (fun row => (row.pp, row.acc)) =
        [(50, 100)] := by decide +kernel
    refine ⟨.of_eq ?_, List.pairwise_singleton _ _⟩
    have hmap := congrArg (List.map fun values => ScorePerformanceRow.mk values.1 values.2) hrows
    rw [List.map_map] at hmap
    exact hmap.symm

end BanchoPrism.Scores
