import BanchoPrism.Scores.Accounting

namespace BanchoPrism.Scores

open Library Prog

-- A player's session and the scores table, between two submissions.
structure Session where
  table : Table
  stats : GameMode → Option ModeData
  recentScores : GameMode → Option (Option Nat)

-- A submission with what the users table and every database call come to, and
-- the global rank it is given.
structure Attempt where
  sub : Submission
  users : Users
  db : Database
  restricted : Bool
  rank : Int

namespace Session

def memory (s : Session) (sub : Submission) : Memory :=
  { scoreId := none, stats := s.stats, recentScores := s.recentScores, bmap := sub.bmap }

def score (s : Session) (a : Attempt) : Score :=
  a.sub.calculateScoreSubmissionStatus s.table a.users

def setRank (mode : GameMode) (rank : Int) (stats : GameMode → Option ModeData) :
    GameMode → Option ModeData :=
  Function.update stats mode ((stats mode).map fun modeData => { modeData with rank := rank })

-- submit_score, one request after the other
def submit (s : Session) (a : Attempt) : Session :=
  match persistScoreSubmission a.db a.restricted (s.score a) (s.memory a.sub) with
  | (.ok result, m) =>
      { table := a.sub.persistRow s.table (s.score a)
        stats :=
          if result.stats.shouldUpdateRank then setRank a.sub.score.mode a.rank m.stats
          else m.stats
        recentScores := Function.update m.recentScores a.sub.score.mode (some m.scoreId) }
  | (.error _, m) => { s with stats := m.stats, recentScores := m.recentScores }

end Session

-- The submission succeeds, is the owner's, and is on a map of the known status.
structure Succeeds (rankedStatus : String → RankedStatus) (owner : Owner) (s : Session)
    (a : Attempt) : Prop where
  ok : (persistScoreSubmission a.db a.restricted (s.score a) (s.memory a.sub)).1.isOk = true
  userId : a.sub.userId = owner.userId
  mode : a.sub.score.mode = owner.mode
  status : a.sub.bmap.status = rankedStatus a.sub.bmap.md5

-- rscore and the grade counts are those of the owner's best rows on ranked maps.
structure Accounted (rankedStatus : String → RankedStatus) (owner : Owner) (s : Session) :
    Prop where
  rscore : ∀ stats, s.stats owner.mode = some stats →
    stats.rscore = total (·.score) (rankedRows rankedStatus owner s.table.rows)
  grades : ∀ stats, s.stats owner.mode = some stats → ∀ grade ∈ countedGrades,
    stats.grades grade = (rankedRows rankedStatus owner s.table.rows).countP (·.grade = grade)

-- No board has two best rows of the owner.
def OneBest (owner : Owner) (table : Table) : Prop :=
  ∀ mapMd5, (table.fetchBest (owner.board mapMd5)).length ≤ 1

-- What one successful submission changes: the row is written, the score is the best one if it has
-- more pp than each that is, and where it counts, what it replaces is taken off.
structure Settles (rankedStatus : String → RankedStatus) (owner : Owner) (s : Session)
    (a : Attempt) : Prop where
  table : (s.submit a).table = a.sub.persistRow s.table (s.score a)
  best : (s.score a).status = .BEST ↔ a.sub.score.passed = true ∧
    ∃ pp ∈ a.sub.performance, ∀ best ∈ s.table.fetchBest a.sub.board, best.pp < pp
  replaced : (s.score a).status = .BEST → (rankedStatus a.sub.bmap.md5).Gives →
    ∀ before ∈ s.stats owner.mode, ∃ after ∈ (s.submit a).stats owner.mode,
      after.rscore = before.rscore - total (·.score) (s.table.fetchBest a.sub.board) +
        a.sub.score.score ∧
      ∀ grade ∈ countedGrades, after.grades grade = before.grades grade -
        total (gradeOf grade) (s.table.fetchBest a.sub.board) +
          if a.sub.score.grade = grade then 1 else 0
  kept : (s.score a).status ≠ .BEST ∨ ¬(rankedStatus a.sub.bmap.md5).Gives →
    ∀ before ∈ s.stats owner.mode, ∃ after ∈ (s.submit a).stats owner.mode,
      after.rscore = before.rscore ∧ after.grades = before.grades

section Steps

variable {rankedStatus : String → RankedStatus} {owner : Owner} {s : Session} {a : Attempt}

theorem board_of_succeeds (h : Succeeds rankedStatus owner s a) :
    a.sub.board = owner.board a.sub.bmap.md5 := by
  rw [Submission.board, Owner.board, h.userId, h.mode]

-- One best row a board is kept by every submission.
theorem oneBest_persistRow {table : Table} {sub : Submission} {score : Score}
    (hmode : score.mode = sub.score.mode) (hone : OneBest owner table) :
    OneBest owner (sub.persistRow table score) := by
  intro mapMd5
  by_cases hscore : score.status = .BEST
  · by_cases hboard : owner.board mapMd5 = sub.board
    · rw [hboard, fetchBest_persistRow hmode hscore]
      simp
    · have hnew : (sub.inserted table score).isBest (owner.board mapMd5) = false := by
        have hinserted : (sub.inserted table score).board = sub.board := by
          rw [Submission.board, ← hmode]
          rfl
        simp [ScoreRow.isBest, hinserted, Ne.symm hboard]
      rw [Table.fetchBest, persistRow_best hscore, List.filter_append, List.length_append,
        filter_demote hboard]
      simpa [hnew, Table.fetchBest] using hone mapMd5
  · rw [fetchBest_persistRow_other hscore]
    exact hone mapMd5

-- How a total over the ranked rows moves with one submission.
theorem total_persistRow (f : ScoreRow → Int) (h : Succeeds rankedStatus owner s a)
    (hbest : (s.score a).isRankedBest a.sub.bmap = true) :
    total f (rankedRows rankedStatus owner (a.sub.persistRow s.table (s.score a)).rows) =
      total f (rankedRows rankedStatus owner s.table.rows) -
        total f (s.table.fetchBest a.sub.board) + f (a.sub.inserted s.table (s.score a)) := by
  obtain ⟨hgives, hstatus⟩ := isRankedBest_iff.mp hbest
  have hmap : (rankedStatus a.sub.bmap.md5).Gives := h.status ▸ hgives
  have hboard := board_of_succeeds h
  have hnew : (a.sub.inserted s.table (s.score a)).isRanked rankedStatus owner = true := by
    have hisBest : (a.sub.inserted s.table (s.score a)).isBest (owner.board a.sub.bmap.md5) =
        true := by
      have hmode : (s.score a).mode = a.sub.score.mode := Submission.rated_mode
      rw [← hboard, inserted_isBest hmode]
      simp [hstatus]
    rw [isRanked_of_isBest hisBest, decide_eq_true hmap]
  have hdemote := @total_demote rankedStatus owner f _ hmap s.table.rows
  rw [persistRow_best hstatus, rankedRows, List.filter_append, total_append, hboard,
    Table.fetchBest, ← hdemote]
  simp only [rankedRows, List.filter_cons, hnew, if_true, List.filter_nil]
  simp [total]

theorem rankedRows_persistRow (h : Succeeds rankedStatus owner s a)
    (hbest : (s.score a).isRankedBest a.sub.bmap = false) :
    rankedRows rankedStatus owner (a.sub.persistRow s.table (s.score a)).rows =
      rankedRows rankedStatus owner s.table.rows := by
  have hboard := board_of_succeeds h
  by_cases hstatus : (s.score a).status = .BEST
  · have hmap : ¬(rankedStatus a.sub.bmap.md5).Gives := by
      rw [← h.status]
      intro hgives
      rw [isRankedBest_iff.mpr ⟨hgives, hstatus⟩] at hbest
      cases hbest
    have hnew : (a.sub.inserted s.table (s.score a)).isRanked rankedStatus owner = false := by
      simp [ScoreRow.isRanked, Submission.inserted, Submission.row, hmap]
    rw [persistRow_best hstatus, rankedRows, List.filter_append, hboard]
    have hsame := @rankedRows_demote rankedStatus owner _ hmap s.table.rows
    rw [rankedRows, rankedRows] at hsame
    rw [hsame]
    simp [rankedRows, hnew]
  · have hnew : (a.sub.inserted s.table (s.score a)).isRanked rankedStatus owner = false := by
      simp [ScoreRow.isRanked, ScoreRow.isBest, Submission.inserted, Submission.row, hstatus]
    rw [persistRow_other hstatus, rankedRows, List.filter_append]
    simp [rankedRows, hnew]

-- What the score takes with it of the row it replaces.
theorem replaced_total (f : ScoreRow → Int) (hone : OneBest owner s.table)
    (h : Succeeds rankedStatus owner s a) (hstatus : (s.score a).status = .BEST) :
    (s.score a).passed = true ∧
      ((s.table.fetchBest a.sub.board = [] ∧ (s.score a).prevBest = none ∧
          total f (s.table.fetchBest a.sub.board) = 0) ∨
        ∃ rec, (s.score a).prevBest = some ⟨rec.score, rec.grade⟩ ∧
          total f (s.table.fetchBest a.sub.board) = f rec) := by
  have hpassed : (s.score a).passed = a.sub.score.passed := Submission.rated_passed
  have hlen := hone a.sub.bmap.md5
  rw [← board_of_succeeds h] at hlen
  cases @Submission.rated_rating a.sub s.table a.users with
  | failed _ hs => exact absurd (hs.symm.trans hstatus) (by simp)
  | unavailable _ _ _ hs => exact absurd (hs.symm.trans hstatus) (by simp)
  | first hp _ hnil hprev _ =>
      refine ⟨hpassed.trans hp, Or.inl ⟨hnil, hprev, ?_⟩⟩
      rw [hnil]
      rfl
  | better hp _ rec rest hrec _ hprev _ =>
      refine ⟨hpassed.trans hp, Or.inr ⟨rec, hprev, ?_⟩⟩
      rw [hrec] at hlen ⊢
      have hrest : rest = [] := by
        apply List.eq_nil_of_length_eq_zero
        simp only [List.length_cons] at hlen
        omega
      subst hrest
      simp [total]
  | worse _ _ _ _ _ _ hs => exact absurd (hs.symm.trans hstatus) (by simp)

theorem submit_ok (h : (persistScoreSubmission a.db a.restricted (s.score a)
    (s.memory a.sub)).1.isOk = true) :
    (s.submit a).table = a.sub.persistRow s.table (s.score a) ∧
      ∃ stats stats', s.stats a.sub.score.mode = some stats ∧
        (s.submit a).stats a.sub.score.mode = some stats' ∧
          stats'.counters = (applyScoreStats (s.score a) a.sub.bmap stats).1.counters := by
  have hmode : (s.score a).mode = a.sub.score.mode := Submission.rated_mode
  rcases hrun : persistScoreSubmission a.db a.restricted (s.score a) (s.memory a.sub) with
    ⟨e | result, m⟩
  · rw [hrun] at h
    cases h
  obtain ⟨stats, stats', hstats, hm, hcounters⟩ := persist_ok hrun
  rw [hmode] at hstats hm
  have hsubmit : (s.submit a).stats =
      if result.stats.shouldUpdateRank then Session.setRank a.sub.score.mode a.rank m.stats
      else m.stats := by
    unfold Session.submit
    rw [hrun]
  have hsame : m.stats a.sub.score.mode = some stats' := by
    rw [hm, Function.update_self]
  constructor
  · unfold Session.submit
    rw [hrun]
  rw [hsubmit]
  split
  · refine ⟨stats, { stats' with rank := a.rank }, hstats, ?_, hcounters⟩
    simp [Session.setRank, hsame]
  · exact ⟨stats, stats', hstats, hsame, hcounters⟩

theorem best_iff (hone : OneBest owner s.table) (h : Succeeds rankedStatus owner s a) :
    (s.score a).status = .BEST ↔ a.sub.score.passed = true ∧
      ∃ pp ∈ a.sub.performance, ∀ best ∈ s.table.fetchBest a.sub.board, best.pp < pp := by
  have hlen := hone a.sub.bmap.md5
  rw [← board_of_succeeds h] at hlen
  have hrating : a.sub.Rating s.table (s.score a) := Submission.rated_rating
  cases hrating with
  | failed hpassed hstatus => simp [hstatus, hpassed]
  | unavailable hpassed hnone hpp hstatus => simp [hstatus, hnone]
  | first hpassed hpp hbest hprev hstatus =>
    refine iff_of_true hstatus ⟨hpassed, _, hpp, ?_⟩
    rw [hbest]
    exact fun _ hmem => absurd hmem List.not_mem_nil
  | better hpassed hpp rec rest hbest hlt hprev hstatus =>
    refine iff_of_true hstatus ⟨hpassed, _, hpp, fun best hmem => ?_⟩
    rw [hbest] at hlen hmem
    obtain rfl : rest = [] := List.eq_nil_of_length_eq_zero (by simpa using hlen)
    rw [List.mem_singleton.mp hmem]
    exact hlt
  | worse hpassed hpp rec rest hbest hle hstatus =>
    refine iff_of_false (by simp [hstatus]) ?_
    rintro ⟨-, pp, hmem, habove⟩
    obtain rfl : (s.score a).pp = pp := Option.some.inj (hpp.symm.trans hmem)
    exact absurd (habove rec (hbest ▸ List.mem_cons_self)) (not_lt.mpr hle)

theorem submit_settles (hone : OneBest owner s.table) (h : Succeeds rankedStatus owner s a) :
    Settles rankedStatus owner s a := by
  obtain ⟨htable, stats, stats', hstats, hstats', hcounters⟩ := submit_ok h.ok
  rw [h.mode] at hstats hstats'
  have hrscore : stats'.rscore = (applyScoreStats (s.score a) a.sub.bmap stats).1.rscore := by
    have hcounted := congrArg ModeData.rscore hcounters
    exact hcounted
  have hgrades : stats'.grades = (applyScoreStats (s.score a) a.sub.bmap stats).1.grades := by
    have hcounted := congrArg ModeData.grades hcounters
    exact hcounted
  have hscore : (s.score a).score = a.sub.score.score := Submission.rated_score
  have hgrade : (s.score a).grade = a.sub.score.grade := Submission.rated_grade
  have hranked : (s.score a).isRankedBest a.sub.bmap = true ↔
      (rankedStatus a.sub.bmap.md5).Gives ∧ (s.score a).status = .BEST := by
    rw [← h.status]
    exact isRankedBest_iff
  refine ⟨htable, best_iff hone h, fun hstatus hmap => ?_, fun hother => ?_⟩
  · rintro before hbefore
    obtain rfl : stats = before := Option.some.inj (hstats.symm.trans hbefore)
    have hbest := hranked.mpr ⟨hmap, hstatus⟩
    have hpassed := (replaced_total (·.score) hone h hstatus).1
    obtain ⟨hr, hg⟩ := @applyScoreStats_ranked _ _ stats hpassed hbest
    refine ⟨stats', hstats', ?_, fun grade hcounted => ?_⟩
    · rw [hrscore, hr, ← hscore]
      rcases (replaced_total (·.score) hone h hstatus).2 with
        ⟨-, hprev, hold⟩ | ⟨rec, hprev, hold⟩
      · simp only [rankedScoreDelta, hprev, hold]
        omega
      · simp only [rankedScoreDelta, hprev, hold]
        omega
    · rw [hgrades, hg, gradeCountDeltas_sum grade hcounted, ← hgrade]
      rcases (replaced_total (gradeOf grade) hone h hstatus).2 with
        ⟨-, hprev, hold⟩ | ⟨rec, hprev, hold⟩
      · simp only [hprev, hold, Option.map_none, Option.getD_none]
        omega
      · rw [hprev, hold]
        simp only [Option.map_some, Option.getD_some, gradeOf]
        omega
  · rintro before hbefore
    obtain rfl : stats = before := Option.some.inj (hstats.symm.trans hbefore)
    have hbest : (s.score a).isRankedBest a.sub.bmap = false := by
      rw [Bool.eq_false_iff, ne_eq, hranked]
      rintro ⟨hmap, hstatus⟩
      exact hother.elim (fun hne => hne hstatus) fun hnot => hnot hmap
    obtain ⟨hr, hg⟩ := @applyScoreStats_other _ _ stats hbest
    exact ⟨stats', hstats', hrscore.trans hr, hgrades.trans hg⟩

theorem submit_accounted (hone : OneBest owner s.table) (hacc : Accounted rankedStatus owner s)
    (h : Succeeds rankedStatus owner s a) : Accounted rankedStatus owner (s.submit a) := by
  have hsettles := submit_settles hone h
  obtain ⟨-, stats, stats', hstats, -, -⟩ := submit_ok h.ok
  rw [h.mode] at hstats
  rcases hbest : (s.score a).isRankedBest a.sub.bmap with _ | _
  · have hother : (s.score a).status ≠ .BEST ∨ ¬(rankedStatus a.sub.bmap.md5).Gives := by
      rw [← h.status]
      by_cases hstatus : (s.score a).status = .BEST
      · refine Or.inr fun hgives => ?_
        rw [isRankedBest_iff.mpr ⟨hgives, hstatus⟩] at hbest
        cases hbest
      · exact Or.inl hstatus
    obtain ⟨after, hafter, hr, hg⟩ := hsettles.kept hother stats hstats
    have hrows := rankedRows_persistRow h hbest
    constructor
    · intro final hfinal
      obtain rfl : after = final := Option.some.inj (hafter.symm.trans hfinal)
      rw [hr, hsettles.table, hrows, hacc.rscore stats hstats]
    · intro final hfinal grade hgrade
      obtain rfl : after = final := Option.some.inj (hafter.symm.trans hfinal)
      rw [hg, hsettles.table, hrows, hacc.grades stats hstats grade hgrade]
  · have hparts := isRankedBest_iff.mp hbest
    rw [h.status] at hparts
    obtain ⟨after, hafter, hr, hg⟩ := hsettles.replaced hparts.2 hparts.1 stats hstats
    constructor
    · intro final hfinal
      obtain rfl : after = final := Option.some.inj (hafter.symm.trans hfinal)
      have hnew : (a.sub.inserted s.table (s.score a)).score = a.sub.score.score :=
        Submission.rated_score
      rw [hr, hsettles.table, total_persistRow _ h hbest, hnew, hacc.rscore stats hstats]
    · intro final hfinal grade hgrade
      obtain rfl : after = final := Option.some.inj (hafter.symm.trans hfinal)
      have hnew : gradeOf grade (a.sub.inserted s.table (s.score a)) =
          if a.sub.score.grade = grade then 1 else 0 := by
        rw [← @Submission.rated_grade a.sub s.table a.users]
        rfl
      rw [hg grade hgrade, hsettles.table, ← total_gradeOf, total_persistRow _ h hbest, hnew,
        hacc.grades stats hstats grade hgrade, ← total_gradeOf]

theorem submit_oneBest (hone : OneBest owner s.table) (h : Succeeds rankedStatus owner s a) :
    OneBest owner (s.submit a).table := by
  rw [(submit_ok h.ok).1]
  exact oneBest_persistRow Submission.rated_mode hone

end Steps

-- Along a run of successful submissions that starts with one best row a board at most, each step
-- takes off what it replaces, and the ranked score and the grade counts stay those of the best
-- rows, so that no count is ever negative.
theorem accounted_of_succeeds (rankedStatus : String → RankedStatus) (owner : Owner)
    (s : Session) (run : List Attempt) (hone : OneBest owner s.table)
    (hacc : Accounted rankedStatus owner s)
    (hrun : Guarded Session.submit (Succeeds rankedStatus owner) s run) :
    Accounted rankedStatus owner (runFrom Session.submit s run) ∧
      (∀ stats, (runFrom Session.submit s run).stats owner.mode = some stats →
        ∀ grade ∈ countedGrades, 0 ≤ stats.grades grade) ∧
      Guarded Session.submit (Settles rankedStatus owner) s run := by
  have hboth := Guarded.invariant
    (fun s => OneBest owner s.table ∧ Accounted rankedStatus owner s)
    (fun _ _ hs h => ⟨submit_oneBest hs.1 h, submit_accounted hs.1 hs.2 h⟩) ⟨hone, hacc⟩ hrun
  have hsettles := Guarded.strengthen (fun s => OneBest owner s.table)
    (fun _ _ hs h => submit_oneBest hs h) (fun _ _ hs h => submit_settles hs h) hone hrun
  refine ⟨hboth.2, fun stats hstats grade hgrade => ?_, hsettles⟩
  rw [hboth.2.grades stats hstats grade hgrade]
  exact Int.natCast_nonneg _

-- A newcomer plays one ranked map twice, the second time better.
def firstPlay (score : Int) (grade : Grade) (pp : ℚ) (h : 0 ≤ pp) (checksum : String) : Attempt :=
  { sub :=
      { userId := 1
        bmap := { id := 1, md5 := "m", status := .Ranked }
        performance := some pp
        performance_nonneg := by rintro _ ⟨⟩; exact h
        score :=
          { mode := .VANILLA_OSU
            score := score
            maxCombo := 100
            n300 := 100
            n100 := 0
            n50 := 0
            nmiss := 0
            ngeki := 0
            nkatu := 0
            grade := grade
            passed := true
            clientChecksum := checksum } }
    users := onlyUser
    db := { bestPerformances := .ok [⟨pp, 100⟩] }
    restricted := false
    rank := 1 }

def freshSession : Session :=
  { table := .empty
    stats := fun mode => if mode = .VANILLA_OSU then some {} else none
    recentScores := fun _ => some none }

theorem accounted_of_succeeds_twoPlays :
    Accounted (fun _ => .Ranked) ⟨1, .VANILLA_OSU⟩
      (runFrom Session.submit freshSession
        [firstPlay 1000 .A 50 (by decide) "a", firstPlay 1500 .X 60 (by decide) "b"]) := by
  have hone : OneBest ⟨1, .VANILLA_OSU⟩ freshSession.table := by
    intro mapMd5
    exact Nat.zero_le 1
  have hacc : Accounted (fun _ => .Ranked) ⟨1, .VANILLA_OSU⟩ freshSession := by
    constructor
    · rintro stats ⟨⟩
      rfl
    · rintro stats ⟨⟩ grade _
      rfl
  have hrun : Guarded Session.submit (Succeeds (fun _ => .Ranked) ⟨1, .VANILLA_OSU⟩) freshSession
      [firstPlay 1000 .A 50 (by decide) "a", firstPlay 1500 .X 60 (by decide) "b"] :=
    ⟨⟨by decide +kernel, rfl, rfl, rfl⟩, ⟨by decide +kernel, rfl, rfl, rfl⟩, trivial⟩
  exact (accounted_of_succeeds _ _ freshSession _ hone hacc hrun).1

-- Two best rows of one board, which count twice.
def twoBestRows : Table :=
  (Table.empty.create
    { higherScoreRow with score := 1000, onlineChecksum := "c" }).create
    { higherScoreRow with score := 900, pp := 40, onlineChecksum := "d" }

def twoBests : Session :=
  { freshSession with
    table := twoBestRows
    stats := fun mode =>
      if mode = .VANILLA_OSU then
        some { rscore := 1900, grades := fun grade => if grade = .A then 2 else 0 }
      else none }

-- A better score takes off one of them.
theorem not_accounted_twoBests :
    Accounted (fun _ => .Ranked) ⟨1, .VANILLA_OSU⟩ twoBests ∧
      Guarded Session.submit (Succeeds (fun _ => .Ranked) ⟨1, .VANILLA_OSU⟩) twoBests
        [firstPlay 1500 .X 60 (by decide) "b"] ∧
      ¬ Accounted (fun _ => .Ranked) ⟨1, .VANILLA_OSU⟩
        (runFrom Session.submit twoBests [firstPlay 1500 .X 60 (by decide) "b"]) := by
  refine ⟨⟨?_, ?_⟩, ⟨⟨by decide +kernel, rfl, rfl, rfl⟩, trivial⟩, fun h => ?_⟩
  · rintro stats ⟨⟩
    rfl
  · rintro stats ⟨⟩ grade _
    cases grade <;> rfl
  · have hfinal : ((runFrom Session.submit twoBests
        [firstPlay 1500 .X 60 (by decide) "b"]).stats .VANILLA_OSU).map ModeData.rscore =
          some 2400 := by decide +kernel
    obtain ⟨stats, hstats, hrscore⟩ := Option.map_eq_some_iff.mp hfinal
    have hsum : total (·.score) (rankedRows (fun _ => .Ranked) ⟨1, .VANILLA_OSU⟩
        (runFrom Session.submit twoBests [firstPlay 1500 .X 60 (by decide) "b"]).table.rows) =
          1500 := by decide +kernel
    have hcounted := h.rscore stats hstats
    rw [hrscore, hsum] at hcounted
    exact absurd hcounted (by decide)

end BanchoPrism.Scores
