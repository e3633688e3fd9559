import BanchoPrism.Anticheat.Backfill
import BanchoPrism.Anticheat.Detectors
import BanchoPrism.Anticheat.Sticky

namespace BanchoPrism.Anticheat

open Library

-- The pipeline of analyze_replay: its detectors flag a signal by how severe it is.
def movementPipeline (extract : List UInt8 → Int → Except String (ReplayFeatures ℚ))
    (print : Printer) (cfg : DetectorConfig) : Pipeline (ReplayFeatures ℚ) where
  extract := extract
  detect feats := movementSignals print feats cfg
  graded := by
    intro feats signal hsignal
    have hflagged := (movementSignals_coherent signal hsignal).flagged_iff
    rw [Bool.eq_iff_iff, hflagged, decide_eq_true_eq]
    cases signal.severity <;> decide

variable {F : Type} {p : Pipeline F} {b : Bench F}

-- An analysis that is through and that a reviewer has to see.
def ScoreReplayStats.flagged (p : Pipeline F) (row : ScoreReplayStats F) : Bool :=
  row.status = .ANALYZED && (row.features.map fun features => (p.report features).flagged).getD false

def Bench.flagged (p : Pipeline F) (b : Bench F) (scoreId : Int) : Bool :=
  ((fetchStats b.stats scoreId).map (ScoreReplayStats.flagged p)).getD false

def Bench.recorded (b : Bench F) (scoreId : Int) : Bool := (fetchFlag b.flags scoreId).isSome

def Bench.queued (b : Bench F) (scoreId : Int) : Bool :=
  b.queue.any fun entry => entry.any fun q => q.scoreId = scoreId

-- A line of an iteration that has a score in hand and has yet to record it.
def Line.holds (scoreId : Int) : Line F → Bool
  | .readReplay q _ | .markAnalyzed q _ _ | .markReplayMissing q _ | .markError q _ _ =>
      q.scoreId = scoreId
  | .fetchMarked result _ => result.scoreId = scoreId && result.top.isSome
  | .observe (.fetchScoreUser result _ _ _) => result.scoreId = scoreId
  | .observe (.upsert id _ _) => id = scoreId
  | _ => false

def Line.consumes : Line F → Bool
  | .dequeue _ | .readReplay _ _ | .markAnalyzed _ _ _ | .markReplayMissing _ _ | .markError _ _ _
  | .fetchMarked _ _ | .observe _ | .publishDepth none => true
  | _ => false

-- An iteration does not fail over the last that is left of a score whose analysis is stored as
-- flagged and that has no flag yet.
def Work.Spares (p : Pipeline F) (t : Work F) : Move → Prop
  | .fail i =>
      ∀ line rest, Tasks.next t.running i = some (line, rest) →
        ∀ score ∈ t.world.scores, (∃ other ∈ line :: rest, other.holds score.id) →
          t.world.flagged p score.id → t.world.recorded score.id ∨ t.world.queued score.id ∨
            Tasks.Owed (Line.holds score.id) (t.running.set i [])
  | _ => True

instance (p : Pipeline F) (t : Work F) (e : Move) : Decidable (t.Spares p e) :=
  match e with
  | .begin _ | .resume _ => isTrue trivial
  | .fail i =>
      match h : Tasks.next t.running i with
      | none => isTrue fun line rest hnext => by rw [h] at hnext; cases hnext
      | some (line, rest) =>
          decidable_of_iff
            (∀ score ∈ t.world.scores, (∃ other ∈ line :: rest, other.holds score.id) →
              t.world.flagged p score.id → t.world.recorded score.id ∨ t.world.queued score.id ∨
                Tasks.Owed (Line.holds score.id) (t.running.set i []))
            ⟨fun hspares line' rest' hnext => by rw [h] at hnext; cases hnext; exact hspares,
              fun hspares => hspares line rest h⟩

section Grading

theorem foldl_max_mem (severities : List Severity) (best : Severity) :
    severities.foldl (fun best s => if severityRank best < severityRank s then s else best) best =
        best ∨
      severities.foldl (fun best s => if severityRank best < severityRank s then s else best) best ∈
        severities := by
  induction severities generalizing best with
  | nil => exact Or.inl rfl
  | cons s rest ih =>
    rw [List.foldl_cons]
    split
    · right
      rcases ih s with heq | hrest
      · rw [heq]
        exact List.mem_cons_self
      · exact List.mem_cons_of_mem s hrest
    · rcases ih best with heq | hrest
      · exact Or.inl heq
      · exact Or.inr (List.mem_cons_of_mem s hrest)

-- A report that is flagged has a signal for it.
theorem top_isSome (p : Pipeline F) (q : QueuedReplay) {features : F}
    (h : (p.report features).flagged) : (p.analyzed q features).top.isSome := by
  have hrank : severityRank .MEDIUM ≤
      severityRank (maxSeverity ((p.detect features).map DetectionSignal.severity)) :=
    of_decide_eq_true h
  have hne : (p.report features).triggered ≠ [] := by
    rcases foldl_max_mem ((p.detect features).map DetectionSignal.severity) .NONE with hnone | hmem
    · rw [maxSeverity, hnone] at hrank
      exact absurd hrank (by decide)
    · obtain ⟨signal, hsignal, hseverity⟩ := List.mem_map.mp hmem
      have hflagged : signal.flagged = true := by
        rw [p.graded features signal hsignal, hseverity]
        exact decide_eq_true hrank
      refine List.ne_nil_of_mem (a := signal) ?_
      rw [DetectionReport.triggered, List.mem_mergeSort]
      exact List.mem_filter.mpr ⟨hsignal, hflagged⟩
  obtain ⟨top, rest, htriggered⟩ := List.exists_cons_of_ne_nil hne
  simp [AnalysisResult.top, Pipeline.analyzed, h, htriggered]

end Grading

section Lines

variable {scoreId : Int}

theorem recorded_observe (b : Bench F) (statement : Statement) (h : b.recorded scoreId) :
    (fetchFlag (statement.perform b.desk).1.flags scoreId).isSome := by
  obtain ⟨flag, hflag⟩ := Option.isSome_iff_exists.mp h
  have hdesk : fetchFlag b.desk.flags scoreId = some flag := hflag
  obtain ⟨after, hafter, -⟩ := @effect_some scoreId statement flag
  rw [fetchFlag_perform, hdesk, hafter]
  rfl

-- A flag stays.
theorem recorded_perform (line : Line F) (h : b.recorded scoreId) :
    (line.perform p b).1.recorded scoreId := by
  cases line with
  | dequeue now =>
    simp only [Line.perform]
    split <;> exact h
  | readReplay q now =>
    simp only [Line.perform]
    split
    · exact h
    · split <;> exact h
  | observe statement => exact recorded_observe b statement h
  | page batchSize cursor batches enqueued =>
    simp only [Line.perform]
    split
    · exact h
    · split <;> exact h
  | commit score =>
    simp only [Line.perform]
    split <;> exact h
  | _ => exact h

theorem queued_iff : b.queued scoreId ↔ ∃ q, some q ∈ b.queue ∧ q.scoreId = scoreId := by
  simp only [Bench.queued, List.any_eq_true, Option.any_eq_true, decide_eq_true_eq]
  constructor
  · rintro ⟨entry, hentry, q, rfl, hid⟩
    exact ⟨q, hentry, hid⟩
  · rintro ⟨q, hq, hid⟩
    exact ⟨some q, hq, q, rfl, hid⟩

-- A line that has the score in hand records it, or goes on to one that has.
theorem forwarded_held (line : Line F) (hscore : ∃ score ∈ b.scores, score.id = scoreId)
    (hline : line.holds scoreId) (hflagged : (line.perform p b).1.flagged p scoreId) :
    (line.perform p b).1.recorded scoreId ∨
      ∃ other ∈ (line.perform p b).2, other.holds scoreId := by
  cases line with
  | readReplay q now =>
    refine Or.inr ?_
    simp only [Line.perform]
    split
    · exact ⟨_, List.mem_singleton_self _, hline⟩
    · split <;> exact ⟨_, List.mem_singleton_self _, hline⟩
  | markAnalyzed q features now =>
    have hid : q.scoreId = scoreId := of_decide_eq_true hline
    refine Or.inr ⟨_, List.mem_singleton_self _, ?_⟩
    simp only [Line.perform, Bench.flagged, fetchStats_markAnalyzed, if_pos hid, Option.map_some,
      Option.getD_some, ScoreReplayStats.flagged, decide_true, Bool.true_and] at hflagged
    exact Bool.and_eq_true_iff.mpr ⟨hline, top_isSome p q hflagged⟩
  | markReplayMissing q now =>
    have hid : q.scoreId = scoreId := of_decide_eq_true hline
    obtain ⟨row, hstatus, hfetch⟩ := @fetchStats_markReplayMissing F b.stats q scoreId
    simp only [Line.perform, Bench.flagged, hfetch, if_pos hid, Option.map_some, Option.getD_some,
      ScoreReplayStats.flagged, hstatus] at hflagged
    exact absurd hflagged (by simp)
  | markError q detail now =>
    have hid : q.scoreId = scoreId := of_decide_eq_true hline
    obtain ⟨row, hstatus, hfetch⟩ := @fetchStats_markError F b.stats q scoreId detail
    simp only [Line.perform, Bench.flagged, hfetch, if_pos hid, Option.map_some, Option.getD_some,
      ScoreReplayStats.flagged, hstatus] at hflagged
    exact absurd hflagged (by simp)
  | fetchMarked result now =>
    obtain ⟨hid, htop⟩ := Bool.and_eq_true_iff.mp hline
    obtain ⟨⟨report, top⟩, hfound⟩ := Option.isSome_iff_exists.mp htop
    refine Or.inr ⟨.observe (.fetchScoreUser result report top now), ?_, hid⟩
    simp [Line.perform, Op.statements, hfound]
  | observe statement =>
    cases statement with
    | fetchScoreUser result report top now =>
      have hid : result.scoreId = scoreId := of_decide_eq_true hline
      obtain ⟨score, hmem, hscoreId⟩ := hscore
      cases howner : fetchBy Score.id b.scores scoreId with
      | none => exact absurd hscoreId (fetchBy_eq_none.mp howner score hmem)
      | some owner =>
        refine Or.inr ?_
        simp only [Line.perform, Statement.perform, Bench.desk, hid, howner, Option.map_some]
        exact ⟨_, List.mem_singleton_self _, by simp [Line.holds]⟩
    | upsert id d now =>
      have hid : id = scoreId := of_decide_eq_true hline
      refine Or.inl ?_
      change (fetchFlag ((Statement.upsert id d now).perform b.desk).1.flags scoreId).isSome
      rw [fetchFlag_perform]
      simp only [Statement.effect, if_pos hid]
      split <;> rfl
    | _ => cases hline
  | _ => cases hline

-- A line that has another score in hand, or none.
theorem forwarded_free (line : Line F) (hline : line.holds scoreId = false) :
    ((line.perform p b).1.flagged p scoreId → b.flagged p scoreId) ∧
      (b.queued scoreId → (line.perform p b).1.queued scoreId ∨
        ∃ other ∈ (line.perform p b).2, other.holds scoreId) := by
  cases line with
  | dequeue now =>
    simp only [Line.perform]
    cases hlast : b.queue.getLast? with
    | none => exact ⟨id, Or.inl⟩
    | some entry =>
      have hinit {q : QueuedReplay} (hq : some q ∈ b.queue) (hne : entry ≠ some q) :
          some q ∈ b.queue.dropLast := by
        have hnil : b.queue ≠ [] := List.ne_nil_of_mem hq
        rw [List.getLast?_eq_some_getLast hnil] at hlast
        rw [← List.dropLast_append_getLast hnil] at hq
        rcases List.mem_append.mp hq with hinit | hend
        · exact hinit
        · rw [List.mem_singleton.mp hend] at hne
          exact absurd (Option.some.inj hlast).symm hne
      cases entry with
      | none =>
        refine ⟨id, fun hqueued => Or.inl ?_⟩
        obtain ⟨q, hq, hid⟩ := queued_iff.mp hqueued
        exact queued_iff.mpr ⟨q, hinit hq (by simp), hid⟩
      | some popped =>
        refine ⟨id, fun hqueued => ?_⟩
        obtain ⟨q, hq, hid⟩ := queued_iff.mp hqueued
        by_cases heq : popped = q
        · subst heq
          exact Or.inr ⟨_, List.mem_singleton_self _, decide_eq_true hid⟩
        · exact Or.inl (queued_iff.mpr
            ⟨q, hinit hq fun hsome => heq (Option.some.inj hsome), hid⟩)
  | readReplay q now =>
    simp only [Line.perform]
    split
    · exact ⟨id, Or.inl⟩
    · split <;> exact ⟨id, Or.inl⟩
  | markAnalyzed q features now =>
    refine ⟨fun hflagged => ?_, Or.inl⟩
    rw [Line.perform, Bench.flagged, fetchStats_markAnalyzed,
      if_neg (of_decide_eq_false hline)] at hflagged
    exact hflagged
  | markReplayMissing q now =>
    refine ⟨fun hflagged => ?_, Or.inl⟩
    obtain ⟨row, -, hfetch⟩ := @fetchStats_markReplayMissing F b.stats q scoreId
    rw [Line.perform, Bench.flagged, hfetch, if_neg (of_decide_eq_false hline)] at hflagged
    exact hflagged
  | markError q detail now =>
    refine ⟨fun hflagged => ?_, Or.inl⟩
    obtain ⟨row, -, hfetch⟩ := @fetchStats_markError F b.stats q scoreId detail
    rw [Line.perform, Bench.flagged, hfetch, if_neg (of_decide_eq_false hline)] at hflagged
    exact hflagged
  | page batchSize cursor batches enqueued =>
    simp only [Line.perform]
    split
    · exact ⟨id, Or.inl⟩
    · split <;> exact ⟨id, Or.inl⟩
  | enqueue score =>
    refine ⟨id, fun hqueued => Or.inl ?_⟩
    obtain ⟨q, hq, hid⟩ := queued_iff.mp hqueued
    exact queued_iff.mpr ⟨q, List.mem_cons_of_mem _ hq, hid⟩
  | commit score =>
    simp only [Line.perform]
    split <;> exact ⟨id, Or.inl⟩
  | _ => exact ⟨id, Or.inl⟩

end Lines

section Runs

-- A score whose analysis is stored as flagged has a flag, or is on the queue, or in hand.
def Work.Kept (p : Pipeline F) (t : Work F) : Prop :=
  ∀ score ∈ t.world.scores, t.world.flagged p score.id →
    t.world.recorded score.id ∨ t.world.queued score.id ∨
      Tasks.Owed (Line.holds score.id) t.running

theorem scores_perform (line : Line F) {score : Score} (h : score ∈ (line.perform p b).1.scores) :
    score ∈ b.scores ∨ (line.perform p b).1.flagged p score.id = false := by
  cases line with
  | dequeue now =>
    simp only [Line.perform] at h
    split at h <;> exact Or.inl h
  | readReplay q now =>
    simp only [Line.perform] at h
    split at h
    · exact Or.inl h
    · split at h <;> exact Or.inl h
  | page batchSize cursor batches enqueued =>
    simp only [Line.perform] at h
    split at h
    · exact Or.inl h
    · split at h <;> exact Or.inl h
  | commit new =>
    simp only [Line.perform] at h ⊢
    split at h
    · rename_i hfresh
      rcases List.mem_append.mp h with hold | hnew
      · exact Or.inl hold
      · right
        rw [List.mem_singleton.mp hnew, if_pos hfresh, Bench.flagged]
        have hnone := (Bool.and_eq_true_iff.mp hfresh).2
        rw [Option.isNone_iff_eq_none.mp hnone]
        rfl
    · exact Or.inl h
  | _ => exact Or.inl h

theorem Work.Kept.resume {t : Work F} (h : t.Kept p) (i : Nat) :
    Work.Kept p (Tasks.resume (Line.perform p) t i) := by
  refine Tasks.resume_keeps h i fun line rest hnext score hscore hflagged => ?_
  dsimp only at hscore hflagged ⊢
  rcases scores_perform line hscore with hold | hunflagged
  · have hmem : ∃ other ∈ t.world.scores, other.id = score.id := ⟨score, hold, rfl⟩
    have howed {other : Line F} (hother : other ∈ (line.perform p t.world).2)
        (hholds : other.holds score.id) :
        Tasks.Owed (Line.holds score.id) (t.running.set i ((line.perform p t.world).2 ++ rest)) :=
      Tasks.Owed.of_lines hnext (List.mem_append_left rest hother) hholds
    cases hline : line.holds score.id with
    | true =>
      rcases forwarded_held line hmem hline hflagged with hrecorded | ⟨other, hother, hholds⟩
      · exact Or.inl hrecorded
      · exact Or.inr (Or.inr (howed hother hholds))
    | false =>
      obtain ⟨hwas, hqueue⟩ := forwarded_free (p := p) (b := t.world) line hline
      rcases h score hold (hwas hflagged) with hrecorded | hqueued | hheld
      · exact Or.inl (recorded_perform line hrecorded)
      · rcases hqueue hqueued with hqueued | ⟨other, hother, hholds⟩
        · exact Or.inr (Or.inl hqueued)
        · exact Or.inr (Or.inr (howed hother hholds))
      · rcases hheld.of_next hnext with hholds | hothers
        · rw [hline] at hholds
          cases hholds
        · exact Or.inr (Or.inr (hothers.extend _))
  · rw [hunflagged] at hflagged
    cases hflagged

theorem Work.Kept.step {t : Work F} (h : t.Kept p) (e : Move) (hspares : t.Spares p e) :
    (t.step p e).Kept p := by
  cases e with
  | begin job =>
    intro score hscore hflagged
    rcases h score hscore hflagged with hrecorded | hqueued | hheld
    · exact Or.inl hrecorded
    · exact Or.inr (Or.inl hqueued)
    · exact Or.inr (Or.inr (hheld.append _))
  | resume i => exact h.resume i
  | fail i =>
    change Work.Kept p (Tasks.fail (fun _ b => b) t i)
    refine Tasks.fail_keeps h i fun line rest hnext score hscore hflagged => ?_
    rcases h score hscore hflagged with hrecorded | hqueued | hheld
    · exact Or.inl hrecorded
    · exact Or.inr (Or.inl hqueued)
    · rcases hheld.of_fail hnext with hmine | hothers
      · exact hspares line rest hnext score hscore hmine hflagged
      · exact Or.inr (Or.inr hothers)

-- The replay of a score is there, and is analysed as flagged whatever its mode is taken to be.
def Bench.Reproducible (p : Pipeline F) (b : Bench F) (scoreId : Int) : Prop :=
  ∃ bytes, b.replays scoreId = some bytes ∧
    ∀ mode, ∃ features, p.extract bytes mode = .ok features ∧ (p.report features).flagged

theorem flagged_consumeOnce {scoreId : Int} (now : Int) (h : b.flagged p scoreId)
    (hrep : b.Reproducible p scoreId) : (b.consumeOnce p now).flagged p scoreId := by
  by_cases hpopped : ∃ q, b.queue.getLast? = some (some q) ∧ q.scoreId = scoreId
  · obtain ⟨q, hlast, rfl⟩ := hpopped
    obtain ⟨bytes, hbytes, hextract⟩ := hrep
    obtain ⟨features, hfeatures, hreport⟩ := hextract q.mode
    have hanalyze : Bench.analyzeScore p { b with queue := b.queue.dropLast } q now =
        ({ b with
            queue := b.queue.dropLast
            stats := markAnalyzed b.stats q features now }, p.analyzed q features) := by
      simp only [Bench.analyzeScore, hbytes, hfeatures]
    unfold Bench.consumeOnce
    simp only [hlast, hanalyze]
    obtain ⟨flags, hflags⟩ := observed_frame
      { b with queue := b.queue.dropLast, stats := markAnalyzed b.stats q features now }
      (p.analyzed q features) now
    rw [hflags]
    change ((fetchStats (markAnalyzed b.stats q features now) q.scoreId).map _).getD false = true
    rw [fetchStats_markAnalyzed, if_pos rfl]
    exact hreport
  · obtain ⟨-, -, -, hstats⟩ := consumeOnce_frame p b now
    have hsame := hstats scoreId fun q hlast hid => hpopped ⟨q, hlast, hid.symm⟩
    rwa [Bench.flagged, hsame]

theorem flagged_drained {scoreId : Int} (now : Int) (n : Nat) (h : b.flagged p scoreId)
    (hrep : b.Reproducible p scoreId) :
    (b.drained p now n).flagged p scoreId ∧ (b.drained p now n).scores = b.scores ∧
      (b.drained p now n).queue.length = b.queue.length - n := by
  induction n generalizing b with
  | zero => exact ⟨h, rfl, rfl⟩
  | succ n ih =>
    obtain ⟨hscores, hreplays, hqueue, -⟩ := consumeOnce_frame p b now
    have hrep' : (b.consumeOnce p now).Reproducible p scoreId := by
      unfold Bench.Reproducible
      rwa [hreplays]
    obtain ⟨hflagged, hsame, hlen⟩ := ih (flagged_consumeOnce now h hrep) hrep'
    refine ⟨hflagged, hsame.trans hscores, hlen.trans ?_⟩
    rw [hqueue, List.length_dropLast]
    omega

-- What is asked of a state between iterations.
structure Work.Sure (p : Pipeline F) (t : Work F) : Prop where
  kept : ∀ score ∈ t.world.scores, t.world.flagged p score.id →
    t.world.recorded score.id ∨ t.world.queued score.id ∨
      score ∈ unanalyzedScores t.world.scores t.world.stats
  eventually : ∀ score ∈ t.world.scores, t.world.flagged p score.id →
    t.world.Reproducible p score.id →
      ∃ run, (∀ e ∈ run, Draining e) ∧ (runFrom (Work.step p) t run).world.recorded score.id

def Work.Between (t : Work F) : Prop := ¬Tasks.Owed Line.consumes t.running

theorem consumes_of_holds {scoreId : Int} {line : Line F} (h : line.holds scoreId) :
    line.consumes := by
  cases line with
  | readReplay | markAnalyzed | markReplayMissing | markError | fetchMarked | observe => rfl
  | _ => cases h

theorem Work.Between.not_held {t : Work F} (h : t.Between) (scoreId : Int) :
    ¬Tasks.Owed (Line.holds scoreId) t.running := by
  rintro ⟨task, htask, line, hline, hholds⟩
  exact h ⟨task, htask, line, hline, consumes_of_holds hholds⟩

-- When the queue has been worked off without a failure, what is flagged has its flag.
theorem Work.Kept.eventually {t : Work F} (h : t.Kept p) (hbetween : t.Between) {score : Score}
    (hscore : score ∈ t.world.scores) (hflagged : t.world.flagged p score.id)
    (hrep : t.world.Reproducible p score.id) :
    ∃ run, (∀ e ∈ run, Draining e) ∧ (runFrom (Work.step p) t run).world.recorded score.id := by
  obtain ⟨run, hrun, hend⟩ := drain_run p t.world 0 t.world.queue.length t.running
  refine ⟨run, hrun, ?_⟩
  have hkept : (runFrom (Work.step p) t run).Kept p := by
    refine (Guarded.of_forall hrun).invariant (Work.Kept p) (fun t e h he => h.step e ?_) h
    cases e with
    | begin job => trivial
    | resume i => trivial
    | fail i => exact he.elim
  change runFrom (Work.step p) t run = _ at hend
  obtain ⟨hstill, hscores, hlen⟩ := flagged_drained 0 t.world.queue.length hflagged hrep
  rw [hend] at hkept ⊢
  rcases hkept score (hscores ▸ hscore) hstill with hrecorded | hqueued | hheld
  · exact hrecorded
  · obtain ⟨q, hq, -⟩ := queued_iff.mp hqueued
    rw [List.eq_nil_of_length_eq_zero (hlen.trans (Nat.sub_self _))] at hq
    cases hq
  · obtain ⟨task, htask, line, hline, hholds⟩ := hheld
    rcases List.mem_append.mp htask with hold | hdone
    · exact absurd ⟨task, hold, line, hline, hholds⟩ (hbetween.not_held score.id)
    · rw [List.eq_of_mem_replicate hdone] at hline
      cases hline

-- An iteration over score 5 that comes as far as to store its analysis, and fails.
def storedOnly : List Move := .begin (.consume 1) :: List.replicate 3 (.resume 0) ++ [.fail 0]

end Runs

end BanchoPrism.Anticheat
