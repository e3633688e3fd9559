import BanchoPrism.Anticheat.Worker
import BanchoPrism.Library.Paging
import Mathlib.Data.Int.Order.Basic

namespace BanchoPrism.Anticheat

open Library

variable {F : Type}

-- A row that the current extractor need not see again.
def ScoreReplayStats.finished (row : ScoreReplayStats F) : Bool :=
  (row.status = .ANALYZED && row.extractorVersion = currentExtractorVersion) ||
    row.status = .REPLAY_MISSING

def Bench.finished (b : Bench F) (scoreId : Int) : Bool :=
  ((fetchStats b.stats scoreId).map ScoreReplayStats.finished).getD false

def Bench.unfinished (b : Bench F) : List Score := b.scores.filter fun score => ¬b.finished score.id

def Score.queued (score : Score) : Option QueuedReplay :=
  some { scoreId := score.id, mode := score.mode }

section Pages

variable {b : Bench F}

theorem queue_push (pending : List Score) (b : Bench F) :
    pending.foldl Bench.push b =
      { b with queue := (pending.map Score.queued).reverse ++ b.queue } := by
  induction pending generalizing b with
  | nil => rfl
  | cons score rest ih =>
    rw [List.foldl_cons, ih]
    simp [Bench.push, Score.queued]

theorem unanalyzed_perm (scores : List Score) (stats : List (ScoreReplayStats F)) :
    (unanalyzedScores scores stats).Perm
      (scores.filter fun score => (fetchStats stats score.id).isNone) := List.mergeSort_perm _ _

theorem unanalyzed_ordered {scores : List Score} (h : (scores.map Score.id).Nodup)
    (stats : List (ScoreReplayStats F)) :
    (unanalyzedScores scores stats).Pairwise fun a b => a.id < b.id := by
  have hle := @List.pairwise_mergeSort Score (fun a b => decide (a.id ≤ b.id))
    (fun a b c => by simp only [decide_eq_true_eq]; omega)
    (fun a b => by simp only [Bool.or_eq_true, decide_eq_true_eq]; omega)
    (scores.filter fun score => (fetchStats stats score.id).isNone)
  have hnodup : ((unanalyzedScores scores stats).map Score.id).Nodup := by
    refine ((unanalyzed_perm scores stats).map Score.id).nodup_iff.mpr ?_
    exact h.sublist (List.filter_sublist.map Score.id)
  have hne := List.pairwise_map.mp hnodup
  refine (hle.and hne).imp fun hab => ?_
  have hle := of_decide_eq_true hab.1
  have hne := hab.2
  omega

-- What the pages behind a cursor have.
def Bench.outstanding (b : Bench F) (cursor : Int) : List Score :=
  (unanalyzedScores b.scores b.stats).filter fun score => cursor < score.id

theorem page_eq (b : Bench F) (batchSize : Nat) (cursor : Int) :
    fetchUnanalyzedScores b.scores b.stats batchSize cursor =
      (b.outstanding cursor).take batchSize := rfl

theorem outstanding_push (pending : List Score) (b : Bench F) (cursor : Int) :
    (pending.foldl Bench.push b).outstanding cursor = b.outstanding cursor := by
  rw [queue_push]
  rfl

theorem outstanding_ordered (h : (b.scores.map Score.id).Nodup) (cursor : Int) :
    (b.outstanding cursor).Pairwise fun a b => a.id < b.id :=
  (unanalyzed_ordered h b.stats).sublist List.filter_sublist

-- What is left behind a page comes behind its last score.
theorem outstanding_page (h : (b.scores.map Score.id).Nodup) {batchSize : Nat} {cursor : Int}
    {last : Score} (hlast : ((b.outstanding cursor).take batchSize).getLast? = some last) :
    b.outstanding last.id = (b.outstanding cursor).drop batchSize := by
  have hmem : last ∈ b.outstanding cursor := List.mem_of_mem_take (List.mem_of_getLast? hlast)
  have hcursor : cursor < last.id := of_decide_eq_true (List.mem_filter.mp hmem).2
  rw [← filter_after_page (outstanding_ordered h cursor) batchSize hlast]
  simp only [Bench.outstanding, List.filter_filter]
  refine List.filter_congr fun score _ => ?_
  rw [Bool.eq_iff_iff]
  simp only [decide_eq_true_eq, Bool.and_eq_true]
  omega

-- The pages that are still to come: by induction on how many there may be.
theorem backfillFrom_eq (b : Bench F) (h : (b.scores.map Score.id).Nodup) {batchSize batches : Nat}
    {cursor : Int} (enqueued : Nat)
    (henough : (b.outstanding cursor).length ≤ batches * batchSize) :
    Bench.backfillFrom batchSize batches cursor enqueued b =
      ((b.outstanding cursor).foldl Bench.push b, enqueued + (b.outstanding cursor).length) := by
  induction batches generalizing cursor enqueued b with
  | zero =>
    rw [Nat.zero_mul] at henough
    rw [Bench.backfillFrom, List.eq_nil_of_length_eq_zero (Nat.le_zero.mp henough)]
    rfl
  | succ batches ih =>
    rw [Bench.backfillFrom]
    dsimp only
    rw [page_eq]
    cases hlast : ((b.outstanding cursor).take batchSize).getLast? with
    | none =>
      have htake := List.getLast?_eq_none_iff.mp hlast
      have hnil : b.outstanding cursor = [] := by
        rcases List.take_eq_nil_iff.mp htake with hzero | hnil
        · subst hzero
          rw [Nat.mul_zero] at henough
          exact List.eq_nil_of_length_eq_zero (Nat.le_zero.mp henough)
        · exact hnil
      rw [hnil]
      rfl
    | some last =>
      have hlen : ((b.outstanding cursor).take batchSize).length =
          min batchSize (b.outstanding cursor).length := List.length_take
      dsimp only
      split
      · have hall : (b.outstanding cursor).take batchSize = b.outstanding cursor :=
          List.take_of_length_le (by omega)
        rw [hall]
      · have hrest : (b.outstanding last.id).length ≤ batches * batchSize := by
          rw [outstanding_page h hlast, List.length_drop]
          rw [Nat.succ_mul] at henough
          omega
        have hids : ((((b.outstanding cursor).take batchSize).foldl Bench.push b).scores.map
            Score.id).Nodup := by
          rw [queue_push]
          exact h
        rw [ih _ hids _ (by rw [outstanding_push]; exact hrest), outstanding_push,
          outstanding_page h hlast, ← List.foldl_append, List.take_append_drop, hlen,
          List.length_drop]
        refine Prod.ext rfl ?_
        dsimp only
        omega

theorem outstanding_all (hpositive : ∀ score ∈ b.scores, 0 < score.id) :
    b.outstanding 0 = unanalyzedScores b.scores b.stats := by
  refine List.filter_eq_self.mpr fun score hscore => ?_
  have hmem := (unanalyzed_perm b.scores b.stats).subset hscore
  exact decide_eq_true (hpositive score (List.mem_filter.mp hmem).1)

-- A pass with enough batches puts every score without a row on the queue.
theorem backfillOnce_eq (b : Bench F) (h : (b.scores.map Score.id).Nodup)
    (hpositive : ∀ score ∈ b.scores, 0 < score.id) {batchSize maxBatches : Nat}
    (henough : (unanalyzedScores b.scores b.stats).length ≤ maxBatches * batchSize) :
    b.backfillOnce batchSize maxBatches =
      Bench.publish
        { b with
          queue := ((unanalyzedScores b.scores b.stats).map Score.queued).reverse ++ b.queue }
        (some (unanalyzedScores b.scores b.stats).length) := by
  have hall := outstanding_all hpositive
  rw [Bench.backfillOnce, backfillFrom_eq b h 0 (by rw [hall]; exact henough), hall, queue_push,
    Nat.zero_add]

end Pages

section Marks

variable {stats : List (ScoreReplayStats F)} {q : QueuedReplay} {scoreId : Int}

theorem fetchStats_markAnalyzed (features : F) (now : Int) :
    fetchStats (markAnalyzed stats q features now) scoreId =
      if q.scoreId = scoreId then
        some
          { scoreId := scoreId, mode := q.mode, status := .ANALYZED
            extractorVersion := currentExtractorVersion, errorDetail := none
            features := some features, analyzedAt := some now }
      else fetchStats stats scoreId := by
  unfold fetchStats markAnalyzed
  dsimp only
  rw [fetchBy_upsertBy]
  on_goal 2 => exact fun _ => rfl
  split
  · rename_i heq
    subst heq
    cases hfetch : fetchBy ScoreReplayStats.scoreId stats q.scoreId with
    | none => rfl
    | some old =>
      rw [← key_of_fetchBy hfetch]
      rfl
  · rfl

theorem fetchStats_markReplayMissing :
    ∃ row : ScoreReplayStats F, row.status = .REPLAY_MISSING ∧
      fetchStats (markReplayMissing stats q) scoreId =
        if q.scoreId = scoreId then some row else fetchStats stats scoreId := by
  unfold fetchStats markReplayMissing
  rw [fetchBy_upsertBy]
  on_goal 2 => exact fun _ => rfl
  cases fetchBy ScoreReplayStats.scoreId stats scoreId with
  | none => exact ⟨_, rfl, rfl⟩
  | some old => exact ⟨_, rfl, rfl⟩

theorem fetchStats_markError (errorDetail : String) :
    ∃ row : ScoreReplayStats F, row.status = .ERROR ∧
      fetchStats (markError stats q errorDetail) scoreId =
        if q.scoreId = scoreId then some row else fetchStats stats scoreId := by
  unfold fetchStats markError
  dsimp only
  rw [fetchBy_upsertBy]
  on_goal 2 => exact fun _ => rfl
  cases fetchBy ScoreReplayStats.scoreId stats scoreId with
  | none => exact ⟨_, rfl, rfl⟩
  | some old => exact ⟨_, rfl, rfl⟩

end Marks

section Consuming

variable {p : Pipeline F} {b : Bench F}

-- What an iteration leaves alone.
theorem observed_frame (b : Bench F) (result : AnalysisResult) (now : Int) :
    ∃ flags, b.observed result now = { b with flags := flags } := by
  unfold Bench.observed
  split
  · exact ⟨b.flags, rfl⟩
  · split
    · exact ⟨b.flags, rfl⟩
    · exact ⟨_, rfl⟩

theorem analyzeScore_frame (p : Pipeline F) (b : Bench F) (q : QueuedReplay) (now : Int) :
    ∃ stats, (b.analyzeScore p q now).1 = { b with stats := stats } ∧
      ∀ scoreId, scoreId ≠ q.scoreId → fetchStats stats scoreId = fetchStats b.stats scoreId := by
  unfold Bench.analyzeScore
  cases hread : b.replays q.scoreId with
  | none =>
    refine ⟨_, rfl, fun scoreId hne => ?_⟩
    obtain ⟨row, -, hfetch⟩ := @fetchStats_markReplayMissing F b.stats q scoreId
    rw [hfetch, if_neg hne.symm]
  | some bytes =>
    dsimp only
    cases hextract : p.extract bytes q.mode with
    | ok features =>
      refine ⟨_, rfl, fun scoreId hne => ?_⟩
      rw [fetchStats_markAnalyzed, if_neg hne.symm]
    | error e =>
      refine ⟨_, rfl, fun scoreId hne => ?_⟩
      obtain ⟨row, -, hfetch⟩ :=
        @fetchStats_markError F b.stats q scoreId ("replay decode failed: " ++ e)
      rw [hfetch, if_neg hne.symm]

theorem consumeOnce_frame (p : Pipeline F) (b : Bench F) (now : Int) :
    (b.consumeOnce p now).scores = b.scores ∧ (b.consumeOnce p now).replays = b.replays ∧
      (b.consumeOnce p now).queue = b.queue.dropLast ∧
      ∀ scoreId, (∀ q, b.queue.getLast? = some (some q) → scoreId ≠ q.scoreId) →
        fetchStats (b.consumeOnce p now).stats scoreId = fetchStats b.stats scoreId := by
  unfold Bench.consumeOnce
  cases hlast : b.queue.getLast? with
  | none =>
    have hnil := List.getLast?_eq_none_iff.mp hlast
    refine ⟨rfl, rfl, ?_, fun _ _ => rfl⟩
    rw [hnil]
    exact hnil
  | some entry =>
    cases entry with
    | none => exact ⟨rfl, rfl, rfl, fun _ _ => rfl⟩
    | some q =>
      obtain ⟨stats, hstats, hsame⟩ :=
        analyzeScore_frame p { b with queue := b.queue.dropLast } q now
      dsimp only
      obtain ⟨flags, hflags⟩ := observed_frame
        (Bench.analyzeScore p { b with queue := b.queue.dropLast } q now).1
        (Bench.analyzeScore p { b with queue := b.queue.dropLast } q now).2 now
      rw [hflags, hstats]
      exact ⟨rfl, rfl, rfl, fun scoreId hne => hsame scoreId (hne q rfl)⟩

-- The replay of a score is gone, or can be read.
def Bench.Readable (p : Pipeline F) (b : Bench F) (q : QueuedReplay) : Prop :=
  ∀ bytes, b.replays q.scoreId = some bytes → ∃ features, p.extract bytes q.mode = .ok features

theorem consumeOnce_finished {q : QueuedReplay} (now : Int)
    (hlast : b.queue.getLast? = some (some q)) (hread : b.Readable p q) :
    (b.consumeOnce p now).finished q.scoreId := by
  have hstats : ((Bench.analyzeScore p { b with queue := b.queue.dropLast } q now).1).finished
      q.scoreId := by
    unfold Bench.analyzeScore Bench.finished
    cases hbytes : b.replays q.scoreId with
    | none =>
      obtain ⟨row, hstatus, hfetch⟩ := @fetchStats_markReplayMissing F b.stats q q.scoreId
      dsimp only
      rw [hfetch, if_pos rfl]
      simp [ScoreReplayStats.finished, hstatus]
    | some bytes =>
      obtain ⟨features, hfeatures⟩ := hread bytes hbytes
      dsimp only
      rw [hfeatures]
      dsimp only
      rw [fetchStats_markAnalyzed, if_pos rfl]
      rfl
  unfold Bench.consumeOnce
  rw [hlast]
  dsimp only
  obtain ⟨flags, hflags⟩ := observed_frame
    (Bench.analyzeScore p { b with queue := b.queue.dropLast } q now).1
    (Bench.analyzeScore p { b with queue := b.queue.dropLast } q now).2 now
  rw [hflags]
  exact hstats

end Consuming

section Runs

variable {p : Pipeline F} {b : Bench F} {batchSize maxBatches : Nat}

-- Iterations of consume, none of which fails.
def Draining : Move → Prop
  | .begin (.consume _) | .resume _ => True
  | _ => False

-- These, and passes.
def Working (batchSize maxBatches : Nat) : Move → Prop
  | .begin (.backfill n m) => n = batchSize ∧ m = maxBatches
  | e => Draining e

theorem consume_run (p : Pipeline F) (b : Bench F) (now : Int) (running : List (List (Line F))) :
    ∃ run, (∀ e ∈ run, Draining e) ∧
      runFrom (Work.step p) { world := b, running := running } run =
        { world := b.consumeOnce p now, running := running ++ [[]] } := by
  have halone : Tasks.Alone (Line.perform p) b (Job.consume now).lines (b.consumeOnce p now) :=
    consume_alone p b now
  obtain ⟨n, hn⟩ := halone.moves (fun _ b => b) running
  refine ⟨_, fun e he => ?_, hn⟩
  rcases List.mem_cons.mp he with rfl | hresume
  · trivial
  · rw [List.eq_of_mem_replicate hresume]
    trivial

def Bench.drained (p : Pipeline F) (now : Int) : Nat → Bench F → Bench F
  | 0, b => b
  | n + 1, b => drained p now n (b.consumeOnce p now)

theorem drain_run (p : Pipeline F) (b : Bench F) (now : Int) (n : Nat)
    (running : List (List (Line F))) :
    ∃ run, (∀ e ∈ run, Draining e) ∧
      runFrom (Work.step p) { world := b, running := running } run =
        { world := b.drained p now n, running := running ++ List.replicate n [] } := by
  induction n generalizing b running with
  | zero =>
    refine ⟨[], fun e he => absurd he List.not_mem_nil, ?_⟩
    simp [runFrom, Bench.drained]
  | succ n ih =>
    obtain ⟨first, hfirst, hworld⟩ := consume_run p b now running
    obtain ⟨second, hsecond, hrest⟩ := ih (b.consumeOnce p now) (running ++ [[]])
    refine ⟨first ++ second, fun e he => ?_, ?_⟩
    · rcases List.mem_append.mp he with he | he
      · exact hfirst e he
      · exact hsecond e he
    · rw [runFrom_append, hworld, hrest, List.append_assoc, List.replicate_succ]
      rfl

theorem backfill_run (p : Pipeline F) (b : Bench F) (batchSize maxBatches : Nat)
    (running : List (List (Line F))) :
    ∃ run, (∀ e ∈ run, Working batchSize maxBatches e) ∧
      runFrom (Work.step p) { world := b, running := running } run =
        { world := b.backfillOnce batchSize maxBatches, running := running ++ [[]] } := by
  have halone : Tasks.Alone (Line.perform p) b (Job.backfill batchSize maxBatches).lines
      (b.backfillOnce batchSize maxBatches) := backfill_alone p b batchSize maxBatches
  obtain ⟨n, hn⟩ := halone.moves (fun _ b => b) running
  refine ⟨_, fun e he => ?_, hn⟩
  rcases List.mem_cons.mp he with rfl | hresume
  · exact ⟨rfl, rfl⟩
  · rw [List.eq_of_mem_replicate hresume]
    trivial

-- What is left to do is on the queue, and can be done.
structure Bench.Ready (p : Pipeline F) (b : Bench F) : Prop where
  queue : ∀ entry ∈ b.queue, ∃ score ∈ b.scores, entry = score.queued
  readable : ∀ score ∈ b.scores, b.Readable p { scoreId := score.id, mode := score.mode }
  scores : ∀ score ∈ b.scores, b.finished score.id ∨ ∃ q, some q ∈ b.queue ∧ q.scoreId = score.id

theorem Bench.Ready.consumeOnce (h : b.Ready p) (now : Int) : (b.consumeOnce p now).Ready p := by
  obtain ⟨hscores, hreplays, hqueue, hstats⟩ := consumeOnce_frame p b now
  refine ⟨fun entry hentry => ?_, ?_, fun score hscore => ?_⟩
  · rw [hqueue] at hentry
    rw [hscores]
    exact h.queue entry ((List.dropLast_sublist _).subset hentry)
  · rw [hscores]
    unfold Bench.Readable
    rw [hreplays]
    exact h.readable
  · rw [hscores] at hscore
    rw [hqueue]
    by_cases hpopped : ∃ q, b.queue.getLast? = some (some q) ∧ q.scoreId = score.id
    · obtain ⟨q, hlast, hid⟩ := hpopped
      obtain ⟨other, hother, heq⟩ := h.queue (some q) (List.mem_of_getLast? hlast)
      have hread := h.readable other hother
      have hq : q = { scoreId := other.id, mode := other.mode } := Option.some.inj heq
      rw [← hq] at hread
      rw [← hid]
      exact Or.inl (consumeOnce_finished now hlast hread)
    · have hsame := hstats score.id fun q hlast hid => hpopped ⟨q, hlast, hid.symm⟩
      rcases h.scores score hscore with hfinished | ⟨q, hq, hid⟩
      · left
        unfold Bench.finished at hfinished ⊢
        rwa [hsame]
      · right
        refine ⟨q, ?_, hid⟩
        have hne : b.queue ≠ [] := List.ne_nil_of_mem hq
        rw [← List.dropLast_append_getLast hne] at hq
        rcases List.mem_append.mp hq with hinit | hlast
        · exact hinit
        · refine absurd ⟨q, ?_, hid⟩ hpopped
          rw [List.getLast?_eq_some_getLast hne, List.mem_singleton.mp hlast]

theorem Bench.Ready.drained (h : b.Ready p) (now : Int) {n : Nat} (hn : b.queue.length = n) :
    (b.drained p now n).scores = b.scores ∧
      ∀ score ∈ b.scores, (b.drained p now n).finished score.id := by
  induction n generalizing b with
  | zero =>
    have hnil := List.eq_nil_of_length_eq_zero hn
    refine ⟨rfl, fun score hscore => ?_⟩
    rcases h.scores score hscore with hfinished | ⟨q, hq, -⟩
    · exact hfinished
    · rw [hnil] at hq
      cases hq
  | succ n ih =>
    obtain ⟨hscores, -, hqueue, -⟩ := consumeOnce_frame p b now
    have hlen : (b.consumeOnce p now).queue.length = n := by
      rw [hqueue, List.length_dropLast, hn]
      rfl
    obtain ⟨hrest, hfinished⟩ := ih (h.consumeOnce now) hlen
    rw [hscores] at hrest hfinished
    exact ⟨hrest, hfinished⟩

-- A line that may write the row of a score.
def Line.touches (scoreId : Int) : Line F → Bool
  | .readReplay q _ | .markAnalyzed q _ _ | .markReplayMissing q _ | .markError q _ _ =>
      q.scoreId = scoreId
  | .enqueue score | .commit score => score.id = scoreId
  | _ => false

-- A row that nothing on the queue or under way is about.
structure Untouched (row : ScoreReplayStats F) (scoreId : Int) (t : Work F) : Prop where
  row : fetchStats t.world.stats scoreId = some row
  queue : ∀ q, some q ∈ t.world.queue → q.scoreId ≠ scoreId
  lines : ¬Tasks.Owed (Line.touches scoreId) t.running

theorem untouched_perform {row : ScoreReplayStats F} {scoreId : Int} {line : Line F}
    (hrow : fetchStats b.stats scoreId = some row)
    (hqueue : ∀ q, some q ∈ b.queue → q.scoreId ≠ scoreId)
    (hline : line.touches scoreId = false) :
    fetchStats (line.perform p b).1.stats scoreId = some row ∧
      (∀ q, some q ∈ (line.perform p b).1.queue → q.scoreId ≠ scoreId) ∧
      ∀ other ∈ (line.perform p b).2, other.touches scoreId = false := by
  have hnone : ∀ other ∈ ([] : List (Line F)), other.touches scoreId = false :=
    fun _ h => absurd h List.not_mem_nil
  have hone {line : Line F} (h : line.touches scoreId = false) :
      ∀ other ∈ [line], other.touches scoreId = false :=
    fun other hother => (List.mem_singleton.mp hother).symm ▸ h
  cases line with
  | dequeue now =>
    simp only [Line.perform]
    cases hlast : b.queue.getLast? with
    | none => exact ⟨hrow, hqueue, hone rfl⟩
    | some entry =>
      have hinit : ∀ q, some q ∈ b.queue.dropLast → q.scoreId ≠ scoreId :=
        fun q hq => hqueue q ((List.dropLast_sublist _).subset hq)
      cases entry with
      | none => exact ⟨hrow, hinit, hone rfl⟩
      | some q =>
        exact ⟨hrow, hinit, hone (decide_eq_false (hqueue q (List.mem_of_getLast? hlast)))⟩
  | readReplay q now =>
    simp only [Line.perform]
    split
    · exact ⟨hrow, hqueue, hone hline⟩
    · split <;> exact ⟨hrow, hqueue, hone hline⟩
  | markAnalyzed q features now =>
    refine ⟨?_, hqueue, hone rfl⟩
    simp only [Line.perform]
    rw [fetchStats_markAnalyzed, if_neg (of_decide_eq_false hline)]
    exact hrow
  | markReplayMissing q now =>
    refine ⟨?_, hqueue, hone rfl⟩
    obtain ⟨new, -, hfetch⟩ := @fetchStats_markReplayMissing F b.stats q scoreId
    simp only [Line.perform]
    rw [hfetch, if_neg (of_decide_eq_false hline)]
    exact hrow
  | markError q detail now =>
    refine ⟨?_, hqueue, hone rfl⟩
    obtain ⟨new, -, hfetch⟩ := @fetchStats_markError F b.stats q scoreId detail
    simp only [Line.perform]
    rw [hfetch, if_neg (of_decide_eq_false hline)]
    exact hrow
  | fetchMarked result now =>
    refine ⟨hrow, hqueue, fun other hother => ?_⟩
    rcases List.mem_append.mp hother with hobserve | hpublish
    · obtain ⟨statement, -, rfl⟩ := List.mem_map.mp hobserve
      rfl
    · exact hone rfl other hpublish
  | observe statement =>
    refine ⟨hrow, hqueue, fun other hother => ?_⟩
    obtain ⟨statement, -, rfl⟩ := List.mem_map.mp hother
    rfl
  | page batchSize cursor batches enqueued =>
    simp only [Line.perform]
    cases batches with
    | zero => exact ⟨hrow, hqueue, hone rfl⟩
    | succ batches =>
      dsimp only
      cases hlast : (fetchUnanalyzedScores b.scores b.stats batchSize cursor).getLast? with
      | none => exact ⟨hrow, hqueue, hone rfl⟩
      | some last =>
        refine ⟨hrow, hqueue, fun other hother => ?_⟩
        rcases List.mem_append.mp hother with henqueue | hnext
        · obtain ⟨score, hscore, rfl⟩ := List.mem_map.mp henqueue
          rw [page_eq] at hscore
          have hmem := (List.mem_filter.mp (List.mem_of_mem_take hscore)).1
          have hmissing := (List.mem_filter.mp
            ((unanalyzed_perm b.scores b.stats).subset hmem)).2
          refine decide_eq_false fun hid => ?_
          rw [hid, hrow] at hmissing
          cases hmissing
        · split at hnext <;> exact hone rfl other hnext
  | enqueue score =>
    refine ⟨hrow, fun q hq => ?_, hnone⟩
    rcases List.mem_cons.mp hq with heq | hold
    · cases heq
      exact of_decide_eq_false hline
    · exact hqueue q hold
  | publishDepth enqueued => exact ⟨hrow, hqueue, hnone⟩
  | commit score =>
    simp only [Line.perform]
    split <;> exact ⟨hrow, hqueue, hnone⟩
  | replay id bytes => exact ⟨hrow, hqueue, hnone⟩

-- A row that there is stays as it is, whatever passes and iterations come.
theorem Untouched.step {row : ScoreReplayStats F} {scoreId : Int} {t : Work F}
    (h : Untouched row scoreId t) (e : Move) (he : Working batchSize maxBatches e) :
    Untouched row scoreId (t.step p e) := by
  have hbegin (job : Job) (hjob : ∀ line ∈ (job.lines : List (Line F)),
      line.touches scoreId = false) : Untouched row scoreId (t.step p (.begin job)) := by
    refine ⟨h.row, h.queue, ?_⟩
    rintro ⟨task, htask, line, hline, htouches⟩
    rcases List.mem_append.mp htask with hold | hnew
    · exact h.lines ⟨task, hold, line, hline, htouches⟩
    · rw [List.mem_singleton.mp hnew] at hline
      rw [hjob line hline] at htouches
      cases htouches
  cases e with
  | begin job =>
    cases job with
    | consume now =>
      refine hbegin (.consume now) fun line hline => ?_
      rw [List.mem_singleton.mp hline]
      rfl
    | backfill n m =>
      refine hbegin (.backfill n m) fun line hline => ?_
      rw [List.mem_singleton.mp hline]
      rfl
    | submit score => exact he.elim
    | replay id bytes => exact he.elim
  | resume i =>
    change Untouched row scoreId (Tasks.resume (Line.perform p) t i)
    refine Tasks.resume_keeps h i fun line rest hnext => ?_
    have hline : line.touches scoreId = false := by
      refine Bool.eq_false_iff.mpr fun htouches => h.lines ?_
      exact ⟨_, Tasks.mem_of_next hnext, line, List.mem_cons_self, htouches⟩
    obtain ⟨hrow, hqueue, hlines⟩ := @untouched_perform F p t.world row scoreId line h.row h.queue hline
    refine ⟨hrow, hqueue, ?_⟩
    rintro ⟨task, htask, other, hother, htouches⟩
    rcases Tasks.mem_lines_set hnext htask hother with hnew | ⟨task, htask, hother⟩
    · rw [hlines other hnew] at htouches
      cases htouches
    · obtain ⟨task, htask, hother⟩ := Tasks.mem_lines_of_rest hnext htask hother
      exact h.lines ⟨task, htask, other, hother, htouches⟩
  | fail i => exact he.elim

theorem Untouched.run {row : ScoreReplayStats F} {scoreId : Int} {t : Work F}
    (h : Untouched row scoreId t) {run : List Move}
    (hrun : ∀ e ∈ run, Working batchSize maxBatches e) :
    Untouched row scoreId (runFrom (Work.step p) t run) :=
  (Guarded.of_forall hrun).invariant (Untouched row scoreId) (fun _ e h he => h.step e he) h

end Runs

section Worklist

variable {p : Pipeline F} {b : Bench F} {batchSize maxBatches : Nat}

-- A pass puts each score that is not finished on the queue, once, and nothing else.
def Bench.WorksOff (b : Bench F) (batchSize maxBatches : Nat) : Prop :=
  ∃ pushed : List Score, pushed.Perm b.unfinished ∧
    (b.backfillOnce batchSize maxBatches).queue = (pushed.map Score.queued).reverse ++ b.queue

-- After some passes and iterations without a failure every score is finished.
def Bench.Completes (p : Pipeline F) (b : Bench F) (batchSize maxBatches : Nat) : Prop :=
  ∃ run, (∀ e ∈ run, Working batchSize maxBatches e) ∧
    ∀ score ∈ b.scores,
      (runFrom (Work.step p) { world := b, running := [] } run).world.finished score.id

-- Ids are given out from 1 on, and a batch of this size and number is enough.
structure Bench.Ample (b : Bench F) (batchSize maxBatches : Nat) : Prop where
  ids : (b.scores.map Score.id).Nodup
  positive : ∀ score ∈ b.scores, 0 < score.id
  enough : b.unfinished.length ≤ maxBatches * batchSize

def Bench.Unstarted (b : Bench F) : Prop := ∀ score ∈ b.unfinished, fetchStats b.stats score.id = none

theorem finished_of_none {scoreId : Int} (h : fetchStats b.stats scoreId = none) :
    b.finished scoreId = false := by
  rw [Bench.finished, h]
  rfl

theorem unanalyzed_sublist (b : Bench F) :
    (b.scores.filter fun score => (fetchStats b.stats score.id).isNone).Sublist b.unfinished := by
  refine List.monotone_filter_right b.scores fun score hnone => ?_
  have hunfinished := finished_of_none (Option.isNone_iff_eq_none.mp hnone)
  simp [hunfinished]

theorem Bench.Ample.pass (h : b.Ample batchSize maxBatches) :
    b.backfillOnce batchSize maxBatches =
      Bench.publish
        { b with
          queue := ((unanalyzedScores b.scores b.stats).map Score.queued).reverse ++ b.queue }
        (some (unanalyzedScores b.scores b.stats).length) := by
  refine backfillOnce_eq b h.ids h.positive (le_trans ?_ h.enough)
  rw [(unanalyzed_perm b.scores b.stats).length_eq]
  exact (unanalyzed_sublist b).length_le

theorem Bench.Unstarted.perm (h : b.Unstarted) :
    (unanalyzedScores b.scores b.stats).Perm b.unfinished := by
  refine (unanalyzed_perm b.scores b.stats).trans (List.Perm.of_eq ?_)
  refine List.filter_congr fun score hscore => ?_
  cases hfinished : b.finished score.id with
  | true =>
    cases hfetch : fetchStats b.stats score.id with
    | none =>
      rw [finished_of_none hfetch] at hfinished
      cases hfinished
    | some row => rfl
  | false =>
    have hnone := h score (List.mem_filter.mpr ⟨hscore, by simp [hfinished]⟩)
    rw [hnone]
    rfl

theorem worksOff_iff (h : b.Ample batchSize maxBatches) :
    b.WorksOff batchSize maxBatches ↔ b.Unstarted := by
  rw [Bench.WorksOff, h.pass]
  constructor
  · rintro ⟨pushed, hperm, hqueue⟩ score hscore
    have hsame := List.append_cancel_right hqueue
    have hmem : score.queued ∈ (unanalyzedScores b.scores b.stats).map Score.queued := by
      have hpushed := List.mem_map_of_mem (f := Score.queued) (hperm.mem_iff.mpr hscore)
      rw [← List.mem_reverse, ← hsame, List.mem_reverse] at hpushed
      exact hpushed
    obtain ⟨other, hother, heq⟩ := List.mem_map.mp hmem
    have hmissing := (List.mem_filter.mp ((unanalyzed_perm b.scores b.stats).subset hother)).2
    have hid : other.id = score.id := congrArg QueuedReplay.scoreId (Option.some.inj heq)
    rw [hid] at hmissing
    exact Option.isNone_iff_eq_none.mp hmissing
  · intro hunstarted
    exact ⟨_, hunstarted.perm, rfl⟩

theorem Bench.Unstarted.ready (h : b.Unstarted) (hample : b.Ample batchSize maxBatches)
    (hqueue : b.queue = [])
    (hread : ∀ score ∈ b.scores, b.Readable p { scoreId := score.id, mode := score.mode }) :
    (b.backfillOnce batchSize maxBatches).Ready p := by
  rw [hample.pass, hqueue, List.append_nil]
  refine ⟨fun entry hentry => ?_, hread, fun score hscore => ?_⟩
  · obtain ⟨score, hscore, rfl⟩ := List.mem_map.mp (List.mem_reverse.mp hentry)
    have hmem := h.perm.mem_iff.mp hscore
    exact ⟨score, (List.mem_filter.mp hmem).1, rfl⟩
  · cases hfinished : b.finished score.id with
    | true => exact Or.inl hfinished
    | false =>
      refine Or.inr ⟨{ scoreId := score.id, mode := score.mode }, ?_, rfl⟩
      refine List.mem_reverse.mpr (List.mem_map.mpr ⟨score, h.perm.mem_iff.mpr ?_, rfl⟩)
      exact List.mem_filter.mpr ⟨hscore, by simp [hfinished]⟩

theorem completes_iff (h : b.Ample batchSize maxBatches) (hqueue : b.queue = [])
    (hread : ∀ score ∈ b.scores, b.Readable p { scoreId := score.id, mode := score.mode }) :
    b.Completes p batchSize maxBatches ↔ b.Unstarted := by
  constructor
  · rintro ⟨run, hrun, hfinished⟩ score hscore
    obtain ⟨hmem, hunfinished⟩ := List.mem_filter.mp hscore
    cases hfetch : fetchStats b.stats score.id with
    | none => rfl
    | some row =>
      have hstart : Untouched row score.id { world := b, running := [] } := by
        refine ⟨hfetch, fun q hq => ?_, ?_⟩
        · rw [hqueue] at hq
          cases hq
        · rintro ⟨task, htask, -⟩
          cases htask
      have hend := hfinished score hmem
      rw [Bench.finished, (hstart.run hrun).row] at hend
      rw [Bench.finished, hfetch] at hunfinished
      rw [Option.map_some, Option.getD_some] at hend hunfinished
      rw [hend] at hunfinished
      cases hunfinished
  · intro hunstarted
    have hready := hunstarted.ready h hqueue hread
    obtain ⟨pass, hpass, hworld⟩ := backfill_run p b batchSize maxBatches []
    obtain ⟨drain, hdrain, hdrained⟩ := drain_run p (b.backfillOnce batchSize maxBatches) 0
      (b.backfillOnce batchSize maxBatches).queue.length ([] ++ [[]])
    refine ⟨pass ++ drain, fun e he => ?_, fun score hscore => ?_⟩
    · rcases List.mem_append.mp he with he | he
      · exact hpass e he
      · have hdraining := hdrain e he
        cases e with
        | begin job =>
          cases job with
          | consume now => trivial
          | _ => exact hdraining.elim
        | resume i => trivial
        | fail i => exact hdraining.elim
    · rw [runFrom_append, hworld, hdrained]
      have hscores : (b.backfillOnce batchSize maxBatches).scores = b.scores := by
        rw [h.pass]
        rfl
      exact (hready.drained 0 rfl).2 score (hscores ▸ hscore)

-- An empty replay cannot be read, and one that begins with 0 has nothing to it.
def handMade : Pipeline Bool where
  extract := fun bytes _ =>
    match bytes with
    | [] => .error "empty"
    | first :: _ => .ok (first != 0)
  detect := fun machine =>
    [{ code := "B1_HOLD"
       title := "holds"
       severity := if machine then .HIGH else .NONE
       confidence := if machine then 1 / 2 else 0
       flagged := machine
       detail := "holds"
       evidence := [] }]
  graded := by
    intro machine signal hsignal
    rw [List.mem_singleton.mp hsignal]
    cases machine <;> rfl

def benchOf (stats : List (ScoreReplayStats Bool)) (queue : List (Option QueuedReplay)) :
    Bench Bool where
  scores := [{ id := 5, mode := 0, userid := 7 }, { id := 2, mode := 3, userid := 8 }]
  stats := stats
  queue := queue
  replays := fun id => if id = 5 then some [1] else none
  flags := []
  depth := 0
  passes := []

-- The replay of score 5 could not be decoded when it was analysed, and now can.
def repaired : Bench Bool :=
  benchOf
    [{ scoreId := 5, mode := 0, status := .ERROR, extractorVersion := 0
       errorDetail := some "replay decode failed: empty", features := none, analyzedAt := none }]
    []

end Worklist

end BanchoPrism.Anticheat
