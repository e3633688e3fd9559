import BanchoPrism.Library.Tasks
import BanchoPrism.Scores.Placement

namespace BanchoPrism.Scores

open Library

def ScoreRow.passed (row : ScoreRow) : Bool := row.status ≠ .FAILED

-- A board has one best row at most, and no other passed row has more pp.
structure Table.Crowned (table : Table) (board : Board) : Prop where
  unique : (table.fetchBest board).length ≤ 1
  maximal : ∀ best ∈ table.fetchBest board, ∀ row ∈ table.rows,
    row.board = board → row.passed → row.pp ≤ best.pp

-- The best row has this much pp.
def Table.Topped (table : Table) (board : Board) (pp : ℚ) : Prop :=
  ∃ best ∈ table.fetchBest board, pp ≤ best.pp

namespace Submission

variable (sub : Submission)

-- calculate_status, once Score.from_sql has the row of the previous best.
def compared (rec row : ScoreRow) (score : Score) : Score :=
  { score with
    prevBest := some { score := row.score, grade := row.grade }
    status := if rec.pp < score.pp then .BEST else .SUBMITTED }

def timed (score : Score) : Score :=
  { score with timeElapsed := if sub.score.passed then sub.scoreTime else sub.failTime }

end Submission

namespace Race

-- What is left to do of submit_score after each await. The locks are by the checksum of the score:
-- submissions with different ones never wait for each other.
inductive Line
  | fetchDuplicate (sub : Submission)
  | ensureOsuFile (sub : Submission)
  | fetchBest (sub : Submission) (score : Score)
  | fromSql (sub : Submission) (rec : ScoreRow) (score : Score)
  | calculatePlacement (sub : Submission) (score : Score)
  -- the transaction
  | persist (sub : Submission) (score : Score)

open Line

def Line.perform (users : Users) (line : Line) (table : Table) : Table × List Line :=
  match line with
  | fetchDuplicate sub =>
      if table.rows.any fun row => row.onlineChecksum = sub.score.clientChecksum then (table, [])
      else (table, [ensureOsuFile sub])
  | ensureOsuFile sub =>
      match sub.performance with
      | none => (table, [persist sub (sub.timed sub.unrated)])
      | some pp =>
          let score := { sub.unrated with pp := pp }
          if sub.score.passed then (table, [fetchBest sub score])
          else (table, [persist sub (sub.timed { score with status := .FAILED })])
  | fetchBest sub score =>
      match table.fetchBest sub.board with
      | [] => (table, [calculatePlacement sub { score with status := .BEST }])
      | rec :: _ => (table, [fromSql sub rec score])
  | fromSql sub rec score =>
      match table.fetchOne rec.id with
      | none => (table, [])
      | some row => (table, [calculatePlacement sub (Submission.compared rec row score)])
  | calculatePlacement sub score =>
      (table, [persist sub (sub.timed (sub.placed table users score))])
  | persist sub score => (sub.persistRow table score, [])

abbrev Traffic := Tasks Table Line

abbrev Move := Tasks.Move Submission

-- A transaction that fails leaves nothing behind.
def Traffic.move (users : Users) (t : Traffic) (m : Move) : Traffic :=
  Tasks.move (fun sub => [fetchDuplicate sub]) (Line.perform users) (fun _ table => table) t m

-- A score that was found to be the best is written while no row is the best that has more pp.
def Line.Heeds (table : Table) : Line → Prop
  | persist sub score =>
      score.status = .BEST → ∀ best ∈ table.fetchBest sub.board, best.pp ≤ score.pp
  | _ => True

def Heeds (t : Traffic) : Move → Prop
  | .resume i => ∀ found ∈ Tasks.next t.running i, found.1.Heeds t.world
  | .begin _ | .fail _ => True

instance (table : Table) (board : Board) : Decidable (table.Crowned board) :=
  decidable_of_iff
    ((table.fetchBest board).length ≤ 1 ∧ ∀ best ∈ table.fetchBest board, ∀ row ∈ table.rows,
      row.board = board → row.passed → row.pp ≤ best.pp)
    ⟨fun h => ⟨h.1, h.2⟩, fun h => ⟨h.unique, h.maximal⟩⟩

instance (table : Table) (line : Line) : Decidable (line.Heeds table) := by
  cases line <;> unfold Line.Heeds <;> infer_instance

instance (t : Traffic) (m : Move) : Decidable (Heeds t m) := by
  cases m <;> unfold Heeds <;> infer_instance

-- What every table that submissions fill has: a passed row is unrated, or not above the best row.
structure Sound (table : Table) (board : Board) : Prop where
  unique : (table.fetchBest board).length ≤ 1
  below : ∀ row ∈ table.rows, row.board = board → row.passed →
    row.pp = 0 ∨ table.Topped board row.pp
  nonneg : ∀ best ∈ table.fetchBest board, 0 ≤ best.pp

-- What the client sent of a score stays, and the calculator gives no negative pp.
structure Sent (sub : Submission) (score : Score) : Prop where
  mode : score.mode = sub.score.mode
  nonneg : 0 ≤ score.pp

-- A score that was found not to be the best one has a best row above it.
structure Compared (table : Table) (sub : Submission) (score : Score) : Prop extends
    Sent sub score where
  below : score.status = .SUBMITTED → score.pp = 0 ∨ table.Topped sub.board score.pp

def Line.Sound (table : Table) : Line → Prop
  | fetchDuplicate _ | ensureOsuFile _ => True
  | fetchBest sub score => Sent sub score
  | fromSql sub rec score => Sent sub score ∧ table.Topped sub.board rec.pp
  | calculatePlacement sub score | persist sub score => Compared table sub score

section Rows

variable {sub : Submission} {table : Table} {score : Score} {board : Board} {pp : ℚ} {line : Line}
  {users : Users}

theorem Sound.crowned (h : Sound table board) : table.Crowned board := by
  refine ⟨h.unique, fun best hbest row hrow hboard hpassed => ?_⟩
  rcases h.below row hrow hboard hpassed with hzero | ⟨top, htop, hle⟩
  · rw [hzero]
    exact h.nonneg best hbest
  · obtain ⟨only, honly⟩ := List.length_eq_one_iff.mp
      (Nat.le_antisymm h.unique (List.length_pos_of_mem hbest))
    rw [honly] at hbest htop
    rw [List.mem_singleton.mp hbest, ← List.mem_singleton.mp htop]
    exact hle

theorem inserted_board (hmode : score.mode = sub.score.mode) :
    (sub.inserted table score).board = sub.board := by
  rw [Submission.board, ← hmode]
  rfl

theorem fetchBest_persistRow_ne (hmode : score.mode = sub.score.mode) (hboard : board ≠ sub.board) :
    (sub.persistRow table score).fetchBest board = table.fetchBest board := by
  by_cases hbest : score.status = .BEST
  · have hnew : (sub.inserted table score).isBest board = false := by
      simp [ScoreRow.isBest, inserted_board hmode, hboard.symm]
    rw [Table.fetchBest, persistRow_best hbest, List.filter_append, filter_demote hboard]
    simp [hnew, Table.fetchBest]
  · exact fetchBest_persistRow_other hbest board

theorem mem_persistRow {row : ScoreRow} (h : row ∈ (sub.persistRow table score).rows) :
    row = sub.inserted table score ∨ ∃ old ∈ table.rows, row.board = old.board ∧
      row.pp = old.pp ∧ row.passed = old.passed := by
  by_cases hbest : score.status = .BEST
  · rw [persistRow_best hbest, List.mem_append, List.mem_singleton] at h
    refine h.symm.imp id fun hrow => ?_
    obtain ⟨old, hold, rfl⟩ := List.mem_map.mp hrow
    refine ⟨old, hold, ?_⟩
    unfold Table.demote
    split
    · rename_i hisBest
      have hstatus := (isBest_board hisBest).1
      exact ⟨rfl, rfl, by simp [ScoreRow.passed, hstatus]⟩
    · exact ⟨rfl, rfl, rfl⟩
  · rw [persistRow_other hbest, List.mem_append, List.mem_singleton] at h
    exact h.symm.imp id fun hrow => ⟨row, hrow, rfl, rfl, rfl⟩

-- A best row gives way to one that has as much pp.
theorem topped_persistRow (hmode : score.mode = sub.score.mode)
    (hheeds : (persist sub score).Heeds table) (h : table.Topped board pp) :
    (sub.persistRow table score).Topped board pp := by
  obtain ⟨best, hmem, hle⟩ := h
  by_cases hboard : board = sub.board
  · subst hboard
    by_cases hbest : score.status = .BEST
    · refine ⟨sub.inserted table score, ?_, hle.trans (hheeds hbest best hmem)⟩
      rw [fetchBest_persistRow hmode hbest]
      exact List.mem_singleton_self _
    · exact ⟨best, (fetchBest_persistRow_other hbest sub.board).symm ▸ hmem, hle⟩
  · exact ⟨best, (fetchBest_persistRow_ne hmode hboard).symm ▸ hmem, hle⟩

theorem Sound.persist (h : ∀ board, Sound table board) (hscore : Compared table sub score)
    (hheeds : (persist sub score).Heeds table) (board : Board) :
    Sound (sub.persistRow table score) board := by
  have hbests : (score.status = .BEST ∧ board = sub.board ∧
      (sub.persistRow table score).fetchBest board = [sub.inserted table score]) ∨
      (sub.persistRow table score).fetchBest board = table.fetchBest board := by
    by_cases hboard : board = sub.board
    · by_cases hbest : score.status = .BEST
      · exact Or.inl ⟨hbest, hboard, hboard ▸ fetchBest_persistRow hscore.mode hbest⟩
      · exact Or.inr (fetchBest_persistRow_other hbest board)
    · exact Or.inr (fetchBest_persistRow_ne hscore.mode hboard)
  refine ⟨?_, fun row hrow hboard hpassed => ?_, fun best hbest => ?_⟩
  · rcases hbests with ⟨-, -, hnew⟩ | hsame
    · rw [hnew]
      exact Nat.le_refl 1
    · rw [hsame]
      exact (h board).unique
  · rcases mem_persistRow hrow with rfl | ⟨old, hold, hsame, hpp, hstatus⟩
    · rw [inserted_board hscore.mode] at hboard
      subst hboard
      cases hscored : score.status with
      | FAILED => simp [ScoreRow.passed, Submission.inserted, Submission.row, hscored] at hpassed
      | SUBMITTED =>
        exact (hscore.below hscored).imp id fun htopped =>
          topped_persistRow hscore.mode hheeds htopped
      | BEST =>
        refine Or.inr ⟨sub.inserted table score, ?_, le_refl _⟩
        rw [fetchBest_persistRow hscore.mode hscored]
        exact List.mem_singleton_self _
    · rw [hpp]
      exact ((h board).below old hold (hsame ▸ hboard) (hstatus ▸ hpassed)).imp id fun htopped =>
        topped_persistRow hscore.mode hheeds htopped
  · rcases hbests with ⟨-, -, hnew⟩ | hsame
    · rw [hnew] at hbest
      rw [List.mem_singleton.mp hbest]
      exact hscore.nonneg
    · rw [hsame] at hbest
      exact (h board).nonneg best hbest

-- A row that takes the place of a better one is below the row that it has demoted.
theorem heeds_of_crowned (hmode : score.mode = sub.score.mode)
    (h : (sub.persistRow table score).Crowned sub.board) : (persist sub score).Heeds table := by
  intro hbest best hmem
  obtain ⟨hrow, hisBest⟩ := List.mem_filter.mp hmem
  have hdemoted : Table.demote sub.board best ∈ (sub.persistRow table score).rows := by
    rw [persistRow_best hbest]
    exact List.mem_append_left _ (List.mem_map_of_mem hrow)
  have hnew : sub.inserted table score ∈ (sub.persistRow table score).fetchBest sub.board := by
    rw [fetchBest_persistRow hmode hbest]
    exact List.mem_singleton_self _
  have hshape : Table.demote sub.board best = { best with status := .SUBMITTED } := if_pos hisBest
  have hle := h.maximal _ hnew _ hdemoted (by rw [hshape]; exact (isBest_board hisBest).2)
    (by rw [hshape]; rfl)
  rw [hshape] at hle
  exact hle

end Rows

section Lines

variable {sub : Submission} {table : Table} {score : Score} {line : Line} {users : Users}

theorem Compared.of_eq {other : Score} (h : Compared table sub score)
    (hmode : other.mode = score.mode) (hpp : other.pp = score.pp)
    (hstatus : other.status = score.status) : Compared table sub other :=
  ⟨⟨hmode.trans h.mode, hpp ▸ h.nonneg⟩, by rw [hstatus, hpp]; exact h.below⟩

theorem Compared.timed (h : Compared table sub score) : Compared table sub (sub.timed score) :=
  h.of_eq rfl rfl rfl

theorem Compared.placed (h : Compared table sub score) :
    Compared table sub (sub.placed table users score) := by
  unfold Submission.placed
  split
  · exact h.of_eq rfl rfl rfl
  · exact h

theorem Line.Sound.persist (hmode : score.mode = sub.score.mode)
    (hheeds : (persist sub score).Heeds table) (h : line.Sound table) :
    line.Sound (sub.persistRow table score) := by
  cases line with
  | fetchDuplicate _ | ensureOsuFile _ => trivial
  | fetchBest _ _ => exact h
  | fromSql _ _ _ => exact ⟨h.1, topped_persistRow hmode hheeds h.2⟩
  | calculatePlacement _ _ | persist _ _ =>
    exact ⟨h.toSent, fun hstatus => (h.below hstatus).imp id fun htopped =>
      topped_persistRow hmode hheeds htopped⟩

-- What a line does to the table, and the lines that it turns into.
theorem perform_sound (h : ∀ board, Sound table board) (hline : line.Sound table)
    (hheeds : line.Heeds table) :
    (∀ board, Sound (line.perform users table).1 board) ∧
      (∀ next ∈ (line.perform users table).2, next.Sound (line.perform users table).1) ∧
      ∀ other : Line, other.Sound table → other.Sound (line.perform users table).1 := by
  have hread (lines : List Line) (hlines : ∀ next ∈ lines, next.Sound table) :
      (∀ board, Sound (table, lines).1 board) ∧ (∀ next ∈ (table, lines).2, next.Sound table) ∧
        ∀ other : Line, other.Sound table → other.Sound table :=
    ⟨h, hlines, fun _ hother => hother⟩
  cases line with
  | fetchDuplicate sub =>
    rw [Line.perform]
    split
    · exact hread [] (by simp)
    · exact hread [ensureOsuFile sub] (by simp [Line.Sound])
  | ensureOsuFile sub =>
    rw [Line.perform]
    cases hperformance : sub.performance with
    | none =>
      have hunrated : Compared table sub sub.unrated := ⟨⟨rfl, le_refl 0⟩, fun _ => Or.inl rfl⟩
      exact hread _ (List.forall_mem_singleton.mpr hunrated.timed)
    | some pp =>
      have hnonneg := sub.performance_nonneg pp hperformance
      dsimp only
      split
      · exact hread _ (List.forall_mem_singleton.mpr ⟨rfl, hnonneg⟩)
      · have hfailed : Compared table sub { sub.unrated with pp := pp, status := .FAILED } :=
          ⟨⟨rfl, hnonneg⟩, fun hstatus => by cases hstatus⟩
        exact hread _ (List.forall_mem_singleton.mpr hfailed.timed)
  | fetchBest sub score =>
    rw [Line.perform]
    cases hbests : table.fetchBest sub.board with
    | nil => exact hread _ (List.forall_mem_singleton.mpr
        ⟨⟨hline.mode, hline.nonneg⟩, fun hstatus => by cases hstatus⟩)
    | cons rec rest =>
      have hmem : rec ∈ table.fetchBest sub.board := hbests ▸ List.mem_cons_self
      exact hread _ (List.forall_mem_singleton.mpr ⟨hline, rec, hmem, le_refl _⟩)
  | fromSql sub rec score =>
    rw [Line.perform]
    cases table.fetchOne rec.id with
    | none => exact hread [] (by simp)
    | some row =>
      obtain ⟨hsent, best, hbest, hle⟩ := hline
      refine hread _ (List.forall_mem_singleton.mpr ⟨⟨hsent.mode, hsent.nonneg⟩, fun hstatus => ?_⟩)
      by_cases hlt : rec.pp < score.pp
      · simp [Submission.compared, hlt] at hstatus
      · exact Or.inr ⟨best, hbest, (not_lt.mp hlt).trans hle⟩
  | calculatePlacement sub score =>
    exact hread _ (List.forall_mem_singleton.mpr (Compared.placed hline).timed)
  | persist sub score =>
    exact ⟨Sound.persist h hline hheeds, by simp [Line.perform],
      fun other hother => Line.Sound.persist hline.mode hheeds hother⟩

end Lines

section Runs

variable {users : Users} {t : Traffic}

structure Traffic.Sound (t : Traffic) : Prop where
  table : ∀ board, Race.Sound t.world board
  lines : ∀ task ∈ t.running, ∀ line ∈ task, line.Sound t.world

theorem Traffic.Sound.move (h : t.Sound) {m : Move} (hheeds : Heeds t m) :
    (t.move users m).Sound := by
  cases m with
  | begin sub =>
    refine ⟨h.table, fun task htask => ?_⟩
    rcases List.mem_append.mp htask with hold | hnew
    · exact h.lines task hold
    · rw [List.mem_singleton.mp hnew]
      exact List.forall_mem_singleton.mpr trivial
  | resume i =>
    change Traffic.Sound (Tasks.resume (Line.perform users) t i)
    refine Tasks.resume_keeps h i fun line rest hnext => ?_
    have hline := h.lines _ (Tasks.mem_of_next hnext) line List.mem_cons_self
    obtain ⟨htable, hlines, hothers⟩ :=
      @perform_sound _ line users h.table hline (hheeds (line, rest) hnext)
    refine ⟨htable, fun task htask other hother => ?_⟩
    rcases Tasks.mem_lines_set hnext htask hother with hnew | ⟨task, htask, hother⟩
    · exact hlines other hnew
    · obtain ⟨task, htask, hother⟩ := Tasks.mem_lines_of_rest hnext htask hother
      exact hothers other (h.lines task htask other hother)
  | fail i =>
    change Traffic.Sound (Tasks.fail (fun _ table => table) t i)
    refine Tasks.fail_keeps h i fun line rest hnext => ⟨h.table, fun task htask => ?_⟩
    rcases Tasks.mem_set_cases htask with rfl | ⟨hmem, -⟩
    · exact fun other hother => absurd hother List.not_mem_nil
    · exact h.lines task hmem

theorem heeds_of_move (h : t.Sound) {m : Move}
    (hcrowned : ∀ board, (t.move users m).world.Crowned board) : Heeds t m := by
  cases m with
  | begin _ | fail _ => trivial
  | resume i =>
    intro ⟨line, rest⟩ hnext
    have hline := h.lines _ (Tasks.mem_of_next hnext) line List.mem_cons_self
    cases line with
    | persist sub score =>
      have hmove : (t.move users (.resume i)).world = sub.persistRow t.world score := by
        change (t.resume (Line.perform users) i).world = _
        rw [Tasks.resume_of_next hnext]
        rfl
      exact heeds_of_crowned hline.mode (hmove ▸ hcrowned sub.board)
    | _ => trivial

-- In every state of a run each board has one best row at most, which no passed row is above,
-- exactly if no score takes the place of a better one.
theorem crowned_iff {table : Table} (h : ∀ board, Sound table board) (run : List Move) :
    (∀ n board, (runFrom (Traffic.move users) ⟨table, []⟩ (run.take n)).world.Crowned board) ↔
      Guarded (Traffic.move users) Heeds ⟨table, []⟩ run := by
  have hstart : Traffic.Sound ⟨table, []⟩ := ⟨h, fun task htask => absurd htask List.not_mem_nil⟩
  exact Guarded.iff_take (fun t : Traffic => t.Sound)
    (fun t hsound board => (hsound.table board).crowned)
    (fun t m hsound hheeds => hsound.move hheeds)
    (fun t m hsound hcrowned => heeds_of_move hsound hcrowned) hstart

theorem sound_empty (board : Board) : Sound .empty board :=
  ⟨Nat.zero_le 1, fun _ h => absurd h List.not_mem_nil, fun _ h => absurd h List.not_mem_nil⟩

-- The same player again, with 40 pp.
def weakerPlay : Submission :=
  { strongerPlay with
    performance := some 40
    performance_nonneg := by intro pp h; cases h; decide
    score := { strongerPlay.score with clientChecksum := "w" } }

-- One after the other.
def inTurn : List Move :=
  List.flatten [[.begin strongerPlay, .begin weakerPlay], List.replicate 5 (.resume 0),
    List.replicate 6 (.resume 1)]

theorem crowned_iff_inTurn :
    Guarded (Traffic.move onlyUser) Heeds ⟨.empty, []⟩ inTurn ∧ ∀ n board,
      (runFrom (Traffic.move onlyUser) ⟨.empty, []⟩ (inTurn.take n)).world.Crowned board := by
  have hheeds : Guarded (Traffic.move onlyUser) Heeds ⟨.empty, []⟩ inTurn := by decide
  exact ⟨hheeds, (crowned_iff sound_empty inTurn).mpr hheeds⟩

-- Both look for a best row before there is one.
def together : List Move :=
  List.flatten [[.begin strongerPlay, .begin weakerPlay], List.replicate 4 (.resume 0),
    List.replicate 4 (.resume 1), [.resume 0, .resume 1]]

-- The later one is the best row, with less pp.
theorem not_crowned_together :
    let table := (runFrom (Traffic.move onlyUser) ⟨.empty, []⟩ together).world
    table.rows.map (fun row => (row.pp, row.status)) = [(60, .SUBMITTED), (40, .BEST)] ∧
      ¬ table.Crowned strongerPlay.board := by
  decide

end Runs

end Race

end BanchoPrism.Scores
