import BanchoPrism.Leaderboards.Staging

namespace BanchoPrism.Leaderboards

open Library

section Pages

variable {mode batchSize : Nat} {s : Stores}

-- The rows that the loop has not read yet.
def rest (accounts : Accounts) (mode after : Nat) : List RankedPlayerPP :=
  (accounts.ranked mode).filter fun row => after < row.playerId

theorem fetch_run (mode batchSize after : Nat) (s : Stores) :
    (fetchRankedPpForMode mode batchSize after).run s =
      (.ok ((rest s.accounts mode after).take batchSize), s) := by
  rw [fetchRankedPpForMode, Coro.run_query, page_eq]
  rfl

theorem rest_ordered (accounts : Accounts) (mode after : Nat) :
    Ordered (rest accounts mode after) :=
  (ranked_ordered accounts mode).sublist List.filter_sublist

theorem lastId_eq {batch : List RankedPlayerPP} (h : batch ≠ []) :
    ∃ row, batch.getLast? = some row ∧ lastId batch = row.playerId := by
  refine ⟨batch.getLast h, List.getLast?_eq_some_getLast h, ?_⟩
  rw [lastId, List.getLast?_eq_some_getLast h]
  rfl

-- The next page starts where this one ends.
theorem rest_next {accounts : Accounts} {after : Nat}
    (h : (rest accounts mode after).take batchSize ≠ []) :
    rest accounts mode (lastId ((rest accounts mode after).take batchSize)) =
      (rest accounts mode after).drop batchSize := by
  obtain ⟨row, hrow, hlast⟩ := lastId_eq h
  have hmem : row ∈ rest accounts mode after :=
    List.mem_of_mem_take (List.mem_of_getLast? hrow)
  have hafter : after < row.playerId := by
    have hfilter := (List.mem_filter.mp hmem).2
    simpa using hfilter
  rw [← filter_after_page (rest_ordered accounts mode after) batchSize hrow, hlast]
  unfold rest
  rw [List.filter_filter]
  refine List.filter_congr fun other _ => ?_
  by_cases hother : row.playerId < other.playerId
  · have hbehind : after < other.playerId := Nat.lt_trans hafter hother
    simp [hother, hbehind]
  · simp [hother]

-- What the loop reads: nothing, when a page has no room for a row.
def readRows (batchSize : Nat) (rows : List RankedPlayerPP) : List RankedPlayerPP :=
  if batchSize = 0 then [] else rows

theorem readPages_run (hsize : 0 < batchSize) (pages : Nat) (touched : List Board)
    (ranked after : Nat) (s : Stores) (hpages : (rest s.accounts mode after).length < pages) :
    ∃ touched' t, (readPages mode batchSize pages touched ranked after).run s =
        (.ok (some (touched', ranked + (rest s.accounts mode after).length)), t) ∧
      Staged mode (rest s.accounts mode after) s t ∧
      Touched (Brings mode (rest s.accounts mode after)) touched touched' := by
  induction pages generalizing touched ranked after s with
  | zero => exact absurd hpages (Nat.not_lt_zero _)
  | succ pages ih =>
    unfold readPages
    rw [Coro.run_bind_ok (fetch_run mode batchSize after s)]
    by_cases hempty : ((rest s.accounts mode after).take batchSize).isEmpty
    · have hnil : rest s.accounts mode after = [] := by
        have htake := List.isEmpty_iff.mp hempty
        exact (List.take_eq_nil_iff.mp htake).resolve_left (by omega)
      rw [if_pos hempty, hnil]
      refine ⟨touched, s, rfl, Staged.refl mode s, Touched.refl ?_ touched⟩
      rintro board ⟨row, hrow, -⟩
      exact List.not_mem_nil hrow
    · have hne : (rest s.accounts mode after).take batchSize ≠ [] := by
        rwa [List.isEmpty_iff] at hempty
      have hbatch : Ordered ((rest s.accounts mode after).take batchSize) :=
        (rest_ordered s.accounts mode after).sublist (List.take_sublist _ _)
      obtain ⟨touched₁, t, hrun, hstaged, htouched⟩ := @stageBatch_run mode _ hbatch touched s
      rw [if_neg hempty, Coro.run_bind_ok hrun]
      by_cases hshort : ((rest s.accounts mode after).take batchSize).length < batchSize
      · have hall : (rest s.accounts mode after).take batchSize = rest s.accounts mode after := by
          rw [List.length_take] at hshort
          exact List.take_of_length_le (by omega)
        rw [if_pos hshort, hall]
        rw [hall] at hstaged htouched
        exact ⟨touched₁, t, rfl, hstaged, htouched⟩
      · have hnext := rest_next hne
        rw [← hstaged.accounts] at hnext
        have hfewer : (rest t.accounts mode
            (lastId ((rest s.accounts mode after).take batchSize))).length < pages := by
          rw [hstaged.accounts] at hnext ⊢
          rw [hnext, List.length_drop]
          rw [List.length_take] at hshort
          omega
        obtain ⟨touched₂, u, hrun', hstaged', htouched'⟩ := ih touched₁
          (ranked + ((rest s.accounts mode after).take batchSize).length)
          (lastId ((rest s.accounts mode after).take batchSize)) t hfewer
        rw [hstaged.accounts] at hnext hrun' hstaged' htouched'
        rw [hnext] at hrun' hstaged' htouched'
        have hsplit := List.take_append_drop batchSize (rest s.accounts mode after)
        have hordered : Ordered ((rest s.accounts mode after).take batchSize ++
            (rest s.accounts mode after).drop batchSize) := by
          rw [hsplit]
          exact rest_ordered s.accounts mode after
        refine ⟨touched₂, u, ?_, ?_, ?_⟩
        · have hcount : ranked + ((rest s.accounts mode after).take batchSize).length +
              ((rest s.accounts mode after).drop batchSize).length =
              ranked + (rest s.accounts mode after).length := by
            rw [Nat.add_assoc, ← List.length_append, hsplit]
          rw [if_neg hshort, hrun', hcount]
        · have hboth := hstaged.append hstaged' hordered
          rwa [hsplit] at hboth
        · have hboth := htouched.append htouched'
          rwa [← brings_append, hsplit] at hboth

end Pages

section Commit

variable {redis : Redis} {staged : Board → Bool} {boards : List Board}

-- The command that the check of a board's staging set puts into the pipeline.
def buffered (staged : Board → Bool) (board : Board) : Buffered :=
  if staged board then .rename board else .delete board

theorem execute_other {board other : Board} (h : other ≠ board) :
    ((buffered staged board).execute redis).2 (.live other) = redis (.live other) ∧
      ((buffered staged board).execute redis).2 (.staging other) = redis (.staging other) := by
  unfold buffered
  split
  · simp only [Buffered.execute]
    split
    · simp [SortedSets.rename, h]
    · exact ⟨rfl, rfl⟩
  · simp [Buffered.execute, SortedSets.delete, h]

-- The set of a board that is not staged is deleted: it is what was staged, nothing.
theorem execute_self (board : Board)
    (h : staged board = false → redis (.staging board) = ∅) :
    ((buffered staged board).execute redis).2 (.staging board) = ∅ ∧
      ((buffered staged board).execute redis).2 (.live board) =
        (if redis.keyExists (.staging board) ∨ staged board = false then redis (.staging board)
          else redis (.live board)) ∧
      ((buffered staged board).execute redis).1 =
        (!staged board || redis.keyExists (.staging board)) := by
  unfold buffered
  cases hstaged : staged board with
  | true =>
    cases hexists : redis.keyExists (.staging board) with
    | true => simp [Buffered.execute, hexists, SortedSets.rename]
    | false =>
      have hempty : redis (.staging board) = ∅ := SortedSets.eq_empty hexists
      simp [Buffered.execute, hexists, hempty]
  | false =>
    have hempty := h hstaged
    simp [Buffered.execute, SortedSets.delete, hempty]

-- After EXEC nothing is staged for a board of the pipeline, and the board is what was
-- staged for it. By induction on the pipeline: where a board comes again its staging
-- set is gone, so a second RENAME fails and changes nothing.
theorem executeAll_boards (hstaged : ∀ board ∈ boards, staged board = false →
      redis (.staging board) = ∅) (board : Board) :
    (executeAll redis (boards.map (buffered staged))).2 (.staging board) =
        (if board ∈ boards then ∅ else redis (.staging board)) ∧
      (executeAll redis (boards.map (buffered staged))).2 (.live board) =
        (if board ∈ boards ∧ (redis.keyExists (.staging board) ∨ staged board = false)
          then redis (.staging board) else redis (.live board)) := by
  induction boards generalizing redis with
  | nil => simp [executeAll]
  | cons first rest ih =>
    obtain ⟨hgone, hlive, -⟩ := execute_self first (hstaged first List.mem_cons_self)
    have hrest : ∀ other ∈ rest, staged other = false →
        ((buffered staged first).execute redis).2 (.staging other) = ∅ := by
      intro other hother hnot
      by_cases hf : other = first
      · rw [hf, hgone]
      · rw [(execute_other hf).2]
        exact hstaged other (List.mem_cons_of_mem first hother) hnot
    obtain ⟨ihgone, ihlive⟩ := ih hrest
    have hlast : (executeAll redis ((first :: rest).map (buffered staged))).2 =
        (executeAll ((buffered staged first).execute redis).2 (rest.map (buffered staged))).2 := rfl
    rw [hlast, ihgone, ihlive]
    by_cases hf : board = first
    · subst hf
      have hnone : SortedSets.keyExists ((buffered staged board).execute redis).2 (.staging board) =
          false := by
        simp [SortedSets.keyExists, hgone]
      have hempty := hstaged board List.mem_cons_self
      rw [hgone, hnone, hlive]
      refine ⟨by simp, ?_⟩
      cases hs : staged board with
      | true => simp
      | false => simp [hempty hs]
    · obtain ⟨hl, hst⟩ := @execute_other redis staged first board hf
      have hkey : SortedSets.keyExists ((buffered staged first).execute redis).2 (.staging board) =
          redis.keyExists (.staging board) := by
        simp [SortedSets.keyExists, hst]
      rw [hl, hst, hkey]
      simp [hf]

-- It goes well unless a staged board comes twice.
theorem executeAll_ok (hstaged : ∀ board ∈ boards, staged board = false →
      redis (.staging board) = ∅) :
    (executeAll redis (boards.map (buffered staged))).1 = true ↔
      ∀ board ∈ boards, staged board →
        redis.keyExists (.staging board) ∧ boards.count board = 1 := by
  induction boards generalizing redis with
  | nil => simp [executeAll]
  | cons first rest ih =>
    obtain ⟨hgone, -, hok⟩ := execute_self first (hstaged first List.mem_cons_self)
    have hrest : ∀ other ∈ rest, staged other = false →
        ((buffered staged first).execute redis).2 (.staging other) = ∅ := by
      intro other hother hnot
      by_cases hf : other = first
      · rw [hf, hgone]
      · rw [(execute_other hf).2]
        exact hstaged other (List.mem_cons_of_mem first hother) hnot
    have hlast : (executeAll redis ((first :: rest).map (buffered staged))).1 =
        (((buffered staged first).execute redis).1 &&
          (executeAll ((buffered staged first).execute redis).2 (rest.map (buffered staged))).1) := rfl
    have hnone : SortedSets.keyExists ((buffered staged first).execute redis).2 (.staging first) =
        false := by
      simp [SortedSets.keyExists, hgone]
    have hkey : ∀ other, other ≠ first →
        SortedSets.keyExists ((buffered staged first).execute redis).2 (.staging other) =
          redis.keyExists (.staging other) := by
      intro other hf
      simp [SortedSets.keyExists, (@execute_other redis staged first other hf).2]
    rw [hlast, Bool.and_eq_true, ih hrest, hok]
    constructor
    · rintro ⟨hfirst, hothers⟩ board hboard hs
      by_cases hf : board = first
      · subst hf
        have hfresh : board ∉ rest := by
          intro hmem
          have hagain := (hothers board hmem hs).1
          rw [hnone] at hagain
          cases hagain
        refine ⟨by simpa [hs] using hfirst, ?_⟩
        rw [List.count_cons_self, List.count_eq_zero.mpr hfresh]
      · obtain ⟨hexists, hcount⟩ := hothers board ((List.mem_cons.mp hboard).resolve_left hf) hs
        rw [hkey board hf] at hexists
        exact ⟨hexists, by rw [List.count_cons_of_ne (Ne.symm hf), hcount]⟩
    · intro hall
      refine ⟨?_, fun board hboard hs => ?_⟩
      · cases hs : staged first with
        | false => rfl
        | true => simp [(hall first List.mem_cons_self hs).1]
      · obtain ⟨hexists, hcount⟩ := hall board (List.mem_cons_of_mem first hboard) hs
        have hf : board ≠ first := by
          rintro rfl
          have hpos := List.count_pos_iff.mpr hboard
          rw [List.count_cons_self] at hcount
          omega
        rw [hkey board hf]
        rw [List.count_cons_of_ne (Ne.symm hf)] at hcount
        exact ⟨hexists, hcount⟩

end Commit

end BanchoPrism.Leaderboards
