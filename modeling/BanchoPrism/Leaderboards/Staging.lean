import BanchoPrism.Leaderboards.Ranks
import BanchoPrism.Library.Paging

namespace BanchoPrism.Leaderboards

open Library

-- The scores of a batch for the global board, and for the board of a country.
def globalScores (batch : List RankedPlayerPP) : List (Nat × Nat) :=
  batch.map fun row => (row.playerId, row.pp)

def countryScores (batch : List RankedPlayerPP) (country : String) : List (Nat × Nat) :=
  globalScores (batch.filter fun row => row.country = country)

-- The countries of a batch, in the order of their first rows.
def countries (batch : List RankedPlayerPP) : List String :=
  (batch.map fun row => row.country).eraseDups

def touch (touchedKeys : List Board) (board : Board) : List Board :=
  if board ∈ touchedKeys then touchedKeys else touchedKeys ++ [board]

def stageCountries (mode : Nat) (batch : List RankedPlayerPP) (touchedKeys : List Board) :
    List String → Task (List Board)
  | [] => pure touchedKeys
  | country :: rest => do
      stageScores (countryBoard mode country) (countryScores batch country)
      stageCountries mode batch (touch touchedKeys (countryBoard mode country)) rest

def stageBatch (mode : Nat) (batch : List RankedPlayerPP) (touchedKeys : List Board) :
    Task (List Board) := do
  stageScores (globalBoard mode) (globalScores batch)
  stageCountries mode batch touchedKeys (countries batch)

def lastId (batch : List RankedPlayerPP) : Nat := (batch.getLast?.map (·.playerId)).getD 0

-- The loop over the pages, for as many as there are at most.
def readPages (mode batchSize : Nat) :
    Nat → List Board → Nat → Nat → Task (Option (List Board × Nat))
  | 0, _, _, _ => pure none
  | pages + 1, touchedKeys, playersRanked, afterPlayerId => do
      let batch ← fetchRankedPpForMode mode batchSize afterPlayerId
      if batch.isEmpty then pure (some (touchedKeys, playersRanked))
      else do
        let touchedKeys ← stageBatch mode batch touchedKeys
        if batch.length < batchSize then
          pure (some (touchedKeys, playersRanked + batch.length))
        else readPages mode batchSize pages touchedKeys (playersRanked + batch.length) (lastId batch)

-- rebuild_mode. Of the commands in its try only EXEC can fail by itself. The result is
-- none when there were more pages than the loop was given.
def rebuildMode (scan : Scan) (pages batchSize mode : Nat) : Task (Option (Nat × Nat)) := do
  let existing ← fetchExistingKeys scan mode
  let read ← readPages mode batchSize pages existing 0 0
  match read with
  | none => pure none
  | some (touchedKeys, playersRanked) =>
      Coro.attempt
        (do
          commitStaged touchedKeys
          pure (some (playersRanked, touchedKeys.length)))
        fun e => do
          discardStaging touchedKeys
          Coro.raise e

section Rows

-- What the pages go through, one after the other.
def Accounts.ranked (accounts : Accounts) (mode : Nat) : List RankedPlayerPP :=
  (accounts.rows.filter fun a => a.isRanked mode).map (Account.toRanked mode)

def isOn (board : Board) (row : RankedPlayerPP) : Bool :=
  board.country.all fun country => row.country = country

-- The entries that rows bring to a board.
def onBoard (rows : List RankedPlayerPP) (board : Board) : List (Nat × Nat) :=
  globalScores (rows.filter (isOn board))

variable {accounts : Accounts} {mode : Nat} {rows first second : List RankedPlayerPP} {board : Board}

def Ordered (rows : List RankedPlayerPP) : Prop :=
  rows.Pairwise fun a b => a.playerId < b.playerId

theorem ranked_ordered (accounts : Accounts) (mode : Nat) : Ordered (accounts.ranked mode) := by
  have hrows := accounts.sorted.filter fun a => a.isRanked mode
  exact List.Pairwise.map _ (fun _ _ h => h) hrows

theorem page_eq (accounts : Accounts) (mode batchSize after : Nat) :
    ((accounts.rows.filter fun a => a.isRanked mode && after < a.id).take batchSize).map
        (Account.toRanked mode) =
      ((accounts.ranked mode).filter fun row => after < row.playerId).take batchSize := by
  rw [List.map_take, Accounts.ranked, List.filter_map, List.filter_filter]
  congr 3
  funext a
  exact Bool.and_comm _ _

theorem Ordered.sublist (h : Ordered second) (hsub : first.Sublist second) : Ordered first :=
  List.Pairwise.sublist hsub h

theorem Ordered.onBoard_nodup (h : Ordered rows) (board : Board) :
    ((onBoard rows board).map Prod.fst).Nodup := by
  have hfiltered := h.sublist (List.filter_sublist (p := isOn board))
  unfold onBoard globalScores
  rw [List.map_map]
  exact List.Pairwise.map _ (fun _ _ hlt => Nat.ne_of_lt hlt) hfiltered

theorem onBoard_append (first second : List RankedPlayerPP) (board : Board) :
    onBoard (first ++ second) board = onBoard first board ++ onBoard second board := by
  simp [onBoard, globalScores]

theorem mem_onBoard {p v : Nat} :
    (p, v) ∈ onBoard rows board ↔ ∃ row ∈ rows, isOn board row ∧ row.playerId = p ∧ row.pp = v := by
  simp [onBoard, globalScores, and_assoc]

-- No player is on two pages.
theorem lookup_onBoard_append (h : Ordered (first ++ second)) (board : Board) (p : Nat)
    (old : Option Nat) :
    ((onBoard second board).lookup p).or (((onBoard first board).lookup p).or old) =
      ((onBoard (first ++ second) board).lookup p).or old := by
  have hdistinct := h.onBoard_nodup board
  rw [onBoard_append, List.map_append, List.nodup_append] at hdistinct
  rw [onBoard_append, List.lookup_append]
  rcases hfirst : (onBoard first board).lookup p with _ | v
  · simp
  · have hnone : (onBoard second board).lookup p = none := by
      rw [lookup_eq_none_iff]
      intro w hw
      have hv := (lookup_eq_some_iff hdistinct.1).mp hfirst
      exact hdistinct.2.2 p (List.mem_map.mpr ⟨_, hv, rfl⟩) p (List.mem_map.mpr ⟨_, hw, rfl⟩) rfl
    rw [hnone]
    rfl

end Rows

section Staging

-- The rows have been staged between s and t, and nothing else has happened.
structure Staged (mode : Nat) (rows : List RankedPlayerPP) (s t : Stores) : Prop where
  accounts : t.accounts = s.accounts
  live : ∀ board, t.redis (.live board) = s.redis (.live board)
  staging : ∀ board p, board.mode = mode → t.redis.scores (.staging board) p =
    ((onBoard rows board).lookup p).or (s.redis.scores (.staging board) p)

-- A row brings its country's board.
def Brings (mode : Nat) (rows : List RankedPlayerPP) (board : Board) : Prop :=
  ∃ row ∈ rows, countryBoard mode row.country = board

-- A board that is brought and that was not touched before is touched once.
structure Touched (brought : Board → Prop) (before after : List Board) : Prop where
  kept : ∀ board, board ∈ before ∨ ¬brought board → after.count board = before.count board
  new : ∀ board, board ∉ before → brought board → after.count board = 1

variable {mode : Nat} {first second : List RankedPlayerPP} {s t u : Stores}

theorem Staged.refl (mode : Nat) (s : Stores) : Staged mode [] s s :=
  ⟨rfl, fun _ => rfl, fun _ _ _ => rfl⟩

theorem Staged.append (h : Staged mode first s t) (h' : Staged mode second t u)
    (hrows : Ordered (first ++ second)) : Staged mode (first ++ second) s u where
  accounts := h'.accounts.trans h.accounts
  live board := (h'.live board).trans (h.live board)
  staging board p hmode := by
    rw [h'.staging board p hmode, h.staging board p hmode, lookup_onBoard_append hrows]

theorem brings_append : Brings mode (first ++ second) =
    fun board => Brings mode first board ∨ Brings mode second board := by
  funext board
  simp only [Brings, List.mem_append, or_and_right, exists_or]

variable {p q : Board → Prop} {before middle after : List Board}

theorem Touched.refl (hp : ∀ board, ¬p board) (touched : List Board) : Touched p touched touched :=
  ⟨fun _ _ => rfl, fun board _ h => absurd h (hp board)⟩

theorem Touched.mem_iff (h : Touched p before after) (board : Board) :
    board ∈ after ↔ board ∈ before ∨ p board := by
  rw [← List.count_pos_iff]
  by_cases hb : board ∈ before
  · rw [h.kept board (.inl hb), List.count_pos_iff]
    simp [hb]
  by_cases hp : p board
  · rw [h.new board hb hp]
    simp [hp]
  · rw [h.kept board (.inr hp), List.count_pos_iff]
    simp [hp]

theorem Touched.append (h : Touched p before middle) (h' : Touched q middle after) :
    Touched (fun board => p board ∨ q board) before after where
  kept board hkept := by
    rw [not_or] at hkept
    rw [← h.kept board (hkept.imp_right And.left)]
    exact h'.kept board (hkept.imp (fun hb => (h.mem_iff board).mpr (.inl hb)) And.right)
  new board hb hnew := by
    by_cases hp : p board
    · rw [h'.kept board (.inl ((h.mem_iff board).mpr (.inr hp)))]
      exact h.new board hb hp
    · refine h'.new board ?_ (hnew.resolve_left hp)
      rw [h.mem_iff board]
      exact not_or.mpr ⟨hb, hp⟩

theorem touch_touched (board : Board) (touched : List Board) :
    Touched (fun b => board = b) touched (touch touched board) := by
  unfold touch
  split
  · rename_i hmem
    refine ⟨fun _ _ => rfl, fun b hb hnew => ?_⟩
    exact absurd (hnew ▸ hmem) hb
  · rename_i hmem
    refine ⟨fun b hkept => ?_, fun b hb hnew => ?_⟩
    · have hne : board ≠ b := by
        rintro rfl
        exact hkept.elim hmem fun hno => hno rfl
      simp [List.count_append, hne]
    · subst hnew
      rw [List.count_append, List.count_eq_zero.mpr hb, List.count_singleton_self]

end Staging

section Pages

variable {mode : Nat} {s : Stores}

theorem stageScores_run (board : Board) (scores : List (Nat × Nat)) (s : Stores) :
    (stageScores board scores).run s =
      (.ok (), s.modifyRedis (SortedSets.zadd (.staging board) scores)) := by
  unfold stageScores
  split
  · rename_i h
    subst h
    have hsame : SortedSets.zadd (.staging board) [] s.redis = s.redis :=
      Function.update_eq_self _ _
    rw [Coro.run_pure, Stores.modifyRedis, hsame]
  · exact Coro.run_update _ s

-- Scores added to the staging sets of some boards, from s to t.
structure Added (scores : Board → List (Nat × Nat)) (s t : Stores) : Prop where
  accounts : t.accounts = s.accounts
  live : ∀ board, t.redis (.live board) = s.redis (.live board)
  staging : ∀ board, t.redis (.staging board) =
    SortedSets.addAll (s.redis (.staging board)) (scores board)

theorem added_zadd (board : Board) (scores : List (Nat × Nat)) (s : Stores) :
    Added (fun b => if b = board then scores else []) s
      (s.modifyRedis (SortedSets.zadd (.staging board) scores)) where
  accounts := rfl
  live b := by
    have hne : Key.live b ≠ Key.staging board := by simp
    exact SortedSets.zadd_other hne scores
  staging b := by
    by_cases hb : b = board
    · subst hb
      rw [if_pos rfl]
      exact Function.update_self _ _ _
    · rw [if_neg hb]
      exact Function.update_of_ne (fun h => hb (Key.staging.inj h)) _ _

theorem Added.trans {scores scores' : Board → List (Nat × Nat)} {s t u : Stores}
    (h : Added scores s t) (h' : Added scores' t u) :
    Added (fun b => scores b ++ scores' b) s u where
  accounts := h'.accounts.trans h.accounts
  live b := (h'.live b).trans (h.live b)
  staging b := by
    rw [h'.staging b, h.staging b]
    exact (List.foldl_append).symm

-- The scores of a batch for the boards of some countries.
def scoresIn (mode : Nat) (batch : List RankedPlayerPP) (names : List String) (board : Board) :
    List (Nat × Nat) :=
  if ∃ name ∈ names, countryBoard mode name = board then onBoard batch board else []

theorem countryScores_eq (mode : Nat) (batch : List RankedPlayerPP) (country : String) :
    countryScores batch country = onBoard batch (countryBoard mode country) := by
  unfold countryScores onBoard isOn countryBoard
  simp

theorem scoresIn_cons {batch : List RankedPlayerPP} {name : String} {rest : List String}
    (h : name ∉ rest) (board : Board) :
    (if board = countryBoard mode name then countryScores batch name else []) ++
      scoresIn mode batch rest board = scoresIn mode batch (name :: rest) board := by
  have hinj : ∀ other, countryBoard mode other = countryBoard mode name → other = name := by
    intro other heq
    simpa [countryBoard] using heq
  by_cases hb : board = countryBoard mode name
  · subst hb
    have hnone : ¬∃ other ∈ rest, countryBoard mode other = countryBoard mode name := by
      rintro ⟨other, hother, heq⟩
      exact h (hinj other heq ▸ hother)
    have hsome : ∃ other ∈ name :: rest, countryBoard mode other = countryBoard mode name :=
      ⟨name, List.mem_cons_self, rfl⟩
    rw [if_pos rfl, scoresIn, if_neg hnone, scoresIn, if_pos hsome, List.append_nil]
    exact countryScores_eq mode batch name
  · have hiff : (∃ other ∈ name :: rest, countryBoard mode other = board) ↔
        ∃ other ∈ rest, countryBoard mode other = board := by
      simp [List.mem_cons, eq_comm (b := board), hb]
    rw [if_neg hb, List.nil_append, scoresIn, scoresIn]
    simp only [hiff]

theorem stageCountries_run (batch : List RankedPlayerPP) {names : List String} (h : names.Nodup)
    (touched : List Board) (s : Stores) :
    ∃ touched' t, (stageCountries mode batch touched names).run s = (.ok touched', t) ∧
      Added (scoresIn mode batch names) s t ∧
      Touched (fun board => ∃ name ∈ names, countryBoard mode name = board) touched touched' := by
  induction names generalizing touched s with
  | nil =>
    refine ⟨touched, s, rfl, ⟨rfl, fun _ => rfl, fun board => ?_⟩, Touched.refl ?_ touched⟩
    · simp [scoresIn, SortedSets.addAll]
    · rintro board ⟨name, hname, -⟩
      exact List.not_mem_nil hname
  | cons name rest ih =>
    rw [List.nodup_cons] at h
    have hadd := added_zadd (countryBoard mode name) (countryScores batch name) s
    obtain ⟨touched', t, hrun, hadded, htouched⟩ := ih h.2
      (touch touched (countryBoard mode name)) _
    refine ⟨touched', t, ?_, ?_, ?_⟩
    · exact (Coro.run_bind_ok (stageScores_run _ _ s)).trans hrun
    · have hboth := hadd.trans hadded
      simpa only [scoresIn_cons h.1] using hboth
    · have hboth := (touch_touched (countryBoard mode name) touched).append htouched
      have hsame : (fun board => countryBoard mode name = board ∨
          ∃ other ∈ rest, countryBoard mode other = board) =
          fun board => ∃ other ∈ name :: rest, countryBoard mode other = board := by
        funext board
        simp
      rwa [hsame] at hboth

theorem mem_countries {batch : List RankedPlayerPP} {name : String} :
    name ∈ countries batch ↔ ∃ row ∈ batch, row.country = name := by
  simp [countries]

theorem brings_countries (mode : Nat) (batch : List RankedPlayerPP) :
    Brings mode batch = fun board => ∃ name ∈ countries batch, countryBoard mode name = board := by
  funext board
  refine propext ⟨?_, ?_⟩
  · rintro ⟨row, hrow, hboard⟩
    exact ⟨row.country, mem_countries.mpr ⟨row, hrow, rfl⟩, hboard⟩
  · rintro ⟨name, hname, hboard⟩
    obtain ⟨row, hrow, rfl⟩ := mem_countries.mp hname
    exact ⟨row, hrow, hboard⟩

-- The global scores and those of the countries are the scores of the boards.
theorem batchScores_eq (batch : List RankedPlayerPP) {board : Board} (h : board.mode = mode) :
    (if board = globalBoard mode then globalScores batch else []) ++
      scoresIn mode batch (countries batch) board = onBoard batch board := by
  obtain ⟨mode', country⟩ := board
  dsimp only at h
  subst h
  cases country with
  | none =>
    change (if globalBoard mode' = globalBoard mode' then globalScores batch else []) ++
      scoresIn mode' batch (countries batch) (globalBoard mode') = onBoard batch (globalBoard mode')
    have hnone : ¬∃ name ∈ countries batch, countryBoard mode' name = globalBoard mode' := by
      rintro ⟨name, -, hname⟩
      simp [countryBoard, globalBoard] at hname
    have hall : batch.filter (isOn (globalBoard mode')) = batch :=
      List.filter_eq_self.mpr fun _ _ => rfl
    rw [if_pos rfl, scoresIn, if_neg hnone, List.append_nil, onBoard, hall]
  | some country =>
    have hne : ({ mode := mode', country := some country } : Board) ≠ globalBoard mode' := by
      simp [globalBoard]
    rw [if_neg hne, List.nil_append, scoresIn]
    split
    · rfl
    · rename_i hnone
      have hempty : batch.filter (isOn { mode := mode', country := some country }) = [] := by
        rw [List.filter_eq_nil_iff]
        intro row hrow hon
        refine hnone ⟨country, mem_countries.mpr ⟨row, hrow, ?_⟩, rfl⟩
        simpa [isOn] using hon
      simp [onBoard, hempty, globalScores]

theorem stageBatch_run {batch : List RankedPlayerPP} (hbatch : Ordered batch)
    (touched : List Board) (s : Stores) :
    ∃ touched' t, (stageBatch mode batch touched).run s = (.ok touched', t) ∧
      Staged mode batch s t ∧ Touched (Brings mode batch) touched touched' := by
  have hadd := added_zadd (globalBoard mode) (globalScores batch) s
  have hnames : (countries batch).Nodup := nodup_eraseDups _
  obtain ⟨touched', t, hrun, hadded, htouched⟩ := @stageCountries_run mode batch _ hnames
    touched (s.modifyRedis (SortedSets.zadd (.staging (globalBoard mode)) (globalScores batch)))
  refine ⟨touched', t, ?_, ?_, ?_⟩
  · exact (Coro.run_bind_ok (stageScores_run _ _ s)).trans hrun
  · have hboth := hadd.trans hadded
    refine ⟨hboth.accounts, hboth.live, fun board p hmode => ?_⟩
    unfold SortedSets.scores
    rw [hboth.staging board, batchScores_eq batch hmode,
      SortedSets.lookup_addAll _ (hbatch.onBoard_nodup board)]
  · rwa [brings_countries]

end Pages

end BanchoPrism.Leaderboards
