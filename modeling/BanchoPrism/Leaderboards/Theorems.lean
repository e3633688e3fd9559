import BanchoPrism.Leaderboards.Rebuild

namespace BanchoPrism.Leaderboards

open Library

section Exactness

-- The entry that a board has to have for a player, by what is stored.
def Accounts.HasEntry (accounts : Accounts) (board : Board) (p v : Nat) : Prop :=
  ∃ a ∈ accounts.rows, a.id = p ∧ a.isRanked board.mode ∧ (∀ country ∈ board.country,
    a.country = country) ∧ a.pp board.mode = v

-- The boards of a mode hold the stored pp of the ranked players, and nothing is staged.
structure Exact (mode : Nat) (accounts : Accounts) (redis : Redis) : Prop where
  boards : ∀ board, board.mode = mode → ∀ p v,
    redis.scores (.live board) p = some v ↔ accounts.HasEntry board p v
  gone : ∀ board, board.mode = mode → (∀ p v, ¬accounts.HasEntry board p v) →
    redis.keyExists (.live board) = false
  staging : ∀ board, board.mode = mode → redis.keyExists (.staging board) = false

-- rebuild_mode returns, and the boards are right.
def Rebuilds (scan : Scan) (pages batchSize mode : Nat) (s : Stores) : Prop :=
  ∃ result t, (rebuildMode scan pages batchSize mode).run s = (.ok (some result), t) ∧
    Exact mode s.accounts t.redis

variable {scan : Scan} {pages batchSize mode : Nat} {s : Stores}

theorem mem_ranked {accounts : Accounts} {board : Board} (h : board.mode = mode) (p v : Nat) :
    (p, v) ∈ onBoard (accounts.ranked mode) board ↔ accounts.HasEntry board p v := by
  subst h
  rw [mem_onBoard]
  simp only [Accounts.ranked, List.mem_map, List.mem_filter]
  constructor
  · rintro ⟨row, ⟨a, ⟨ha, hranked⟩, rfl⟩, hon, rfl, rfl⟩
    refine ⟨a, ha, rfl, hranked, fun country hcountry => ?_, rfl⟩
    rw [Option.mem_def] at hcountry
    rw [isOn, hcountry, Option.all_some] at hon
    exact of_decide_eq_true hon
  · rintro ⟨a, ha, rfl, hranked, hcountry, rfl⟩
    refine ⟨_, ⟨a, ⟨ha, hranked⟩, rfl⟩, ?_, rfl, rfl⟩
    cases hc : board.country with
    | none => simp [isOn, hc]
    | some country =>
      have hsame := hcountry country hc
      simp [isOn, hc, hsame, Account.toRanked]

theorem rest_zero (accounts : Accounts) (mode : Nat) :
    rest accounts mode 0 = accounts.ranked mode := by
  refine List.filter_eq_self.mpr fun row hrow => ?_
  obtain ⟨a, ha, rfl⟩ := List.mem_map.mp hrow
  exact decide_eq_true (accounts.positive a (List.mem_filter.mp ha).1)

-- The rows that the rebuild stages.
def rowsRead (batchSize mode : Nat) (s : Stores) : List RankedPlayerPP :=
  readRows batchSize (s.accounts.ranked mode)

theorem readPages_all (hpages : s.accounts.rows.length < pages) (touched : List Board) :
    ∃ touched' t, (readPages mode batchSize pages touched 0 0).run s =
        (.ok (some (touched', (rowsRead batchSize mode s).length)), t) ∧
      Staged mode (rowsRead batchSize mode s) s t ∧
      Touched (Brings mode (rowsRead batchSize mode s)) touched touched' := by
  unfold rowsRead readRows
  by_cases hsize : batchSize = 0
  · subst hsize
    cases pages with
    | zero => exact absurd hpages (Nat.not_lt_zero _)
    | succ pages =>
      refine ⟨touched, s, ?_, Staged.refl mode s, Touched.refl ?_ touched⟩
      · unfold readPages
        rw [Coro.run_bind_ok (fetch_run mode 0 0 s), List.take_zero]
        rfl
      · rintro board ⟨row, hrow, -⟩
        exact List.not_mem_nil hrow
  · have hfew : (rest s.accounts mode 0).length < pages := by
      rw [rest_zero, Accounts.ranked, List.length_map]
      exact Nat.lt_of_le_of_lt (List.length_filter_le _ _) hpages
    have hread := readPages_run (Nat.pos_of_ne_zero hsize) pages touched 0 0 s hfew
    rw [rest_zero, Nat.zero_add] at hread
    rw [if_neg hsize]
    exact hread

-- The boards that SCAN and the global key give the rebuild to begin with.
def existing (scan : Scan) (mode : Nat) (s : Stores) : List Board :=
  (scan (belowGlobal mode) s.redis).filterMap liveBoard ++ [globalBoard mode]

theorem mem_existing (hscan : scan.Answers (belowGlobal mode) s.redis) {board : Board} : board ∈ existing scan mode s ↔
    board = globalBoard mode ∨
      (board.mode = mode ∧ board.country.isSome ∧ s.redis.keyExists (.live board)) := by
  have hlive : ∀ key, liveBoard key = some board ↔ key = .live board := by
    intro key
    cases key <;> simp [liveBoard]
  simp only [existing, List.mem_append, List.mem_filterMap, hlive, exists_eq_right, hscan _,
    List.mem_singleton]
  simp only [belowGlobal, Bool.and_eq_true, decide_eq_true_eq]
  rw [and_assoc, or_comm]

-- EXEC on what the loop has staged.
def executed (touched : List Board) (t : Stores) : Bool × Redis :=
  executeAll t.redis (touched.map (buffered fun board => t.redis.keyExists (.staging board)))

theorem commitStaged_run (touched : List Board) (t : Stores) :
    (commitStaged touched).run t =
      (if (executed touched t).1 then .ok () else .error .noSuchKey,
        { t with redis := (executed touched t).2 }) := by
  have hpipe : (Coro.collect buffer touched).run t = (.ok (touched.map (buffered fun board =>
      t.redis.keyExists (.staging board))), t) :=
    Coro.run_collect_query (fun board (t : Stores) =>
      buffered (fun board => t.redis.keyExists (.staging board)) board) touched t
  unfold commitStaged
  rw [Coro.run_bind_ok hpipe]
  exact Coro.run_command _ t

section Commit

variable {touched : List Board} {t : Stores} {ranked : Nat}

theorem rebuildMode_run (hread : (readPages mode batchSize pages (existing scan mode s) 0 0).run s =
      (.ok (some (touched, ranked)), t)) :
    (rebuildMode scan pages batchSize mode).run s =
      (Coro.attempt
        (do
          commitStaged touched
          pure (some (ranked, touched.length)))
        fun e => do
          discardStaging touched
          Coro.raise e).run t := by
  have hfetch : (fetchExistingKeys scan mode).run s = (.ok (existing scan mode s), s) := rfl
  unfold rebuildMode
  rw [Coro.run_bind_ok hfetch, Coro.run_bind_ok hread]

theorem rebuild_ok (hread : (readPages mode batchSize pages (existing scan mode s) 0 0).run s =
      (.ok (some (touched, ranked)), t)) (hok : (executed touched t).1 = true) :
    (rebuildMode scan pages batchSize mode).run s =
      (.ok (some (ranked, touched.length)), { t with redis := (executed touched t).2 }) := by
  have hcommit := commitStaged_run touched t
  rw [if_pos hok] at hcommit
  rw [rebuildMode_run hread, Coro.run_attempt]
  unfold Prog.attempt
  rw [Coro.run_bind_ok hcommit]
  rfl

theorem rebuild_fails (hread : (readPages mode batchSize pages (existing scan mode s) 0 0).run s =
      (.ok (some (touched, ranked)), t)) (hok : (executed touched t).1 = false) :
    ∃ u, (rebuildMode scan pages batchSize mode).run s = (.error .noSuchKey, u) := by
  have hcommit := commitStaged_run touched t
  rw [if_neg (by simp [hok])] at hcommit
  rw [rebuildMode_run hread, Coro.run_attempt]
  unfold Prog.attempt
  rw [Coro.run_bind, Prog.bind_run_error hcommit]
  obtain ⟨u, hdiscard⟩ : ∃ u, (discardStaging touched).run
      { t with redis := (executed touched t).2 } = (.ok (), u) := by
    unfold discardStaging
    split
    · exact ⟨_, rfl⟩
    · exact ⟨_, rfl⟩
  exact ⟨u, Coro.run_bind_ok hdiscard⟩

theorem unstaged_empty (t : Stores) : ∀ board ∈ touched,
    t.redis.keyExists (.staging board) = false → t.redis (.staging board) = ∅ :=
  fun _ _ => SortedSets.eq_empty

-- EXEC succeeds when no set that is staged is renamed twice.
theorem executed_ok : (executed touched t).1 = true ↔
    ∀ board ∈ touched, t.redis.keyExists (.staging board) → touched.count board = 1 := by
  rw [executed, executeAll_ok (unstaged_empty t)]
  constructor
  · exact fun h board hmem hstaged => (h board hmem hstaged).2
  · exact fun h board hmem hstaged => ⟨hstaged, h board hmem hstaged⟩

-- It leaves a board that was touched with what was staged for it, and any other as it is.
theorem executed_live (touched : List Board) (t : Stores) (board : Board) (p : Nat) :
    SortedSets.scores (executed touched t).2 (.live board) p =
      if board ∈ touched then t.redis.scores (.staging board) p
      else t.redis.scores (.live board) p := by
  unfold SortedSets.scores executed
  rw [(executeAll_boards (unstaged_empty t) board).2]
  by_cases hmem : board ∈ touched
  · rw [if_pos hmem]
    cases t.redis.keyExists (.staging board) <;> simp [hmem]
  · simp [hmem]

theorem executed_staging (touched : List Board) (t : Stores) (board : Board) :
    SortedSets.keyExists (executed touched t).2 (.staging board) =
      (decide (board ∉ touched) && t.redis.keyExists (.staging board)) := by
  unfold SortedSets.keyExists executed
  rw [(executeAll_boards (unstaged_empty t) board).1]
  by_cases hmem : board ∈ touched <;> simp [hmem]

theorem mode_touched (hscan : scan.Answers (belowGlobal mode) s.redis)
    {rows : List RankedPlayerPP} (htouched : Touched (Brings mode rows) (existing scan mode s) touched)
    {board : Board} (hmem : board ∈ touched) : board.mode = mode := by
  rcases (htouched.mem_iff board).mp hmem with hold | ⟨row, -, rfl⟩
  · rcases (mem_existing hscan).mp hold with rfl | ⟨h, -, -⟩
    · rfl
    · exact h
  · rfl

-- A board that the rebuild has not found or filled has no entries.
theorem live_untouched (hscan : scan.Answers (belowGlobal mode) s.redis)
    {rows : List RankedPlayerPP} (hstaged : Staged mode rows s t)
    (htouched : Touched (Brings mode rows) (existing scan mode s) touched) {board : Board}
    (hb : board.mode = mode) (hmem : board ∉ touched) (p : Nat) :
    t.redis.scores (.live board) p = none := by
  have hold : board ∉ existing scan mode s := fun h => hmem ((htouched.mem_iff board).mpr (.inl h))
  rw [mem_existing hscan, not_or] at hold
  have hcountry : board.country.isSome := by
    rw [Option.isSome_iff_ne_none]
    intro hnone
    exact hold.1 (by rw [globalBoard, ← hb, ← hnone])
  have hmissing : s.redis.keyExists (.live board) = false := by
    simpa [hb, hcountry] using hold.2
  rw [SortedSets.scores, hstaged.live board]
  exact SortedSets.not_keyExists_iff.mp hmissing p

-- A right rebuild has every board that has entries staged and touched once.
theorem staged_of_rebuilds (hscan : scan.Answers (belowGlobal mode) s.redis)
    (hread : (readPages mode batchSize pages (existing scan mode s) 0 0).run s =
      (.ok (some (touched, ranked)), t)) (hstaged : Staged mode (rowsRead batchSize mode s) s t)
    (htouched : Touched (Brings mode (rowsRead batchSize mode s)) (existing scan mode s) touched)
    (h : Rebuilds scan pages batchSize mode s) {board : Board} (hb : board.mode = mode) :
    (∀ p v, t.redis.scores (.staging board) p = some v ↔ s.accounts.HasEntry board p v) ∧
      ((∃ p v, s.accounts.HasEntry board p v) → touched.count board = 1) := by
  obtain ⟨result, u, hrun, hexact⟩ := h
  cases hgood : (executed touched t).1 with
  | false =>
    obtain ⟨u', hfail⟩ := rebuild_fails hread hgood
    rw [hfail] at hrun
    cases hrun
  | true =>
    rw [rebuild_ok hread hgood] at hrun
    obtain rfl : { t with redis := (executed touched t).2 } = u := congrArg Prod.snd hrun
    have hentry := hexact.boards board hb
    simp only [executed_live] at hentry
    by_cases hmem : board ∈ touched
    · simp only [hmem, if_true] at hentry
      refine ⟨hentry, ?_⟩
      rintro ⟨p, v, hpv⟩
      exact executed_ok.mp hgood board hmem
        (SortedSets.keyExists_iff.mpr ⟨p, v, (hentry p v).mpr hpv⟩)
    · simp only [hmem, if_false, live_untouched hscan hstaged htouched hb hmem] at hentry
      have hnone : ∀ p v, ¬s.accounts.HasEntry board p v := fun p v hpv => by
        have hfound := (hentry p v).mpr hpv
        cases hfound
      have hleft := hexact.staging board hb
      rw [executed_staging] at hleft
      have hmissing : t.redis.keyExists (.staging board) = false := by simpa [hmem] using hleft
      refine ⟨fun p v => ⟨fun h => ?_, fun h => absurd h (hnone p v)⟩, ?_⟩
      · rw [SortedSets.not_keyExists_iff.mp hmissing p] at h
        cases h
      · rintro ⟨p, v, hpv⟩
        exact absurd hpv (hnone p v)

-- And a rebuild with every board that has entries staged and touched once is right.
theorem rebuilds_of_staged (hscan : scan.Answers (belowGlobal mode) s.redis)
    (hread : (readPages mode batchSize pages (existing scan mode s) 0 0).run s =
      (.ok (some (touched, ranked)), t)) (hstaged : Staged mode (rowsRead batchSize mode s) s t)
    (htouched : Touched (Brings mode (rowsRead batchSize mode s)) (existing scan mode s) touched)
    (h : ∀ board, board.mode = mode →
      (∀ p v, t.redis.scores (.staging board) p = some v ↔ s.accounts.HasEntry board p v) ∧
      ((∃ p v, s.accounts.HasEntry board p v) → touched.count board = 1)) :
    Rebuilds scan pages batchSize mode s := by
  have hnone : ∀ board, board.mode = mode → board ∉ touched →
      ∀ p v, ¬s.accounts.HasEntry board p v := by
    intro board hb hmem p v hpv
    have hcount := (h board hb).2 ⟨p, v, hpv⟩
    rw [List.count_eq_zero.mpr hmem] at hcount
    cases hcount
  have hgood : (executed touched t).1 = true := by
    refine executed_ok.mpr fun board hmem hexists => ?_
    obtain ⟨p, v, hpv⟩ := SortedSets.keyExists_iff.mp hexists
    have hb := h board (mode_touched hscan htouched hmem)
    exact hb.2 ⟨p, v, (hb.1 p v).mp hpv⟩
  have hentries : ∀ board, board.mode = mode → ∀ p v,
      SortedSets.scores (executed touched t).2 (.live board) p = some v ↔
        s.accounts.HasEntry board p v := by
    intro board hb p v
    rw [executed_live]
    by_cases hmem : board ∈ touched
    · rw [if_pos hmem]
      exact (h board hb).1 p v
    · rw [if_neg hmem, live_untouched hscan hstaged htouched hb hmem]
      constructor
      · intro hv
        cases hv
      · exact fun hpv => absurd hpv (hnone board hb hmem p v)
  refine ⟨_, _, rebuild_ok hread hgood, hentries, fun board hb hno => ?_, fun board hb => ?_⟩
  · rw [SortedSets.not_keyExists_iff]
    intro p
    refine Option.eq_none_iff_forall_ne_some.mpr fun v hv => ?_
    exact hno p v ((hentries board hb p v).mp hv)
  · change SortedSets.keyExists (executed touched t).2 (.staging board) = false
    rw [executed_staging]
    by_cases hmem : board ∈ touched
    · simp [hmem]
    · have hmissing : t.redis.keyExists (.staging board) = false := by
        rw [SortedSets.not_keyExists_iff]
        intro p
        refine Option.eq_none_iff_forall_ne_some.mpr fun v hv => ?_
        exact hnone board hb hmem p v (((h board hb).1 p v).mp hv)
      simp [hmissing]

theorem rebuilds_iff_staged (hscan : scan.Answers (belowGlobal mode) s.redis)
    (hread : (readPages mode batchSize pages (existing scan mode s) 0 0).run s =
      (.ok (some (touched, ranked)), t)) (hstaged : Staged mode (rowsRead batchSize mode s) s t)
    (htouched : Touched (Brings mode (rowsRead batchSize mode s)) (existing scan mode s) touched) :
    Rebuilds scan pages batchSize mode s ↔ ∀ board, board.mode = mode →
      (∀ p v, t.redis.scores (.staging board) p = some v ↔ s.accounts.HasEntry board p v) ∧
      ((∃ p v, s.accounts.HasEntry board p v) → touched.count board = 1) :=
  ⟨fun h _ hb => staged_of_rebuilds hscan hread hstaged htouched h hb,
    rebuilds_of_staged hscan hread hstaged htouched⟩

end Commit

section Conditions

-- What a rebuild may find: staging sets only of boards that get entries, with players
-- who get one; and no country that gets entries twice in the answer of SCAN. With no
-- room for a row on a page all has to be staged already.
structure Clean (scan : Scan) (batchSize mode : Nat) (s : Stores) : Prop where
  leftover : ∀ board, board.mode = mode → ∀ p v, s.redis.scores (.staging board) p = some v →
    ∃ w, s.accounts.HasEntry board p w ∧ (batchSize = 0 → w = v)
  paged : batchSize = 0 → ∀ board, board.mode = mode → ∀ p v, s.accounts.HasEntry board p v →
    s.redis.scores (.staging board) p = some v ∧
      (board.country.isSome → s.redis.keyExists (.live board))
  scanned : ∀ board, board.mode = mode → board.country.isSome →
    (∃ p v, s.accounts.HasEntry board p v) →
      (scan (belowGlobal mode) s.redis).count (.live board) ≤ 1

theorem count_liveBoard (keys : List Key) (board : Board) :
    (keys.filterMap liveBoard).count board = keys.count (.live board) := by
  induction keys with
  | nil => rfl
  | cons key rest ih =>
    cases key with
    | staging other =>
      have hne : Key.staging other ≠ Key.live board := by simp
      rw [List.count_cons_of_ne hne, ← ih]
      rfl
    | live other =>
      change (other :: rest.filterMap liveBoard).count board = _
      by_cases h : other = board
      · subst h
        rw [List.count_cons_self, List.count_cons_self, ih]
      · rw [List.count_cons_of_ne h, List.count_cons_of_ne (by simpa using h), ih]

theorem count_existing_global (hscan : scan.Answers (belowGlobal mode) s.redis) :
    (existing scan mode s).count (globalBoard mode) = 1 := by
  have hnone : Key.live (globalBoard mode) ∉ scan (belowGlobal mode) s.redis := by
    rw [hscan]
    simp [belowGlobal, globalBoard]
  rw [existing, List.count_append, count_liveBoard, List.count_eq_zero.mpr hnone,
    List.count_singleton_self]

theorem count_existing_country {board : Board} (h : board.country.isSome) :
    (existing scan mode s).count board =
      (scan (belowGlobal mode) s.redis).count (.live board) := by
  have hne : globalBoard mode ≠ board := by
    rintro rfl
    cases h
  rw [existing, List.count_append, count_liveBoard]
  simp [hne]

theorem eq_global {board : Board} (hb : board.mode = mode) (h : ¬board.country.isSome) :
    board = globalBoard mode := by
  rw [Option.not_isSome_iff_eq_none] at h
  rw [globalBoard, ← hb, ← h]

theorem brings_ranked {accounts : Accounts} {board : Board} {p v : Nat}
    (h : accounts.HasEntry board p v) (hc : board.country.isSome) :
    Brings board.mode (accounts.ranked board.mode) board := by
  obtain ⟨country, hcountry⟩ := Option.isSome_iff_exists.mp hc
  obtain ⟨a, ha, -, hranked, hsame, -⟩ := h
  refine ⟨a.toRanked board.mode, List.mem_map.mpr ⟨a, List.mem_filter.mpr ⟨ha, hranked⟩, rfl⟩, ?_⟩
  have ha : a.country = country := hsame country hcountry
  rw [countryBoard, Account.toRanked, ha, ← hcountry]

variable {touched : List Board} {t : Stores}

-- Pages without room for a row: what is staged is what was left over.
theorem staged_iff_clean_empty (hscan : scan.Answers (belowGlobal mode) s.redis)
    (hstaged : Staged mode [] s t)
    (htouched : Touched (Brings mode []) (existing scan mode s) touched) :
    (∀ board, board.mode = mode →
      (∀ p v, t.redis.scores (.staging board) p = some v ↔ s.accounts.HasEntry board p v) ∧
      ((∃ p v, s.accounts.HasEntry board p v) → touched.count board = 1)) ↔
      Clean scan 0 mode s := by
  have hscores : ∀ board, board.mode = mode → ∀ p, t.redis.scores (.staging board) p =
      s.redis.scores (.staging board) p := fun board hb p => hstaged.staging board p hb
  have hcount : ∀ board, touched.count board = (existing scan mode s).count board := by
    refine fun board => htouched.kept board (.inr ?_)
    rintro ⟨row, hrow, -⟩
    exact List.not_mem_nil hrow
  constructor
  · intro h
    refine ⟨fun board hb p v hv => ⟨v, ?_, fun _ => rfl⟩, fun _ board hb p v hpv => ⟨?_, ?_⟩, ?_⟩
    · rw [← hscores board hb] at hv
      exact ((h board hb).1 p v).mp hv
    · rw [← hscores board hb]
      exact ((h board hb).1 p v).mpr hpv
    · intro hc
      have hone := (h board hb).2 ⟨p, v, hpv⟩
      rw [hcount] at hone
      have hmem := List.count_pos_iff.mp (Nat.lt_of_lt_of_eq Nat.one_pos hone.symm)
      rcases (mem_existing hscan).mp hmem with rfl | ⟨-, -, hlive⟩
      · cases hc
      · exact hlive
    · intro board hb hc hentry
      rw [← count_existing_country hc, ← hcount, (h board hb).2 hentry]
  · intro h board hb
    refine ⟨fun p v => ?_, ?_⟩
    · rw [hscores board hb]
      constructor
      · intro hv
        obtain ⟨w, hw, heq⟩ := h.leftover board hb p v hv
        exact heq rfl ▸ hw
      · exact fun hpv => (h.paged rfl board hb p v hpv).1
    · rintro ⟨p, v, hpv⟩
      rw [hcount]
      by_cases hc : board.country.isSome
      · have hlive := (h.paged rfl board hb p v hpv).2 hc
        have hmem : board ∈ existing scan mode s := (mem_existing hscan).mpr (.inr ⟨hb, hc, hlive⟩)
        have hpos := List.count_pos_iff.mpr hmem
        have hle := h.scanned board hb hc ⟨p, v, hpv⟩
        rw [← count_existing_country hc] at hle
        omega
      · rw [eq_global hb hc]
        exact count_existing_global hscan

-- Pages that reach every ranked player.
theorem staged_iff_clean_ranked (hscan : scan.Answers (belowGlobal mode) s.redis) (hsize : 0 < batchSize)
    (hstaged : Staged mode (s.accounts.ranked mode) s t)
    (htouched : Touched (Brings mode (s.accounts.ranked mode)) (existing scan mode s) touched) :
    (∀ board, board.mode = mode →
      (∀ p v, t.redis.scores (.staging board) p = some v ↔ s.accounts.HasEntry board p v) ∧
      ((∃ p v, s.accounts.HasEntry board p v) → touched.count board = 1)) ↔
      Clean scan batchSize mode s := by
  have hentry : ∀ board, board.mode = mode → ∀ p v,
      (onBoard (s.accounts.ranked mode) board).lookup p = some v ↔
        s.accounts.HasEntry board p v := by
    intro board hb p v
    rw [lookup_eq_some_iff ((ranked_ordered s.accounts mode).onBoard_nodup board), mem_ranked hb]
  have hpositive : batchSize ≠ 0 := Nat.pos_iff_ne_zero.mp hsize
  constructor
  · intro h
    refine ⟨fun board hb p v hv => ?_, fun hzero => absurd hzero hpositive, ?_⟩
    · have hstage := hstaged.staging board p hb
      rcases hlookup : (onBoard (s.accounts.ranked mode) board).lookup p with _ | w
      · rw [hlookup, hv, Option.none_or] at hstage
        exact ⟨v, ((h board hb).1 p v).mp hstage, fun _ => rfl⟩
      · exact ⟨w, (hentry board hb p w).mp hlookup, fun hzero => absurd hzero hpositive⟩
    · intro board hb hc hboard
      rw [← count_existing_country hc]
      by_cases hmem : board ∈ existing scan mode s
      · rw [← htouched.kept board (.inl hmem), (h board hb).2 hboard]
      · rw [List.count_eq_zero.mpr hmem]
        exact Nat.zero_le 1
  · intro h board hb
    refine ⟨fun p v => ?_, ?_⟩
    · rw [hstaged.staging board p hb, ← hentry board hb]
      rcases hlookup : (onBoard (s.accounts.ranked mode) board).lookup p with _ | w
      · rw [Option.none_or]
        refine ⟨fun hv => ?_, nofun⟩
        obtain ⟨w, hw, -⟩ := h.leftover board hb p v hv
        rw [← hentry board hb, hlookup] at hw
        cases hw
      · rw [Option.some_or]
    · rintro ⟨p, v, hpv⟩
      by_cases hmem : board ∈ existing scan mode s
      · rw [htouched.kept board (.inl hmem)]
        by_cases hc : board.country.isSome
        · have hpos := List.count_pos_iff.mpr hmem
          have hle := h.scanned board hb hc ⟨p, v, hpv⟩
          rw [← count_existing_country hc] at hle
          omega
        · rw [eq_global hb hc]
          exact count_existing_global hscan
      · have hc : board.country.isSome := by
          by_contra hno
          exact hmem ((mem_existing hscan).mpr (.inl (eq_global hb hno)))
        subst hb
        exact htouched.new board hmem (brings_ranked hpv hc)

-- A rebuild that reads every page is exact just when it starts clean.
theorem rebuilds_iff_clean (scan : Scan) {pages : Nat} (batchSize mode : Nat) (s : Stores)
    (hscan : scan.Answers (belowGlobal mode) s.redis) (hpages : s.accounts.rows.length < pages) :
    Rebuilds scan pages batchSize mode s ↔ Clean scan batchSize mode s := by
  obtain ⟨touched, t, hread, hstaged, htouched⟩ :=
    @readPages_all pages batchSize mode s hpages (existing scan mode s)
  rw [rebuilds_iff_staged hscan hread hstaged htouched]
  unfold rowsRead readRows at hstaged htouched
  by_cases hsize : batchSize = 0
  · subst hsize
    exact staged_iff_clean_empty hscan hstaged htouched
  · rw [if_neg hsize] at hstaged htouched
    exact staged_iff_clean_ranked hscan (Nat.pos_of_ne_zero hsize) hstaged htouched

-- One ranked player, who is on both boards.
def oneRanked : Stores :=
  { redis := fun key =>
      if key = .live (globalBoard 0) ∨ key = .live (countryBoard 0 "us") then
        AList.singleton 3 100
      else ∅
    accounts :=
      { rows := [{ id := 3, priv := 3, country := "us", pp := fun _ => 100 }]
        sorted := List.pairwise_singleton _ _
        positive := by simp } }

-- A SCAN that comes across the country's key so many times.
def scanTimes (times : Nat) : Scan := fun pattern _ =>
  (List.replicate times (.live (countryBoard 0 "us"))).filter pattern

theorem scanTimes_answers {times : Nat} (h : times ≠ 0) :
    (scanTimes times).Answers (belowGlobal 0) oneRanked.redis := by
  intro key
  simp only [scanTimes, List.mem_filter, List.mem_replicate]
  constructor
  · rintro ⟨⟨-, rfl⟩, hpattern⟩
    exact ⟨hpattern, rfl⟩
  · rintro ⟨hpattern, hexists⟩
    by_cases hcountry : key = .live (countryBoard 0 "us")
    · exact ⟨⟨h, hcountry⟩, hpattern⟩
    · by_cases hglobal : key = .live (globalBoard 0)
      · subst hglobal
        cases hpattern
      · simp [SortedSets.keyExists, oneRanked, hcountry, hglobal] at hexists

theorem rebuilds_iff_clean_oneRanked :
    Rebuilds (scanTimes 1) 2 5000 0 oneRanked ↔ Clean (scanTimes 1) 5000 0 oneRanked :=
  rebuilds_iff_clean (scanTimes 1) 5000 0 oneRanked (scanTimes_answers (by decide)) (by decide)

-- With the key twice in the answer of SCAN the second RENAME fails.
theorem not_rebuilds_scannedTwice :
    (scanTimes 2).Answers (belowGlobal 0) oneRanked.redis ∧
      ¬Rebuilds (scanTimes 2) 2 5000 0 oneRanked := by
  refine ⟨scanTimes_answers (by decide), ?_⟩
  have hfails : ((rebuildMode (scanTimes 2) 2 5000 0).run oneRanked).1.isOk = false := by
    decide
  rintro ⟨result, t, hrun, -⟩
  rw [hrun] at hfails
  cases hfails

end Conditions

end Exactness

end BanchoPrism.Leaderboards
