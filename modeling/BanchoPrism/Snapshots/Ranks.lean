import BanchoPrism.Leaderboards.Ranks
import BanchoPrism.Library.Paging
import BanchoPrism.Snapshots.Capture

namespace BanchoPrism.Snapshots

open Library Leaderboards

-- The leaderboards of a mode hold its ranked players, with their pp, and no one else.
structure Holds (redis : Redis) (t : Tables) (mode : Nat) : Prop where
  everyone : ∀ id pp, redis.scores (.live (globalBoard mode)) id = some pp ↔
    ∃ r ∈ t.rankedPlayers mode, r.id = id ∧ r.pp = pp
  countries : ∀ country id pp, redis.scores (.live (countryBoard mode country)) id = some pp ↔
    ∃ r ∈ t.rankedPlayers mode, r.user.country = country ∧ r.id = id ∧ r.pp = pp

-- Of the rows that capture_mode adds each has the ranks that the live profile shows; the country
-- is the column of users there as here, not that of a session.
def RanksAgree (redis : Redis) (t : Tables) (mode : Nat) (snapshotDate : Int) : Prop :=
  ∀ snapshots, ∀ row ∈ captureMode t mode snapshotDate snapshots, row ∉ snapshots →
    row.globalRank = some (liveRank false (fetchGlobalRank redis row.userId mode)) ∧
    ∀ user ∈ t.users, user.id = row.userId → row.countryRank =
      some (liveRank false (fetchCountryRank redis row.userId mode user.country))

-- Of two ranked players with the same pp the one with the smaller id has the greater text.
def TiesDescend (t : Tables) (mode : Nat) : Prop :=
  ∀ a ∈ t.rankedPlayers mode, ∀ b ∈ t.rankedPlayers mode, a.pp = b.pp → a.id < b.id →
    memberText b.id < memberText a.id

section Orders

variable {rows : List RankedPlayer} {a b : RankedPlayer}

def entryOf (r : RankedPlayer) : Nat × Nat := (r.id, r.pp)

-- The order of the window function, and that of the sorted set.
def rowWeight : RankedPlayer → Natᵒᵈ ×ₗ Nat := weight RankedPlayer.pp RankedPlayer.id

def liveWeight : RankedPlayer → (Nat ×ₗ List Char)ᵒᵈ ×ₗ Nat :=
  weight memberOrder Prod.fst ∘ entryOf

theorem rowWeight_lt_iff :
    rowWeight a < rowWeight b ↔ b.pp < a.pp ∨ (a.pp = b.pp ∧ a.id < b.id) := by
  simp only [rowWeight, weight, Prod.Lex.toLex_lt_toLex, OrderDual.toDual_lt_toDual,
    OrderDual.toDual_inj]

theorem liveWeight_lt_iff :
    liveWeight a < liveWeight b ↔
      b.pp < a.pp ∨ (a.pp = b.pp ∧ memberText b.id < memberText a.id) := by
  simp only [liveWeight, weight, entryOf, memberOrder, Function.comp, Prod.Lex.toLex_lt_toLex,
    OrderDual.toDual_lt_toDual, OrderDual.toDual_inj, toLex_inj, Prod.mk.injEq]
  constructor
  · rintro ((h | ⟨hpp, htext⟩) | ⟨⟨-, htext⟩, hid⟩)
    · exact Or.inl h
    · exact Or.inr ⟨hpp.symm, htext⟩
    · -- one text belongs to one id
      have := memberText_injective htext
      omega
  · rintro (h | ⟨hpp, htext⟩)
    · exact Or.inl (Or.inl h)
    · exact Or.inl (Or.inr ⟨hpp.symm, htext⟩)

theorem weights_agree_iff :
    (∀ a ∈ rows, ∀ b ∈ rows, rowWeight a < rowWeight b ↔ liveWeight a < liveWeight b) ↔
      ∀ a ∈ rows, ∀ b ∈ rows, a.pp = b.pp → a.id < b.id → memberText b.id < memberText a.id := by
  constructor
  · intro h a ha b hb hpp hid
    have hlive := (h a ha b hb).mp (rowWeight_lt_iff.mpr (Or.inr ⟨hpp, hid⟩))
    rcases liveWeight_lt_iff.mp hlive with hlt | ⟨-, htext⟩
    · omega
    · exact htext
  · intro h a ha b hb
    rw [rowWeight_lt_iff, liveWeight_lt_iff]
    constructor
    · rintro (hlt | ⟨hpp, hid⟩)
      · exact Or.inl hlt
      · exact Or.inr ⟨hpp, h a ha b hb hpp hid⟩
    · rintro (hlt | ⟨hpp, htext⟩)
      · exact Or.inl hlt
      · refine Or.inr ⟨hpp, ?_⟩
        rcases Nat.lt_trichotomy a.id b.id with hid | hid | hid
        · exact hid
        · rw [hid] at htext
          exact absurd htext (lt_irrefl _)
        · exact absurd (h b hb a ha hpp.symm hid) (not_lt_of_gt htext)

theorem rowNumber_eq (hids : (rows.map RankedPlayer.id).Nodup) (ha : a ∈ rows) :
    rowNumber rows a = placesBefore rowWeight rows a + 1 :=
  congrArg (· + 1) (idxOf_mergeSort hids ha)

theorem entries_nodup (hids : (rows.map RankedPlayer.id).Nodup) : (rows.map entryOf).Nodup := by
  have hfst : rows.map RankedPlayer.id = (rows.map entryOf).map Prod.fst := by
    rw [List.map_map]
    rfl
  rw [hfst] at hids
  exact hids.of_map

theorem zrevrank_of_holds {redis : Redis} {k : Key} (hids : (rows.map RankedPlayer.id).Nodup)
    (hk : ∀ id pp, redis.scores k id = some pp ↔ ∃ r ∈ rows, r.id = id ∧ r.pp = pp)
    (ha : a ∈ rows) : zrevrank k a.id redis = some (placesBefore liveWeight rows a) := by
  have hperm : (members (redis k)).Perm (rows.map entryOf) := by
    refine (List.perm_ext_iff_of_nodup (members_nodup _).of_map (entries_nodup hids)).mpr ?_
    rintro ⟨id, pp⟩
    rw [mem_members, hk, List.mem_map]
    simp only [entryOf, Prod.mk.injEq]
  rw [zrevrank_eq hperm (List.mem_map_of_mem (f := entryOf) ha)]
  exact congrArg some placesBefore_map

end Orders

section Agreement

variable {redis : Redis} {t : Tables} {mode : Nat} {snapshotDate : Int}

theorem mem_partitionOf {rows : List RankedPlayer} {r other : RankedPlayer} :
    other ∈ partitionOf rows r ↔ other ∈ rows ∧ other.user.country = r.user.country := by
  simp [partitionOf]

theorem globalRank_eq_iff (h : Holds redis t mode) {r : RankedPlayer}
    (hr : r ∈ t.rankedPlayers mode) :
    rowNumber (t.rankedPlayers mode) r = liveRank false (fetchGlobalRank redis r.id mode) ↔
      placesBefore rowWeight (t.rankedPlayers mode) r =
        placesBefore liveWeight (t.rankedPlayers mode) r := by
  have hids := rankedPlayers_nodup t mode
  have hlive : liveRank false (fetchGlobalRank redis r.id mode) =
      placesBefore liveWeight (t.rankedPlayers mode) r + 1 := by
    unfold fetchGlobalRank
    rw [zrevrank_of_holds hids h.everyone hr]
    rfl
  rw [rowNumber_eq hids hr, hlive]
  exact Nat.add_right_cancel_iff

theorem countryRank_eq_iff (h : Holds redis t mode) {r : RankedPlayer}
    (hr : r ∈ t.rankedPlayers mode) :
    rowNumber (partitionOf (t.rankedPlayers mode) r) r =
        liveRank false (fetchCountryRank redis r.id mode r.user.country) ↔
      placesBefore rowWeight (partitionOf (t.rankedPlayers mode) r) r =
        placesBefore liveWeight (partitionOf (t.rankedPlayers mode) r) r := by
  have hids : ((partitionOf (t.rankedPlayers mode) r).map RankedPlayer.id).Nodup :=
    (rankedPlayers_nodup t mode).sublist (List.filter_sublist.map _)
  have hmem : r ∈ partitionOf (t.rankedPlayers mode) r := mem_partitionOf.mpr ⟨hr, rfl⟩
  have hboard : ∀ id pp,
      redis.scores (.live (countryBoard mode r.user.country)) id = some pp ↔
        ∃ other ∈ partitionOf (t.rankedPlayers mode) r, other.id = id ∧ other.pp = pp := by
    intro id pp
    rw [h.countries]
    constructor
    · rintro ⟨other, hother, hcountry, hid, hpp⟩
      exact ⟨other, mem_partitionOf.mpr ⟨hother, hcountry⟩, hid, hpp⟩
    · rintro ⟨other, hother, hid, hpp⟩
      obtain ⟨hother, hcountry⟩ := mem_partitionOf.mp hother
      exact ⟨other, hother, hcountry, hid, hpp⟩
  have hlive : liveRank false (fetchCountryRank redis r.id mode r.user.country) =
      placesBefore liveWeight (partitionOf (t.rankedPlayers mode) r) r + 1 := by
    unfold fetchCountryRank
    rw [zrevrank_of_holds hids hboard hmem]
    rfl
  rw [rowNumber_eq hids hmem, hlive]
  exact Nat.add_right_cancel_iff

-- Every ranked player is among the rows that a first capture of the day adds.
theorem ties_of_ranksAgree (h : Holds redis t mode) (hagree : RanksAgree redis t mode snapshotDate) :
    TiesDescend t mode := by
  apply weights_agree_iff.mp
  apply placesBefore_eq_iff.mp
  intro r hr
  have hnew : snapshotOf (t.rankedPlayers mode) snapshotDate r ∈
      captureMode t mode snapshotDate [] := by
    rw [captureMode_eq]
    exact List.mem_append_right _ (mem_unseen.mpr ⟨List.mem_map_of_mem hr, by simp⟩)
  have hglobal := (hagree [] _ hnew List.not_mem_nil).1
  exact (globalRank_eq_iff h hr).mp (Option.some.inj hglobal)

theorem ranksAgree_of_ties (h : Holds redis t mode) (hties : TiesDescend t mode) :
    RanksAgree redis t mode snapshotDate := by
  have hweights := weights_agree_iff.mpr hties
  have hplaces := placesBefore_eq_iff.mpr hweights
  intro snapshots row hrow hnew
  rw [captureMode_eq] at hrow
  have hrow := (mem_unseen.mp ((List.mem_append.mp hrow).resolve_left hnew)).1
  obtain ⟨r, hr, rfl⟩ := List.mem_map.mp hrow
  refine ⟨congrArg some ((globalRank_eq_iff h hr).mpr (hplaces r hr)), ?_⟩
  intro user huser hid
  have hsame : user = r.user := List.inj_on_of_nodup_map t.users_nodup huser
    (user_mem (List.mem_filter.mp hr).1) hid
  subst hsame
  apply congrArg some
  apply (countryRank_eq_iff h hr).mpr
  have hcountry : ∀ a ∈ partitionOf (t.rankedPlayers mode) r,
      ∀ b ∈ partitionOf (t.rankedPlayers mode) r, rowWeight a < rowWeight b ↔
        liveWeight a < liveWeight b := by
    intro a ha b hb
    exact hweights a (mem_partitionOf.mp ha).1 b (mem_partitionOf.mp hb).1
  exact placesBefore_eq_iff.mpr hcountry r (mem_partitionOf.mpr ⟨hr, rfl⟩)

-- ROW_NUMBER puts the smaller id first, and ZREVRANK the greater text.
theorem ranksAgree_iff (redis : Redis) (t : Tables) (mode : Nat) (snapshotDate : Int)
    (h : Holds redis t mode) : RanksAgree redis t mode snapshotDate ↔ TiesDescend t mode :=
  ⟨ties_of_ranksAgree h, ranksAgree_of_ties h⟩

end Agreement

section Boards

-- The leaderboards as a rebuild leaves them.
def boardOf (rows : List RankedPlayer) : SortedSet Nat Nat := SortedSets.addAll ∅ (rows.map entryOf)

def redisOf (t : Tables) (mode : Nat) : Redis
  | .live board =>
    if board.mode = mode then
      match board.country with
      | none => boardOf (t.rankedPlayers mode)
      | some country => boardOf ((t.rankedPlayers mode).filter fun r => r.user.country = country)
    else ∅
  | .staging _ => ∅

theorem lookup_boardOf {rows : List RankedPlayer} (hids : (rows.map RankedPlayer.id).Nodup)
    (id pp : Nat) :
    (boardOf rows).lookup id = some pp ↔ ∃ r ∈ rows, r.id = id ∧ r.pp = pp := by
  have hkeys : ((rows.map entryOf).map Prod.fst).Nodup := by
    rw [List.map_map]
    exact hids
  unfold boardOf
  rw [SortedSets.lookup_addAll _ hkeys, AList.lookup_empty, Option.or_none, lookup_eq_some_iff hkeys,
    List.mem_map]
  simp only [entryOf, Prod.mk.injEq]

theorem holds_redisOf (t : Tables) (mode : Nat) : Holds (redisOf t mode) t mode := by
  have hids := rankedPlayers_nodup t mode
  constructor
  · intro id pp
    have hboard : redisOf t mode (.live (globalBoard mode)) = boardOf (t.rankedPlayers mode) := by
      simp [redisOf, globalBoard]
    unfold SortedSets.scores
    rw [hboard]
    exact lookup_boardOf hids id pp
  · intro country id pp
    have hboard : redisOf t mode (.live (countryBoard mode country)) =
        boardOf ((t.rankedPlayers mode).filter fun r => r.user.country = country) := by
      simp [redisOf, countryBoard]
    unfold SortedSets.scores
    rw [hboard, lookup_boardOf (hids.sublist (List.filter_sublist.map _))]
    simp only [List.mem_filter, decide_eq_true_eq, and_assoc]

def playerStats (id pp : Nat) : Stats :=
  { id, mode := 0, tscore := 1000, rscore := 500, pp, acc := 98, plays := 10, playtime := 600,
    maxCombo := 300, totalHits := 3000 }

def playerUser (id : Nat) : User := { id, priv := 3, country := "xx" }

-- Two players with the same pp.
def tied (a b : Nat) (h : a ≠ b) : Tables where
  stats := [playerStats a 100, playerStats b 100]
  users := [playerUser a, playerUser b]
  stats_nodup := by simp [playerStats, h]
  users_nodup := by simp [playerUser, h]

theorem ranksAgree_iff_tied :
    RanksAgree (redisOf (tied 9 10 (by decide)) 0) (tied 9 10 (by decide)) 0 19000 ↔
      TiesDescend (tied 9 10 (by decide)) 0 :=
  ranksAgree_iff _ _ _ _ (holds_redisOf _ _)

-- The players 1 and 2 are captured in this order, and shown in the other.
theorem not_ranksAgree_tied :
    ¬ ∀ (redis : Redis) (t : Tables) (mode : Nat) (snapshotDate : Int),
      Holds redis t mode → RanksAgree redis t mode snapshotDate := by
  intro h
  have hagree := h _ (tied 1 2 (by decide)) 0 19000 (holds_redisOf _ _)
  have hties := ties_of_ranksAgree (holds_redisOf _ _) hagree
  have htext := hties { user := playerUser 1, stats := playerStats 1 100 } (by decide)
    { user := playerUser 2, stats := playerStats 2 100 } (by decide) rfl (by decide)
  exact absurd htext (by decide)

end Boards

end BanchoPrism.Snapshots
