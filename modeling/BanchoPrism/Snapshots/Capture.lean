import Mathlib.Algebra.Order.Ring.Rat
import BanchoPrism.Constants.Privileges
import BanchoPrism.Library.Keyed
import BanchoPrism.Library.Select

namespace BanchoPrism.Snapshots

open Library

-- A row of the stats table: the columns that are captured.
structure Stats where
  id : Nat
  mode : Nat
  tscore : Nat
  rscore : Nat
  pp : Nat
  acc : ℚ
  plays : Nat
  playtime : Nat
  maxCombo : Nat
  totalHits : Nat
  deriving DecidableEq

-- The country column holds a lower-case acronym.
structure User where
  id : Nat
  priv : Privileges
  country : String
  deriving DecidableEq

structure Tables where
  stats : List Stats
  users : List User
  stats_nodup : (stats.map fun s => (s.id, s.mode)).Nodup
  users_nodup : (users.map (·.id)).Nodup

-- A row of stat_snapshots. Days are counted from the epoch.
structure StatSnapshot where
  userId : Nat
  mode : Nat
  snapshotDate : Int
  pp : Nat
  globalRank : Option Nat
  countryRank : Option Nat
  tscore : Nat
  rscore : Nat
  acc : ℚ
  plays : Nat
  playtime : Nat
  maxCombo : Nat
  totalHits : Nat
  deriving DecidableEq

-- stat_snapshots_user_mode_date_uindex
def StatSnapshot.key (row : StatSnapshot) : Nat × Nat × Int :=
  (row.userId, row.mode, row.snapshotDate)

structure RankedPlayer where
  user : User
  stats : Stats
  deriving DecidableEq

def RankedPlayer.id (r : RankedPlayer) : Nat := r.user.id

def RankedPlayer.pp (r : RankedPlayer) : Nat := r.stats.pp

-- _RANKED_PRIV
def rankedPriv : Privileges := Privileges.UNRESTRICTED ||| Privileges.VERIFIED

namespace Tables

variable (t : Tables)

-- stats JOIN users ON users.id = stats.id
def joined : List RankedPlayer :=
  t.stats.filterMap fun s =>
    (t.users.find? fun u => u.id = s.id).map fun u => { user := u, stats := s }

def isRanked (mode : Nat) (r : RankedPlayer) : Bool :=
  r.stats.mode = mode && r.user.priv &&& rankedPriv == rankedPriv && 0 < r.stats.pp

def rankedPlayers (mode : Nat) : List RankedPlayer := t.joined.filter (isRanked mode)

end Tables

-- ROW_NUMBER() OVER (ORDER BY pp DESC, id ASC)
def rowNumber (rows : List RankedPlayer) (r : RankedPlayer) : Nat :=
  (rows.mergeSort (before RankedPlayer.pp RankedPlayer.id)).idxOf r + 1

-- PARTITION BY country
def partitionOf (rows : List RankedPlayer) (r : RankedPlayer) : List RankedPlayer :=
  rows.filter fun other => other.user.country = r.user.country

def snapshotOf (rows : List RankedPlayer) (snapshotDate : Int) (r : RankedPlayer) : StatSnapshot where
  userId := r.user.id
  mode := r.stats.mode
  snapshotDate := snapshotDate
  pp := r.stats.pp
  globalRank := some (rowNumber rows r)
  countryRank := some (rowNumber (partitionOf rows r) r)
  tscore := r.stats.tscore
  rscore := r.stats.rscore
  acc := r.stats.acc
  plays := r.stats.plays
  playtime := r.stats.playtime
  maxCombo := r.stats.maxCombo
  totalHits := r.stats.totalHits

-- The SELECT of capture_mode.
def rankedSnapshots (t : Tables) (mode : Nat) (snapshotDate : Int) : List StatSnapshot :=
  (t.rankedPlayers mode).map (snapshotOf (t.rankedPlayers mode) snapshotDate)

-- The table after capture_mode.
def captureMode (t : Tables) (mode : Nat) (snapshotDate : Int) (snapshots : List StatSnapshot) :
    List StatSnapshot :=
  insertIgnoreAll StatSnapshot.key snapshots (rankedSnapshots t mode snapshotDate)

section Ranked

variable {t : Tables} {mode : Nat}

theorem user_id_eq {r : RankedPlayer} (h : r ∈ t.joined) : r.user.id = r.stats.id := by
  obtain ⟨s, -, hs⟩ := List.mem_filterMap.mp h
  obtain ⟨u, hu, rfl⟩ := Option.map_eq_some_iff.mp hs
  simpa using List.find?_some hu

theorem user_mem {r : RankedPlayer} (h : r ∈ t.joined) : r.user ∈ t.users := by
  obtain ⟨s, -, hs⟩ := List.mem_filterMap.mp h
  obtain ⟨u, hu, rfl⟩ := Option.map_eq_some_iff.mp hs
  exact List.mem_of_find?_eq_some hu

theorem joined_sublist (t : Tables) : (t.joined.map RankedPlayer.stats).Sublist t.stats := by
  unfold Tables.joined
  induction t.stats with
  | nil => exact List.Sublist.refl _
  | cons s rest ih =>
    cases hu : t.users.find? fun u => u.id = s.id with
    | none =>
      rw [List.filterMap_cons_none (by simp [hu])]
      exact ih.cons s
    | some u =>
      rw [List.filterMap_cons_some (b := { user := u, stats := s }) (by simp [hu]), List.map_cons]
      exact ih.cons_cons s

-- A player is ranked once in a mode.
theorem rankedPlayers_nodup (t : Tables) (mode : Nat) :
    ((t.rankedPlayers mode).map RankedPlayer.id).Nodup := by
  have hkeys : ((t.rankedPlayers mode).map fun r => (r.stats.id, r.stats.mode)).Nodup := by
    have hsub := ((List.filter_sublist (p := Tables.isRanked mode)).map RankedPlayer.stats).trans
      (joined_sublist t)
    have hnodup := t.stats_nodup.sublist (hsub.map fun s => (s.id, s.mode))
    rwa [List.map_map] at hnodup
  have hsame : ((t.rankedPlayers mode).map fun r => (r.stats.id, r.stats.mode)) =
      ((t.rankedPlayers mode).map RankedPlayer.id).map fun id => (id, mode) := by
    rw [List.map_map]
    apply List.map_congr_left
    intro r hr
    obtain ⟨hjoined, hranked⟩ := List.mem_filter.mp hr
    simp only [Tables.isRanked, Bool.and_eq_true, decide_eq_true_eq] at hranked
    simp [RankedPlayer.id, user_id_eq hjoined, hranked.1.1]
  rw [hsame] at hkeys
  exact hkeys.of_map

theorem mode_of_rankedPlayers {r : RankedPlayer} (h : r ∈ t.rankedPlayers mode) :
    r.stats.mode = mode := by
  have hranked := (List.mem_filter.mp h).2
  simp only [Tables.isRanked, Bool.and_eq_true, decide_eq_true_eq] at hranked
  exact hranked.1.1

theorem rankedSnapshots_nodup (t : Tables) (mode : Nat) (snapshotDate : Int) :
    ((rankedSnapshots t mode snapshotDate).map StatSnapshot.key).Nodup := by
  have hids : ((rankedSnapshots t mode snapshotDate).map StatSnapshot.userId).Nodup := by
    unfold rankedSnapshots
    rw [List.map_map]
    exact rankedPlayers_nodup t mode
  have hsplit : (rankedSnapshots t mode snapshotDate).map StatSnapshot.userId =
      ((rankedSnapshots t mode snapshotDate).map StatSnapshot.key).map Prod.fst := by
    rw [List.map_map]
    rfl
  rw [hsplit] at hids
  exact hids.of_map

theorem captureMode_eq (t : Tables) (mode : Nat) (snapshotDate : Int)
    (snapshots : List StatSnapshot) :
    captureMode t mode snapshotDate snapshots =
      snapshots ++ unseen StatSnapshot.key snapshots (rankedSnapshots t mode snapshotDate) :=
  insertIgnoreAll_eq (rankedSnapshots_nodup t mode snapshotDate)

end Ranked

end BanchoPrism.Snapshots
