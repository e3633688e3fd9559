import Mathlib.Algebra.Order.Ring.Rat
import BanchoPrism.Constants.Mods
import BanchoPrism.Library.Select
import Mathlib.Order.OrderDual

namespace BanchoPrism.Listings

open Library

-- A row of mp_matches. Times are seconds since the epoch.
structure MpMatch where
  id : Nat
  name : String
  hostId : Nat
  hasPublicHistory : Bool
  createdAt : Int
  disbandedAt : Option Int
  deriving DecidableEq

-- A row of mp_match_games, with the participants that its JSON column lists.
structure MpMatchGame where
  id : Nat
  matchId : Nat
  mapMd5 : String
  mapId : Int
  mapName : String
  mode : Nat
  mods : Mods
  winCondition : Nat
  teamType : Nat
  freemods : Bool
  scrim : Bool
  participantCount : Nat
  participants : List Nat
  startedAt : Int
  endedAt : Option Int
  deriving DecidableEq

-- A row of mp_match_game_scores
structure MpMatchGameScore where
  id : Nat
  gameId : Nat
  userId : Nat
  team : Nat
  mods : Mods
  score : Int
  maxCombo : Nat
  num300 : Nat
  num100 : Nat
  num50 : Nat
  numGeki : Nat
  numKatu : Nat
  numMiss : Nat
  acc : ℚ
  perfect : Bool
  passed : Bool
  placement : Nat
  createdAt : Int
  deriving DecidableEq

structure MatchTables where
  matches_ : List MpMatch
  games : List MpMatchGame
  scores : List MpMatchGameScore
  matches_nodup : (matches_.map (·.id)).Nodup
  games_nodup : (games.map (·.id)).Nodup
  scores_nodup : (scores.map (·.id)).Nodup

-- MySQL refuses a LIMIT below zero.
inductive QueryError
  | ProgrammingError
  deriving DecidableEq

namespace MatchTables

-- AND id < before_id, where there is a cursor
def isBefore (beforeId : Option Int) (id : Nat) : Bool := beforeId.all fun cursor => (id : Int) < cursor

-- WHERE p ORDER BY id DESC LIMIT limit
def newest {α : Type} (p : α → Bool) (id : α → Nat) (limit : Int) (rows : List α) :
    Except QueryError (List α) :=
  if limit < 0 then .error .ProgrammingError else .ok (select p id id limit.toNat rows)

section Repository

variable (db : MatchTables)

def fetchMatch (matchId : Int) : Option MpMatch := db.matches_.find? fun m => (m.id : Int) = matchId

def fetchGame (gameId : Int) : Option MpMatchGame := db.games.find? fun g => (g.id : Int) = gameId

def fetchRecentMatches (beforeId : Option Int) (limit : Int) (publicOnly : Bool) :
    Except QueryError (List MpMatch) :=
  newest (fun m => (!publicOnly || m.hasPublicHistory) && isBefore beforeId m.id) (·.id) limit
    db.matches_

def fetchGamesForMatch (matchId : Int) (beforeId : Option Int) (limit : Int) :
    Except QueryError (List MpMatchGame) :=
  newest (fun g => (g.matchId : Int) = matchId && isBefore beforeId g.id) (·.id) limit db.games

-- By placement. Rows of one placement come by id, as the index has them.
def fetchScoresForGame (gameId : Int) : List MpMatchGameScore :=
  select (fun score => (score.gameId : Int) = gameId) (fun score => OrderDual.toDual score.placement)
    (·.id) db.scores.length db.scores

end Repository

end MatchTables

-- _is_visible_to
def MpMatch.isVisibleTo (m : MpMatch) (viewerId : Option Nat) (viewerIsStaff : Bool) : Bool :=
  m.hasPublicHistory || viewerIsStaff || viewerId == some m.hostId

-- MatchHistoryService
namespace MatchHistory

variable (db : MatchTables) (viewerId : Option Nat) (viewerIsStaff : Bool)

def fetchRecentMatches (beforeId : Option Int) (limit : Int) : Except QueryError (List MpMatch) :=
  db.fetchRecentMatches beforeId limit true

def fetchMatch (matchId : Int) : Option MpMatch :=
  (db.fetchMatch matchId).filter fun m => m.isVisibleTo viewerId viewerIsStaff

def fetchGames (matchId : Int) (beforeId : Option Int) (limit : Int) :
    Except QueryError (Option (List MpMatchGame)) :=
  match (db.fetchMatch matchId).filter fun m => m.isVisibleTo viewerId viewerIsStaff with
  | none => .ok none
  | some _ => (db.fetchGamesForMatch matchId beforeId limit).map some

def fetchGameScores (matchId gameId : Int) : Option (List MpMatchGameScore) :=
  match (db.fetchMatch matchId).filter fun m => m.isVisibleTo viewerId viewerIsStaff with
  | none => none
  | some _ =>
    match (db.fetchGame gameId).filter fun g => (g.matchId : Int) = matchId with
    | none => none
    | some _ => some (db.fetchScoresForGame gameId)

end MatchHistory

section Secrecy

-- The id is that of a match without public history that someone else hosts.
def MatchTables.HasHidden (db : MatchTables) (viewerId : Option Nat) (matchId : Nat) : Prop :=
  ∃ m ∈ db.matches_, m.id = matchId ∧ m.isVisibleTo viewerId false = false

-- A score of a game of such a match.
def MatchTables.HasHiddenGame (db : MatchTables) (viewerId : Option Nat) (gameId : Nat) : Prop :=
  ∃ g ∈ db.games, g.id = gameId ∧ db.HasHidden viewerId g.matchId

-- The two differ in matches that are hidden from the viewer, and what belongs to these, only.
structure MatchTables.SameBut (viewerId : Option Nat) (db db' : MatchTables) : Prop where
  matches_ : ∀ m, m.isVisibleTo viewerId false = true → (m ∈ db.matches_ ↔ m ∈ db'.matches_)
  games : ∀ g, ¬ db.HasHidden viewerId g.matchId → ¬ db'.HasHidden viewerId g.matchId →
    (g ∈ db.games ↔ g ∈ db'.games)
  scores : ∀ score, ¬ db.HasHiddenGame viewerId score.gameId →
    ¬ db'.HasHiddenGame viewerId score.gameId → (score ∈ db.scores ↔ score ∈ db'.scores)

variable {db db' : MatchTables} {viewerId : Option Nat}

namespace MatchTables

theorem SameBut.symm (h : db.SameBut viewerId db') : db'.SameBut viewerId db where
  matches_ m hm := (h.matches_ m hm).symm
  games g hg hg' := (h.games g hg' hg).symm
  scores score hs hs' := (h.scores score hs' hs).symm

-- No other match has the id of one that the viewer may see.
theorem not_hasHidden {m : MpMatch} (hm : m ∈ db.matches_) (hv : m.isVisibleTo viewerId false = true) :
    ¬ db.HasHidden viewerId m.id := by
  rintro ⟨other, hother, hid, hhidden⟩
  have heq := List.inj_on_of_nodup_map db.matches_nodup hother hm hid
  rw [heq, hv] at hhidden
  cases hhidden

theorem not_hasHiddenGame {g : MpMatchGame} (hg : g ∈ db.games)
    (hv : ¬ db.HasHidden viewerId g.matchId) : ¬ db.HasHiddenGame viewerId g.id := by
  rintro ⟨other, hother, hid, hhidden⟩
  have heq := List.inj_on_of_nodup_map db.games_nodup hother hg hid
  rw [heq] at hhidden
  exact hv hhidden

theorem SameBut.agree_matches (h : db.SameBut viewerId db') :
    Agree (fun m => m.isVisibleTo viewerId false) (·.id) db.matches_ db'.matches_ :=
  ⟨db.matches_nodup, db'.matches_nodup, h.matches_⟩

theorem id_of_fetchMatch {matchId : Int} {m : MpMatch} (h : db.fetchMatch matchId = some m) :
    (m.id : Int) = matchId := by
  unfold fetchMatch at h
  simpa using List.find?_some h

theorem id_of_fetchGame {gameId : Int} {g : MpMatchGame} (h : db.fetchGame gameId = some g) :
    (g.id : Int) = gameId := by
  unfold fetchGame at h
  simpa using List.find?_some h

theorem newest_congr {α : Type} {p : α → Bool} {id : α → Nat} {rows rows' : List α}
    (h : Agree p id rows rows') (limit : Int) : newest p id limit rows = newest p id limit rows' := by
  unfold newest
  rw [h.select]

end MatchTables

theorem fetchRecentMatches_same (h : db.SameBut viewerId db') (beforeId : Option Int)
    (limit : Int) :
    MatchHistory.fetchRecentMatches db beforeId limit =
      MatchHistory.fetchRecentMatches db' beforeId limit := by
  unfold MatchHistory.fetchRecentMatches MatchTables.fetchRecentMatches
  apply MatchTables.newest_congr
  apply h.agree_matches.mono
  intro m hm
  have hpublic : m.hasPublicHistory = true := by
    simp only [Bool.not_true, Bool.false_or, Bool.and_eq_true] at hm
    exact hm.1
  simp [MpMatch.isVisibleTo, hpublic]

theorem fetchMatch_same (h : db.SameBut viewerId db') (matchId : Int) :
    MatchHistory.fetchMatch db viewerId false matchId =
      MatchHistory.fetchMatch db' viewerId false matchId := by
  apply h.agree_matches.find?_filter
  intro a b ha hb
  simp only [decide_eq_true_eq] at ha hb
  omega

-- A match that the viewer may see is not hidden in either.
theorem shown_of_fetchMatch (h : db.SameBut viewerId db') {matchId : Int} {m : MpMatch}
    (hm : MatchHistory.fetchMatch db viewerId false matchId = some m) {id : Nat}
    (hid : (id : Int) = matchId) :
    ¬ db.HasHidden viewerId id ∧ ¬ db'.HasHidden viewerId id := by
  obtain ⟨hfind, hv⟩ := Option.filter_eq_some_iff.mp hm
  have hmem := List.mem_of_find?_eq_some hfind
  have hmid := MatchTables.id_of_fetchMatch hfind
  obtain rfl : id = m.id := by omega
  exact ⟨MatchTables.not_hasHidden hmem hv,
    MatchTables.not_hasHidden ((h.matches_ m hv).mp hmem) hv⟩

theorem agree_games (h : db.SameBut viewerId db') {matchId : Int} {m : MpMatch}
    (hm : MatchHistory.fetchMatch db viewerId false matchId = some m) :
    Agree (fun g : MpMatchGame => (g.matchId : Int) = matchId) (·.id) db.games db'.games := by
  refine ⟨db.games_nodup, db'.games_nodup, fun g hg => ?_⟩
  obtain ⟨hshown, hshown'⟩ := shown_of_fetchMatch h hm (of_decide_eq_true hg)
  exact h.games g hshown hshown'

theorem fetchGames_same (h : db.SameBut viewerId db') (matchId : Int) (beforeId : Option Int)
    (limit : Int) :
    MatchHistory.fetchGames db viewerId false matchId beforeId limit =
      MatchHistory.fetchGames db' viewerId false matchId beforeId limit := by
  have hmatch := fetchMatch_same h matchId
  unfold MatchHistory.fetchMatch at hmatch
  unfold MatchHistory.fetchGames
  rw [← hmatch]
  cases hm : (db.fetchMatch matchId).filter fun m => m.isVisibleTo viewerId false with
  | none => rfl
  | some m =>
    have hgames : db.fetchGamesForMatch matchId beforeId limit =
        db'.fetchGamesForMatch matchId beforeId limit := by
      apply MatchTables.newest_congr
      apply (agree_games h hm).mono
      intro g hg
      exact (Bool.and_eq_true_iff.mp hg).1
    simp only [hgames]

theorem agree_scores (h : db.SameBut viewerId db') {matchId gameId : Int} {m : MpMatch}
    {g : MpMatchGame} (hm : MatchHistory.fetchMatch db viewerId false matchId = some m)
    (hg : (db.fetchGame gameId).filter (fun g => (g.matchId : Int) = matchId) = some g) :
    Agree (fun score : MpMatchGameScore => (score.gameId : Int) = gameId) (·.id) db.scores
      db'.scores := by
  obtain ⟨hfind, hof⟩ := Option.filter_eq_some_iff.mp hg
  have hmem := List.mem_of_find?_eq_some hfind
  have hgid := MatchTables.id_of_fetchGame hfind
  obtain ⟨hshown, hshown'⟩ := shown_of_fetchMatch h hm (of_decide_eq_true hof)
  refine ⟨db.scores_nodup, db'.scores_nodup, fun score hscore => ?_⟩
  have hsid : (score.gameId : Int) = gameId := of_decide_eq_true hscore
  have hid : score.gameId = g.id := by omega
  apply h.scores score
  · rw [hid]
    exact MatchTables.not_hasHiddenGame hmem hshown
  · rw [hid]
    exact MatchTables.not_hasHiddenGame ((h.games g hshown hshown').mp hmem) hshown'

theorem select_all {α ν : Type} [LinearOrder ν] {p : α → Bool} {value : α → ν} {key : α → Nat}
    {rows : List α} {limit : Nat} (h : rows.length ≤ limit) :
    select p value key limit rows = (rows.filter p).mergeSort (before value key) := by
  apply List.take_of_length_le
  rw [List.length_mergeSort]
  exact (List.length_filter_le p rows).trans h

theorem fetchScoresForGame_same {gameId : Int}
    (h : Agree (fun score : MpMatchGameScore => (score.gameId : Int) = gameId) (·.id) db.scores
      db'.scores) :
    db.fetchScoresForGame gameId = db'.fetchScoresForGame gameId := by
  -- a limit that holds both tables
  let p := fun score : MpMatchGameScore => decide ((score.gameId : Int) = gameId)
  let placement := fun score : MpMatchGameScore => OrderDual.toDual score.placement
  let limit := max db.scores.length db'.scores.length
  have hall : select p placement (·.id) limit db.scores =
      select p placement (·.id) limit db'.scores := h.select limit
  unfold MatchTables.fetchScoresForGame
  rw [select_all (Nat.le_refl _), select_all (Nat.le_refl _)]
  rwa [select_all (Nat.le_max_left _ _), select_all (Nat.le_max_right _ _)] at hall

theorem fetchGameScores_same (h : db.SameBut viewerId db') (matchId gameId : Int) :
    MatchHistory.fetchGameScores db viewerId false matchId gameId =
      MatchHistory.fetchGameScores db' viewerId false matchId gameId := by
  have hmatch := fetchMatch_same h matchId
  unfold MatchHistory.fetchMatch at hmatch
  unfold MatchHistory.fetchGameScores
  rw [← hmatch]
  cases hm : (db.fetchMatch matchId).filter fun m => m.isVisibleTo viewerId false with
  | none => rfl
  | some m =>
    have hgame : (db.fetchGame gameId).filter (fun g => (g.matchId : Int) = matchId) =
        (db'.fetchGame gameId).filter fun g => (g.matchId : Int) = matchId := by
      apply (agree_games h hm).find?_filter
      intro a b ha hb
      simp only [decide_eq_true_eq] at ha hb
      omega
    simp only [← hgame]
    cases hg : (db.fetchGame gameId).filter fun g => (g.matchId : Int) = matchId with
    | none => rfl
    | some g => exact congrArg some (fetchScoresForGame_same (agree_scores h hm hg))

-- What a viewer who is not staff is shown.
structure MatchTables.ShowsSame (db db' : MatchTables) (viewerId : Option Nat) : Prop where
  recent : ∀ beforeId limit, MatchHistory.fetchRecentMatches db beforeId limit =
    MatchHistory.fetchRecentMatches db' beforeId limit
  one : ∀ matchId, MatchHistory.fetchMatch db viewerId false matchId =
    MatchHistory.fetchMatch db' viewerId false matchId
  games : ∀ matchId beforeId limit,
    MatchHistory.fetchGames db viewerId false matchId beforeId limit =
      MatchHistory.fetchGames db' viewerId false matchId beforeId limit
  scores : ∀ matchId gameId, MatchHistory.fetchGameScores db viewerId false matchId gameId =
    MatchHistory.fetchGameScores db' viewerId false matchId gameId

-- A private match changes nothing that anyone but its host is shown.
theorem showsSame_of_sameBut {db db' : MatchTables} {viewerId : Option Nat}
    (h : db.SameBut viewerId db') : db.ShowsSame db' viewerId where
  recent := fetchRecentMatches_same h
  one := fetchMatch_same h
  games := fetchGames_same h
  scores := fetchGameScores_same h

def privateMatch : MpMatch :=
  { id := 7, name := "scrim", hostId := 3, hasPublicHistory := false, createdAt := 1700000000,
    disbandedAt := none }

def privateGame : MpMatchGame :=
  { id := 5, matchId := 7, mapMd5 := "m", mapId := 1, mapName := "a - b [c]", mode := 0, mods := 0,
    winCondition := 0, teamType := 0, freemods := false, scrim := true, participantCount := 2,
    participants := [3, 4], startedAt := 1700000100, endedAt := some 1700000200 }

def noHistory : MatchTables where
  matches_ := []
  games := []
  scores := []
  matches_nodup := by decide
  games_nodup := by decide
  scores_nodup := by decide

def onePrivate : MatchTables where
  matches_ := [privateMatch]
  games := [privateGame]
  scores := []
  matches_nodup := by decide
  games_nodup := by decide
  scores_nodup := by decide

theorem showsSame_of_sameBut_onePrivate : noHistory.ShowsSame onePrivate (some 4) := by
  apply showsSame_of_sameBut
  constructor
  · intro m hm
    have hne : m ≠ privateMatch := by
      rintro rfl
      exact absurd hm (by decide)
    simp [noHistory, onePrivate, hne]
  · intro g hg hg'
    have hne : g ≠ privateGame := by
      rintro rfl
      exact hg' ⟨privateMatch, List.mem_singleton_self _, rfl, by decide⟩
    simp [noHistory, onePrivate, hne]
  · intro score hs hs'
    simp [noHistory, onePrivate]

end Secrecy

end BanchoPrism.Listings
