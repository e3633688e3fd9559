import BanchoPrism.Constants.GameMode
import BanchoPrism.Constants.Privileges
import BanchoPrism.Library.Select
import Mathlib.Algebra.Order.Ring.Rat
import Mathlib.Data.Finset.Basic

namespace BanchoPrism.Listings

open Library

-- The columns of the scores table that the queries read. Floats are rationals.
structure ScoreRow where
  id : Nat
  mapMd5 : String
  score : Int
  pp : ℚ
  acc : ℚ
  maxCombo : Int
  mods : Mods
  n300 : Int
  n100 : Int
  n50 : Int
  nmiss : Int
  ngeki : Int
  nkatu : Int
  grade : String
  status : Nat
  mode : Nat
  -- seconds since the epoch
  playTime : Int
  timeElapsed : Int
  userid : Nat
  perfect : Bool
  deriving DecidableEq

structure UserRow where
  name : String
  country : String
  priv : Privileges
  clanId : Nat

structure ClanRow where
  name : String
  tag : String

structure Database where
  scores : List ScoreRow
  -- by primary key
  users : Nat → Option UserRow
  clans : Nat → Option ClanRow
  ids_nodup : (scores.map (·.id)).Nodup

-- SubmissionStatus.BEST
def BEST : Nat := 2

inductive ScoringMetric
  | pp
  | score
  deriving DecidableEq

def ScoreRow.leaderboardValue (row : ScoreRow) : ScoringMetric → ℚ
  | .pp => row.pp
  | .score => row.score

-- The WHERE clause of a map's best scores in a mode.
def ScoreRow.isBestOn (mapMd5 : String) (mode : Nat) (row : ScoreRow) : Bool :=
  row.mapMd5 = mapMd5 && row.mode = mode && row.status = BEST

namespace Database

-- The join on the users table, with a condition on the user.
def owner (db : Database) (cond : UserRow → Bool) (row : ScoreRow) : Bool :=
  (db.users row.userid).any cond

def unrestricted (user : UserRow) : Bool := user.priv.has Privileges.UNRESTRICTED

structure FirstPlaceScore where
  id : Nat
  name : String
  deriving DecidableEq

def fetchFirstPlaceScore (db : Database) (mapMd5 : String) (mode : Nat) (metric : ScoringMetric) :
    Option FirstPlaceScore :=
  let rows := select (fun row => row.isBestOn mapMd5 mode && db.owner unrestricted row)
    (·.leaderboardValue metric) (·.id) 1 db.scores
  rows.head?.bind fun row =>
    (db.users row.userid).map fun user => { id := row.userid, name := user.name }

structure BeatmapLeaderboardScoreRow where
  id : Nat
  leaderboardValue : ℚ
  maxCombo : Int
  n50 : Int
  n100 : Int
  n300 : Int
  nmiss : Int
  nkatu : Int
  ngeki : Int
  perfect : Bool
  mods : Mods
  time : Int
  userid : Nat
  name : String
  deriving DecidableEq

-- COALESCE(CONCAT("[", tag, "] ", name), name)
def displayName (db : Database) (user : UserRow) : String :=
  match db.clans user.clanId with
  | some clan => "[" ++ clan.tag ++ "] " ++ user.name
  | none => user.name

def beatmapLeaderboardScoreRow (db : Database) (metric : ScoringMetric) (row : ScoreRow) :
    Option BeatmapLeaderboardScoreRow :=
  (db.users row.userid).map fun user =>
    { id := row.id
      leaderboardValue := row.leaderboardValue metric
      maxCombo := row.maxCombo
      n50 := row.n50
      n100 := row.n100
      n300 := row.n300
      nmiss := row.nmiss
      nkatu := row.nkatu
      ngeki := row.ngeki
      perfect := row.perfect
      mods := row.mods
      time := row.playTime
      userid := row.userid
      name := db.displayName user }

-- A condition that is only there when its value is.
def given {α : Type} (cond : α → Bool) : Option α → Bool
  | none => true
  | some a => cond a

def fetchBeatmapLeaderboardScores (db : Database) (mapMd5 : String) (mode userId : Nat)
    (metric : ScoringMetric) (mods : Option Mods) (friendIds : Option (Finset Nat))
    (country : Option String) (limit : Nat) : List BeatmapLeaderboardScoreRow :=
  let rows := select
    (fun row =>
      row.isBestOn mapMd5 mode &&
        (db.owner unrestricted row || db.owner (fun _ => row.userid = userId) row) &&
        given (fun mods => row.mods = mods) mods &&
        given (fun friendIds => row.userid ∈ friendIds) friendIds &&
        given (fun country => db.owner (fun user => user.country = country) row) country)
    (·.leaderboardValue metric) (·.id) limit db.scores
  rows.filterMap (db.beatmapLeaderboardScoreRow metric)

structure PersonalBestLeaderboardScoreRow where
  id : Nat
  leaderboardValue : ℚ
  maxCombo : Int
  n50 : Int
  n100 : Int
  n300 : Int
  nmiss : Int
  nkatu : Int
  ngeki : Int
  perfect : Bool
  mods : Mods
  time : Int
  deriving DecidableEq

def personalBestLeaderboardScoreRow (metric : ScoringMetric) (row : ScoreRow) :
    PersonalBestLeaderboardScoreRow :=
  { id := row.id
    leaderboardValue := row.leaderboardValue metric
    maxCombo := row.maxCombo
    n50 := row.n50
    n100 := row.n100
    n300 := row.n300
    nmiss := row.nmiss
    nkatu := row.nkatu
    ngeki := row.ngeki
    perfect := row.perfect
    mods := row.mods
    time := row.playTime }

def fetchPersonalBestLeaderboardScore (db : Database) (mapMd5 : String) (mode userId : Nat)
    (metric : ScoringMetric) : Option PersonalBestLeaderboardScoreRow :=
  let rows := select (fun row => row.isBestOn mapMd5 mode && row.userid = userId)
    (·.leaderboardValue metric) (·.id) 1 db.scores
  rows.head?.map (personalBestLeaderboardScoreRow metric)

-- The WHERE clause of the two queries that count the scores above a value.
def isAbove (db : Database) (mapMd5 : String) (mode : Nat) (metric : ScoringMetric) (value : ℚ)
    (row : ScoreRow) : Bool :=
  row.isBestOn mapMd5 mode && db.owner unrestricted row && value < row.leaderboardValue metric

def fetchPersonalBestLeaderboardRank (db : Database) (mapMd5 : String) (mode : Nat)
    (metric : ScoringMetric) (score : ℚ) : Nat :=
  db.scores.countP (db.isAbove mapMd5 mode metric score) + 1

structure MapScoreListingRow where
  row : ScoreRow
  playerName : String
  playerCountry : String
  clan : Option (Nat × String × String)
  deriving DecidableEq

def mapScoreListingRow (db : Database) (row : ScoreRow) : Option MapScoreListingRow :=
  (db.users row.userid).map fun user =>
    { row := row
      playerName := user.name
      playerCountry := user.country
      clan := (db.clans user.clanId).map fun clan => (user.clanId, clan.name, clan.tag) }

inductive Scope
  | best
  | recent
  deriving DecidableEq

def modsMatch (strongModsEquality : Bool) (row : ScoreRow) (mods : Mods) : Bool :=
  if strongModsEquality then row.mods &&& mods = mods else row.mods &&& mods ≠ 0

-- The column that the listing is sorted by.
def sortColumn (scope : Scope) (mode : Nat) (row : ScoreRow) : ℚ :=
  match scope with
  | .best => if 4 ≤ mode then row.pp else row.score
  | .recent => row.playTime

def fetchMapScoreListingRows (db : Database) (mapMd5 : String) (mode : Nat) (mods : Option Mods)
    (strongModsEquality : Bool) (scope : Scope) (limit : Nat) : List MapScoreListingRow :=
  let rows := select
    (fun row =>
      row.isBestOn mapMd5 mode && db.owner unrestricted row &&
        given (modsMatch strongModsEquality row) mods)
    (sortColumn scope mode) (·.id) limit db.scores
  rows.filterMap db.mapScoreListingRow

-- Score.calculate_placement
def calculatePlacement (db : Database) (mapMd5 : String) (mode : GameMode) (pp : ℚ) (score : Int) :
    Nat :=
  if mode.rankedByPp then
    db.scores.countP (db.isAbove mapMd5 mode.value .pp pp) + 1
  else db.scores.countP (db.isAbove mapMd5 mode.value .score score) + 1

end Database

inductive LeaderboardType
  | Local
  | Top
  | Mods
  | Friends
  | Country
  deriving DecidableEq

def LeaderboardType.value : LeaderboardType → Int
  | Local => 0
  | Top => 1
  | Mods => 2
  | Friends => 3
  | Country => 4

-- What fetch_leaderboard_scores reads of the player who asks.
structure Viewer where
  id : Nat
  friends : Finset Nat
  country : String

structure LeaderboardScores where
  scoreRows : List Database.BeatmapLeaderboardScoreRow
  -- with its rank
  personalBestScoreRow : Option (Database.PersonalBestLeaderboardScoreRow × Nat)
  deriving DecidableEq

-- A leaderboard type is any number.
def Database.fetchLeaderboardScores (db : Database) (leaderboardType : Int) (mapMd5 : String)
    (mode : Nat) (mods : BanchoPrism.Mods) (player : Viewer) (metric : ScoringMetric) :
    LeaderboardScores :=
  let modsFilter := if leaderboardType = LeaderboardType.Mods.value then some mods else none
  let friendIds :=
    if leaderboardType = LeaderboardType.Friends.value then some (insert player.id player.friends)
    else none
  let country :=
    if leaderboardType = LeaderboardType.Country.value then some player.country else none
  let scoreRows := db.fetchBeatmapLeaderboardScores mapMd5 mode player.id metric modsFilter
    friendIds country 50
  if scoreRows.isEmpty then { scoreRows := [], personalBestScoreRow := none }
  else
    { scoreRows := scoreRows
      personalBestScoreRow :=
        (db.fetchPersonalBestLeaderboardScore mapMd5 mode player.id metric).map fun best =>
          (best, db.fetchPersonalBestLeaderboardRank mapMd5 mode metric best.leaderboardValue) }

end BanchoPrism.Listings
