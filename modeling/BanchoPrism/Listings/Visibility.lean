import BanchoPrism.Listings.Queries

namespace BanchoPrism.Listings

open Library Database

-- Two databases that differ in the score rows of a user only.
structure Database.SameBut (h : Nat) (db db' : Database) : Prop where
  users : db'.users = db.users
  clans : db'.clans = db.clans
  scores : ∀ row : ScoreRow, row.userid ≠ h → (row ∈ db.scores ↔ row ∈ db'.scores)

-- The user lacks the privilege that makes scores public.
def Database.Hidden (db : Database) (h : Nat) : Prop :=
  ∀ user, db.users h = some user → user.priv.has Privileges.UNRESTRICTED = false

section Visibility

variable {db db' : Database} {h : Nat}

theorem Database.SameBut.agree (hsame : db.SameBut h db') {p : ScoreRow → Bool}
    (hp : ∀ row, p row → row.userid ≠ h) : Agree p (·.id) db.scores db'.scores where
  keys := db.ids_nodup
  keys' := db'.ids_nodup
  rows row hrow := hsame.scores row (hp row hrow)

theorem owner_same (hsame : db.SameBut h db') (cond : UserRow → Bool) :
    db'.owner cond = db.owner cond := by
  unfold Database.owner
  rw [hsame.users]

-- No score of the hidden user passes the filter of the public queries.
theorem ne_of_unrestricted (hhidden : db.Hidden h) {row : ScoreRow}
    (hrow : db.owner unrestricted row) : row.userid ≠ h := by
  rintro rfl
  unfold Database.owner at hrow
  cases huser : db.users row.userid with
  | none =>
    rw [huser] at hrow
    cases hrow
  | some user =>
    rw [huser, Option.any_some, unrestricted, hhidden user huser] at hrow
    cases hrow

theorem isAbove_same (hsame : db.SameBut h db') (mapMd5 : String) (mode : Nat)
    (metric : ScoringMetric) (value : ℚ) :
    db'.isAbove mapMd5 mode metric value = db.isAbove mapMd5 mode metric value := by
  funext row
  simp only [Database.isAbove, owner_same hsame]

theorem countP_isAbove (hsame : db.SameBut h db') (hhidden : db.Hidden h) (mapMd5 : String)
    (mode : Nat) (metric : ScoringMetric) (value : ℚ) :
    db.scores.countP (db.isAbove mapMd5 mode metric value) =
      db'.scores.countP (db'.isAbove mapMd5 mode metric value) := by
  rw [isAbove_same hsame]
  refine (hsame.agree fun row hrow => ?_).countP
  simp only [Database.isAbove, Bool.and_eq_true] at hrow
  exact ne_of_unrestricted hhidden hrow.1.2

theorem fetchFirstPlaceScore_same (hsame : db.SameBut h db') (hhidden : db.Hidden h)
    (mapMd5 : String) (mode : Nat) (metric : ScoringMetric) :
    db.fetchFirstPlaceScore mapMd5 mode metric = db'.fetchFirstPlaceScore mapMd5 mode metric := by
  unfold Database.fetchFirstPlaceScore
  rw [owner_same hsame, hsame.users]
  have hagree := hsame.agree (p := fun row => row.isBestOn mapMd5 mode && db.owner unrestricted row)
    fun row hrow => ne_of_unrestricted hhidden (Bool.and_eq_true_iff.mp hrow).2
  rw [hagree.select]

theorem displayName_same (hsame : db.SameBut h db') (user : UserRow) :
    db'.displayName user = db.displayName user := by
  unfold Database.displayName
  rw [hsame.clans]

theorem beatmapLeaderboardScoreRow_same (hsame : db.SameBut h db') (metric : ScoringMetric) :
    db'.beatmapLeaderboardScoreRow metric = db.beatmapLeaderboardScoreRow metric := by
  funext row
  simp only [Database.beatmapLeaderboardScoreRow, hsame.users, displayName_same hsame]

theorem fetchBeatmapLeaderboardScores_same (hsame : db.SameBut h db') (hhidden : db.Hidden h)
    {userId : Nat} (hviewer : userId ≠ h) (mapMd5 : String) (mode : Nat) (metric : ScoringMetric)
    (mods : Option Mods) (friendIds : Option (Finset Nat)) (country : Option String)
    (limit : Nat) :
    db.fetchBeatmapLeaderboardScores mapMd5 mode userId metric mods friendIds country limit =
      db'.fetchBeatmapLeaderboardScores mapMd5 mode userId metric mods friendIds country
        limit := by
  unfold Database.fetchBeatmapLeaderboardScores
  simp only [owner_same hsame, beatmapLeaderboardScoreRow_same hsame]
  rw [(hsame.agree fun row hrow => ?_).select]
  simp only [Bool.and_eq_true, Bool.or_eq_true] at hrow
  obtain ⟨⟨⟨⟨-, hvisible⟩, -⟩, -⟩, -⟩ := hrow
  -- the row is public, or the viewer's own
  rcases hvisible with hpublic | hown
  · exact ne_of_unrestricted hhidden hpublic
  · have hid : row.userid = userId := by
      unfold Database.owner at hown
      cases huser : db.users row.userid with
      | none =>
        rw [huser] at hown
        cases hown
      | some user =>
        rw [huser] at hown
        exact of_decide_eq_true hown
    rw [hid]
    exact hviewer

theorem fetchPersonalBestLeaderboardScore_same (hsame : db.SameBut h db') {userId : Nat}
    (hviewer : userId ≠ h) (mapMd5 : String) (mode : Nat) (metric : ScoringMetric) :
    db.fetchPersonalBestLeaderboardScore mapMd5 mode userId metric =
      db'.fetchPersonalBestLeaderboardScore mapMd5 mode userId metric := by
  unfold Database.fetchPersonalBestLeaderboardScore
  rw [(hsame.agree fun row hrow => ?_).select]
  have hid : row.userid = userId := of_decide_eq_true (Bool.and_eq_true_iff.mp hrow).2
  rw [hid]
  exact hviewer

theorem fetchPersonalBestLeaderboardRank_same (hsame : db.SameBut h db') (hhidden : db.Hidden h)
    (mapMd5 : String) (mode : Nat) (metric : ScoringMetric) (score : ℚ) :
    db.fetchPersonalBestLeaderboardRank mapMd5 mode metric score =
      db'.fetchPersonalBestLeaderboardRank mapMd5 mode metric score :=
  congrArg (· + 1) (countP_isAbove hsame hhidden mapMd5 mode metric score)

theorem fetchLeaderboardScores_same (hsame : db.SameBut h db') (hhidden : db.Hidden h)
    {player : Viewer} (hviewer : player.id ≠ h) (leaderboardType : Int) (mapMd5 : String)
    (mode : Nat) (mods : Mods) (metric : ScoringMetric) :
    db.fetchLeaderboardScores leaderboardType mapMd5 mode mods player metric =
      db'.fetchLeaderboardScores leaderboardType mapMd5 mode mods player metric := by
  unfold Database.fetchLeaderboardScores
  simp only [fetchBeatmapLeaderboardScores_same hsame hhidden hviewer,
    fetchPersonalBestLeaderboardScore_same hsame hviewer,
    fetchPersonalBestLeaderboardRank_same hsame hhidden]

theorem fetchMapScoreListingRows_same (hsame : db.SameBut h db') (hhidden : db.Hidden h)
    (mapMd5 : String) (mode : Nat) (mods : Option Mods) (strongModsEquality : Bool)
    (scope : Scope) (limit : Nat) :
    db.fetchMapScoreListingRows mapMd5 mode mods strongModsEquality scope limit =
      db'.fetchMapScoreListingRows mapMd5 mode mods strongModsEquality scope limit := by
  have hrows : db'.mapScoreListingRow = db.mapScoreListingRow := by
    funext row
    simp only [Database.mapScoreListingRow, hsame.users, hsame.clans]
  unfold Database.fetchMapScoreListingRows
  simp only [owner_same hsame, hrows]
  rw [(hsame.agree fun row hrow => ?_).select]
  simp only [Bool.and_eq_true] at hrow
  exact ne_of_unrestricted hhidden hrow.1.2

theorem calculatePlacement_same (hsame : db.SameBut h db') (hhidden : db.Hidden h)
    (mapMd5 : String) (mode : GameMode) (pp : ℚ) (score : Int) :
    db.calculatePlacement mapMd5 mode pp score = db'.calculatePlacement mapMd5 mode pp score := by
  unfold Database.calculatePlacement
  rw [countP_isAbove hsame hhidden, countP_isAbove hsame hhidden]

end Visibility

section Theorems

-- What a viewer is shown of the scores of a map.
structure Database.ShowsSame (db db' : Database) (player : Viewer) : Prop where
  leaderboard : ∀ leaderboardType mapMd5 mode mods metric,
    db.fetchLeaderboardScores leaderboardType mapMd5 mode mods player metric =
      db'.fetchLeaderboardScores leaderboardType mapMd5 mode mods player metric
  listing : ∀ mapMd5 mode mods strongModsEquality scope limit,
    db.fetchMapScoreListingRows mapMd5 mode mods strongModsEquality scope limit =
      db'.fetchMapScoreListingRows mapMd5 mode mods strongModsEquality scope limit
  firstPlace : ∀ mapMd5 mode metric,
    db.fetchFirstPlaceScore mapMd5 mode metric = db'.fetchFirstPlaceScore mapMd5 mode metric
  placement : ∀ mapMd5 mode pp score,
    db.calculatePlacement mapMd5 mode pp score = db'.calculatePlacement mapMd5 mode pp score

-- The score rows of a hidden user change nothing that anyone else is shown.
theorem showsSame_of_hidden {db db' : Database} {h : Nat} (hsame : db.SameBut h db')
    (hhidden : db.Hidden h) {player : Viewer} (hviewer : player.id ≠ h) :
    db.ShowsSame db' player where
  leaderboard := fetchLeaderboardScores_same hsame hhidden hviewer
  listing := fetchMapScoreListingRows_same hsame hhidden
  firstPlace := fetchFirstPlaceScore_same hsame hhidden
  placement := calculatePlacement_same hsame hhidden

-- A map with a score of a public user and one of a restricted user, which is higher.
def publicScore : ScoreRow :=
  { id := 1, mapMd5 := "m", score := 500000, pp := 50, acc := 95, maxCombo := 300, mods := 0,
    n300 := 290, n100 := 10, n50 := 0, nmiss := 0, ngeki := 0, nkatu := 0, grade := "A", status := 2,
    mode := 0, playTime := 1700000000, timeElapsed := 60, userid := 1, perfect := false }

def hiddenScore : ScoreRow :=
  { publicScore with id := 2, score := 900000, userid := 2 }

def oneHidden (rows : List ScoreRow) (h : (rows.map (·.id)).Nodup) : Database where
  scores := rows
  users id :=
    if id = 1 then some { name := "peppy", country := "au", priv := 3, clanId := 0 }
    else if id = 2 then some { name := "cookiezi", country := "kr", priv := 2, clanId := 0 }
    else none
  clans _ := none
  ids_nodup := h

theorem showsSame_of_hidden_oneHidden :
    (oneHidden [publicScore] (by decide)).ShowsSame (oneHidden [publicScore, hiddenScore] (by decide))
      { id := 1, friends := {2}, country := "kr" } := by
  have hsame : (oneHidden [publicScore] (by decide)).SameBut 2
      (oneHidden [publicScore, hiddenScore] (by decide)) := by
    refine ⟨rfl, rfl, fun row hrow => ?_⟩
    have hne : row ≠ hiddenScore := by
      rintro rfl
      exact hrow rfl
    simp [oneHidden, hne]
  have hhidden : (oneHidden [publicScore] (by decide)).Hidden 2 := by
    intro user huser
    cases huser
    rfl
  exact showsSame_of_hidden hsame hhidden (by decide)

end Theorems

end BanchoPrism.Listings
