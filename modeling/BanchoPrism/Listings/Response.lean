import BanchoPrism.Clans.Service
import BanchoPrism.Library.Fields
import BanchoPrism.Library.Floats
import BanchoPrism.Library.Json
import BanchoPrism.Library.Run
import BanchoPrism.Listings.Modes

namespace BanchoPrism.Listings

open Library

-- A str, as its characters.
abbrev Str : Type := List Char

-- str(x) of a float, which writes no vertical bar and no newline.
structure FloatText where
  repr : ℚ → Str
  plain : ∀ q, '\n' ∉ repr q ∧ '|' ∉ repr q

structure LeaderboardBeatmap where
  md5 : String
  -- RankedStatus, as an int
  status : Int
  id : Nat
  setId : Nat
  artist : String
  title : String
  version : String

def LeaderboardBeatmap.fullName (bmap : LeaderboardBeatmap) : String :=
  bmap.artist ++ " - " ++ bmap.title ++ " [" ++ bmap.version ++ "]"

-- RankedStatus.Ranked
def RANKED : Int := 2

-- The player who asks, as the session has them.
structure LeaderboardPlayer extends Viewer where
  name : String
  clanId : Option Nat

structure BeatmapLeaderboardRequest where
  requestingFromEditorSongSelect : Bool
  leaderboardType : Int
  modeArg : Nat
  modsArg : Mods

structure BeatmapLeaderboardResult where
  rankedStatus : Int
  beatmapId : Nat
  beatmapSetId : Nat
  beatmapName : String
  beatmapRating : ℚ
  scoreRows : List Database.BeatmapLeaderboardScoreRow
  -- with its rank
  personalBestScoreRow : Option (Database.PersonalBestLeaderboardScoreRow × Nat)
  personalBestUserId : Option Nat
  personalBestDisplayName : Option String

-- _fetch_map_rating_average
def ratingAverage (ratings : List Nat) : ℚ :=
  if ratings = [] then 0 else (ratings.sum : ℚ) / ratings.length

-- The name of the player who asks, with the tag of their clan.
def Database.personalBestDisplayName (db : Database) (player : LeaderboardPlayer) : String :=
  match player.clanId.bind db.clans with
  | some clan => "[" ++ clan.tag ++ "] " ++ player.name
  | none => player.name

-- The scores that a request is for: none from the song select of the editor.
def Database.requestedScores (db : Database) (bmap : LeaderboardBeatmap)
    (player : LeaderboardPlayer) (request : BeatmapLeaderboardRequest) (mode : GameMode)
    (mods : Mods) : LeaderboardScores :=
  let scoringMetric : ScoringMetric := if mode.rankedByPp then .pp else .score
  if request.requestingFromEditorSongSelect then { scoreRows := [], personalBestScoreRow := none }
  else
    db.fetchLeaderboardScores request.leaderboardType bmap.md5 mode.value mods player.toViewer
      scoringMetric

-- fetch_leaderboard, where the beatmap was found and its ratings read; none where it has no
-- leaderboard, or the mode is no GameMode.
def Database.fetchLeaderboard (db : Database) (ratings : List Nat) (bmap : LeaderboardBeatmap)
    (player : LeaderboardPlayer) (request : BeatmapLeaderboardRequest) :
    Option BeatmapLeaderboardResult := do
  let (mode, mods) ← resolveScoreQueryModeAndMods request.modeArg request.modsArg
  if bmap.status < RANKED then none
  else
    let leaderboardScores := db.requestedScores bmap player request mode mods
    some
      { rankedStatus := bmap.status
        beatmapId := bmap.id
        beatmapSetId := bmap.setId
        beatmapName := bmap.fullName
        beatmapRating := ratingAverage ratings
        scoreRows := leaderboardScores.scoreRows
        personalBestScoreRow := leaderboardScores.personalBestScoreRow
        personalBestUserId := leaderboardScores.personalBestScoreRow.map fun _ => player.id
        personalBestDisplayName := leaderboardScores.personalBestScoreRow.map fun _ =>
          db.personalBestDisplayName player }

def writeNat (n : Nat) : Str := Nat.toDigits 10 n

-- The fields of SCORE_LISTING_FMTSTR.
structure ScoreListing where
  id : Nat
  name : String
  leaderboardValue : ℚ
  maxCombo : Int
  n50 : Int
  n100 : Int
  n300 : Int
  nmiss : Int
  nkatu : Int
  ngeki : Int
  perfect : Bool
  mods : Mods
  userid : Nat
  rank : Nat
  time : Int

def ScoreListing.fields (listing : ScoreListing) : List Str :=
  [writeNat listing.id, listing.name.toList,
    -- int(round(leaderboard_value))
    Json.writeInt (roundEven listing.leaderboardValue),
    Json.writeInt listing.maxCombo, Json.writeInt listing.n50, Json.writeInt listing.n100,
    Json.writeInt listing.n300, Json.writeInt listing.nmiss, Json.writeInt listing.nkatu,
    Json.writeInt listing.ngeki,
    if listing.perfect then ['1'] else ['0'],
    writeNat listing.mods, writeNat listing.userid, writeNat listing.rank,
    Json.writeInt listing.time,
    -- has_replay
    ['1']]

def ScoreListing.format (listing : ScoreListing) : Str := ['|'].intercalate listing.fields

def Database.BeatmapLeaderboardScoreRow.listing (row : Database.BeatmapLeaderboardScoreRow)
    (rank : Nat) : ScoreListing :=
  { id := row.id
    name := row.name
    leaderboardValue := row.leaderboardValue
    maxCombo := row.maxCombo
    n50 := row.n50
    n100 := row.n100
    n300 := row.n300
    nmiss := row.nmiss
    nkatu := row.nkatu
    ngeki := row.ngeki
    perfect := row.perfect
    mods := row.mods
    userid := row.userid
    rank := rank
    time := row.time }

def Database.PersonalBestLeaderboardScoreRow.listing
    (row : Database.PersonalBestLeaderboardScoreRow) (name : String) (userid rank : Nat) :
    ScoreListing :=
  { id := row.id
    name := name
    leaderboardValue := row.leaderboardValue
    maxCombo := row.maxCombo
    n50 := row.n50
    n100 := row.n100
    n300 := row.n300
    nmiss := row.nmiss
    nkatu := row.nkatu
    ngeki := row.ngeki
    perfect := row.perfect
    mods := row.mods
    userid := userid
    rank := rank
    time := row.time }

def formatScoreListing (row : Database.BeatmapLeaderboardScoreRow) (rank : Nat) : Str :=
  (row.listing rank).format

section Response

variable (floats : FloatText) (leaderboard : BeatmapLeaderboardResult)

def BeatmapLeaderboardResult.headerFields : List Str :=
  [Json.writeInt leaderboard.rankedStatus, "false".toList, writeNat leaderboard.beatmapId,
    writeNat leaderboard.beatmapSetId, writeNat leaderboard.scoreRows.length, ['0'], []]

-- The line of the personal best, an empty one without; none is an AssertionError.
def BeatmapLeaderboardResult.personalBestLine : Option Str :=
  match leaderboard.personalBestScoreRow with
  | none => some []
  | some (row, rank) => do
      let name ← leaderboard.personalBestDisplayName
      let userid ← leaderboard.personalBestUserId
      (row.listing name userid rank).format

-- format_scores_response, before it is encoded
def formatScoresResponse : Option Str :=
  let responseLines : List Str :=
    [['|'].intercalate leaderboard.headerFields,
      "0\n".toList ++ leaderboard.beatmapName.toList ++ ['\n'] ++
        floats.repr leaderboard.beatmapRating]
  if leaderboard.scoreRows = [] then
    -- no scores, no personal best
    some (['\n'].intercalate (responseLines ++ [[], []]))
  else do
    let personalBestLine ← leaderboard.personalBestLine
    ['\n'].intercalate (responseLines ++ [personalBestLine] ++
      leaderboard.scoreRows.zipIdx.map fun (row, idx) => formatScoreListing row (idx + 1))

-- The fields that the response is for: of the personal best one empty field, if there is none.
def BeatmapLeaderboardResult.personalBestFields : List Str :=
  match leaderboard.personalBestScoreRow, leaderboard.personalBestDisplayName,
    leaderboard.personalBestUserId with
  | some (row, rank), some name, some userid => (row.listing name userid rank).fields
  | _, _, _ => [[]]

def BeatmapLeaderboardResult.table : List (List Str) :=
  [leaderboard.headerFields, [['0']], [leaderboard.beatmapName.toList],
    [floats.repr leaderboard.beatmapRating], leaderboard.personalBestFields] ++
  leaderboard.scoreRows.zipIdx.map fun (row, idx) => (row.listing (idx + 1)).fields

-- A response without scores ends in a newline, with nothing behind it.
def BeatmapLeaderboardResult.ending : List (List Str) :=
  if leaderboard.scoreRows = [] then [[[]]] else []

-- Split at newlines and then at vertical bars, the response gives back what it is for.
def BeatmapLeaderboardResult.Unforged : Prop :=
  ∃ text, formatScoresResponse floats leaderboard = some text ∧
    decodeTable '\n' '|' text = leaderboard.table floats ++ leaderboard.ending

end Response

def Plain (text : Str) : Prop := '\n' ∉ text ∧ '|' ∉ text

-- No name that is shown has a newline or a vertical bar.
structure BeatmapLeaderboardResult.PlainNames (leaderboard : BeatmapLeaderboardResult) : Prop where
  beatmap : Plain leaderboard.beatmapName.toList
  rows : ∀ row ∈ leaderboard.scoreRows, Plain row.name.toList
  personalBest : ∀ name ∈ leaderboard.personalBestDisplayName, Plain name.toList

section Fields

theorem plain_writeNat (n : Nat) : Plain (writeNat n) := by
  have hdigit : ∀ c ∈ writeNat n, c.isDigit = true := fun c hc => Json.isDigit_of_mem_toDigits hc
  exact ⟨fun h => absurd (hdigit _ h) (by decide), fun h => absurd (hdigit _ h) (by decide)⟩

theorem plain_writeInt (n : Int) : Plain (Json.writeInt n) := by
  have hplain := plain_writeNat n.natAbs
  unfold Json.writeInt
  split
  · refine ⟨fun h => ?_, fun h => ?_⟩
    · exact hplain.1 ((List.mem_cons.mp h).resolve_left (by decide))
    · exact hplain.2 ((List.mem_cons.mp h).resolve_left (by decide))
  · exact hplain

-- Of a listing only the name can have one of the two characters.
theorem plain_fields_iff (listing : ScoreListing) :
    (∀ text ∈ listing.fields, Plain text) ↔ Plain listing.name.toList := by
  have hperfect : Plain (if listing.perfect then ['1'] else ['0']) := by
    split <;> simp [Plain]
  have hreplay : Plain ['1'] := by simp [Plain]
  simp only [ScoreListing.fields, List.forall_mem_cons, plain_writeNat, plain_writeInt, hperfect,
    hreplay, List.not_mem_nil, false_implies, implies_true, true_and, and_true]

theorem plain_headerFields (leaderboard : BeatmapLeaderboardResult) :
    ∀ text ∈ leaderboard.headerFields, Plain text := by
  have hfalse : Plain "false".toList := by simp [Plain]
  have hzero : Plain ['0'] := by simp [Plain]
  have hempty : Plain [] := by simp [Plain]
  simp only [BeatmapLeaderboardResult.headerFields, List.forall_mem_cons, plain_writeNat,
    plain_writeInt, hfalse, hzero, hempty, List.not_mem_nil, false_implies, implies_true,
    and_self]

end Fields

section Results

variable {floats : FloatText} {leaderboard : BeatmapLeaderboardResult}

-- What fetch_leaderboard returns: a personal best has its name and its user, and there is none
-- without scores.
structure BeatmapLeaderboardResult.Whole (leaderboard : BeatmapLeaderboardResult) : Prop where
  absent : leaderboard.personalBestScoreRow = none → leaderboard.personalBestDisplayName = none
  named : ∀ best ∈ leaderboard.personalBestScoreRow, ∃ name userid,
    leaderboard.personalBestDisplayName = some name ∧ leaderboard.personalBestUserId = some userid
  empty : leaderboard.scoreRows = [] → leaderboard.personalBestScoreRow = none

theorem fetchLeaderboardScores_empty {db : Database} {type : Int} {mapMd5 : String}
    {mode : Nat} {mods : Mods} {player : Viewer} {metric : ScoringMetric}
    (h : (db.fetchLeaderboardScores type mapMd5 mode mods player metric).scoreRows = []) :
    (db.fetchLeaderboardScores type mapMd5 mode mods player metric).personalBestScoreRow =
      none := by
  unfold Database.fetchLeaderboardScores at h ⊢
  dsimp only at h ⊢
  generalize db.fetchBeatmapLeaderboardScores _ _ _ _ _ _ _ _ = rows at h ⊢
  cases rows with
  | nil => rfl
  | cons row rest => cases h

theorem requestedScores_empty {db : Database} {bmap : LeaderboardBeatmap}
    {player : LeaderboardPlayer} {request : BeatmapLeaderboardRequest} {mode : GameMode}
    {mods : Mods} (h : (db.requestedScores bmap player request mode mods).scoreRows = []) :
    (db.requestedScores bmap player request mode mods).personalBestScoreRow = none := by
  unfold Database.requestedScores at h ⊢
  cases heditor : request.requestingFromEditorSongSelect with
  | true => rfl
  | false =>
    rw [heditor] at h
    exact fetchLeaderboardScores_empty h

theorem fetchLeaderboard_whole {db : Database} {ratings : List Nat} {bmap : LeaderboardBeatmap}
    {player : LeaderboardPlayer} {request : BeatmapLeaderboardRequest}
    (h : db.fetchLeaderboard ratings bmap player request = some leaderboard) :
    leaderboard.Whole := by
  unfold Database.fetchLeaderboard at h
  obtain ⟨⟨mode, mods⟩, -, h⟩ := Option.bind_eq_some_iff.mp h
  dsimp only at h
  split at h
  · cases h
  · cases h
    refine ⟨fun hnone => ?_, fun best hbest => ?_, fun hempty => ?_⟩
    · dsimp only at hnone ⊢
      rw [hnone]
      rfl
    · dsimp only at hbest ⊢
      rw [Option.mem_def.mp hbest]
      exact ⟨_, _, rfl, rfl⟩
    · exact requestedScores_empty hempty

-- The name and the rating are lines of their own.
theorem intercalate_lines (header name rating next : Str) (rest : List Str) :
    ['\n'].intercalate (header :: ("0\n".toList ++ name ++ ['\n'] ++ rating) :: next :: rest) =
      ['\n'].intercalate (header :: ['0'] :: name :: rating :: next :: rest) := by
  have hzero : "0\n".toList = ['0', '\n'] := rfl
  simp only [List.intercalate_cons_cons, hzero, List.append_assoc, List.cons_append,
    List.nil_append]

theorem personalBestLine_eq (h : leaderboard.Whole) : leaderboard.personalBestLine =
    some (['|'].intercalate leaderboard.personalBestFields) := by
  unfold BeatmapLeaderboardResult.personalBestLine BeatmapLeaderboardResult.personalBestFields
  cases hbest : leaderboard.personalBestScoreRow with
  | none => rfl
  | some best =>
    obtain ⟨name, userid, hname, huserid⟩ := h.named best hbest
    rw [hname, huserid]
    rfl

-- The response is the text of its table.
theorem formatScoresResponse_eq (h : leaderboard.Whole) :
    formatScoresResponse floats leaderboard =
      some (encodeTable '\n' '|' (leaderboard.table floats ++ leaderboard.ending)) := by
  unfold formatScoresResponse encodeTable BeatmapLeaderboardResult.table
    BeatmapLeaderboardResult.ending
  by_cases hempty : leaderboard.scoreRows = []
  · have hfields : leaderboard.personalBestFields = [[]] := by
      rw [BeatmapLeaderboardResult.personalBestFields, h.empty hempty]
    rw [if_pos hempty, if_pos hempty, hempty, hfields]
    refine (congrArg some (intercalate_lines _ _ _ [] [[]])).trans ?_
    simp only [List.map_cons, List.cons_append, List.nil_append, List.intercalate_singleton]
    rfl
  · rw [if_neg hempty, if_neg hempty, personalBestLine_eq h, List.append_nil]
    refine (congrArg some (intercalate_lines _ _ _ _ _)).trans ?_
    simp only [List.map_map, List.map_cons, List.cons_append, List.nil_append,
      List.intercalate_singleton]
    rfl

theorem personalBestFields_ne_nil : leaderboard.personalBestFields ≠ [] := by
  unfold BeatmapLeaderboardResult.personalBestFields
  split <;> exact List.cons_ne_nil _ _

theorem plain_personalBestFields_iff (h : leaderboard.Whole) :
    (∀ text ∈ leaderboard.personalBestFields, Plain text) ↔
      ∀ name ∈ leaderboard.personalBestDisplayName, Plain name.toList := by
  unfold BeatmapLeaderboardResult.personalBestFields
  cases hbest : leaderboard.personalBestScoreRow with
  | none => simp [h.absent hbest, Plain]
  | some best =>
    obtain ⟨name, userid, hname, huserid⟩ := h.named best hbest
    rw [hname, huserid]
    simp only [Option.mem_def, Option.some.injEq, forall_eq']
    exact plain_fields_iff (best.1.listing name userid best.2)

theorem plain_rows_iff :
    (∀ fields ∈ leaderboard.scoreRows.zipIdx.map fun (row, idx) => (row.listing (idx + 1)).fields,
        ∀ text ∈ fields, Plain text) ↔ ∀ row ∈ leaderboard.scoreRows, Plain row.name.toList := by
  simp only [List.forall_mem_map]
  constructor
  · intro hall row hrow
    obtain ⟨idx, hidx⟩ := List.mem_iff_getElem?.mp hrow
    have hplain := hall (row, idx) (List.mem_zipIdx_iff_getElem?.mpr hidx)
    exact (plain_fields_iff (row.listing (idx + 1))).mp hplain
  · intro hall entry hentry
    have hrow := List.fst_mem_of_mem_zipIdx hentry
    exact (plain_fields_iff (entry.1.listing (entry.2 + 1))).mpr (hall entry.1 hrow)

theorem plain_table_iff (h : leaderboard.Whole) :
    (∀ row ∈ leaderboard.table floats ++ leaderboard.ending, ∀ text ∈ row, Plain text) ↔
      leaderboard.PlainNames := by
  have hzero : Plain ['0'] := by simp [Plain]
  have hrating : Plain (floats.repr leaderboard.beatmapRating) := floats.plain _
  have hending : ∀ row ∈ leaderboard.ending, ∀ text ∈ row, Plain text := by
    unfold BeatmapLeaderboardResult.ending
    split <;> simp [Plain]
  unfold BeatmapLeaderboardResult.table
  simp only [List.forall_mem_append, List.forall_mem_cons, List.not_mem_nil, false_implies,
    implies_true, and_true, hzero, hrating, plain_personalBestFields_iff h, plain_rows_iff,
    true_and]
  constructor
  · exact fun ⟨⟨⟨_, hbeatmap, hbest⟩, hrows⟩, _⟩ => ⟨hbeatmap, hrows, hbest⟩
  · exact fun hplain => ⟨⟨⟨plain_headerFields leaderboard, hplain.beatmap, hplain.personalBest⟩,
      hplain.rows⟩, hending⟩

-- No line is without a field.
theorem table_ne_nil : ∀ row ∈ leaderboard.table floats ++ leaderboard.ending, row ≠ [] := by
  have hending : ∀ row ∈ leaderboard.ending, row ≠ [] := by
    unfold BeatmapLeaderboardResult.ending
    split <;> simp
  unfold BeatmapLeaderboardResult.table
  simp only [List.forall_mem_append, List.forall_mem_cons, List.forall_mem_map]
  refine ⟨⟨⟨List.cons_ne_nil _ _, List.cons_ne_nil _ _, List.cons_ne_nil _ _, List.cons_ne_nil _ _,
    personalBestFields_ne_nil, ?_⟩, ?_⟩, hending⟩
  · exact fun _ h => by cases h
  · exact fun _ _ => List.cons_ne_nil _ _

theorem unforged_iff (h : leaderboard.Whole) :
    leaderboard.Unforged floats ↔ leaderboard.PlainNames := by
  have hdecode := @decodeTable_encodeTable_iff Char _ '\n' '|' (by decide)
    (leaderboard.table floats ++ leaderboard.ending) (List.cons_ne_nil _ _) table_ne_nil
  unfold BeatmapLeaderboardResult.Unforged
  rw [formatScoresResponse_eq h]
  simp only [Option.some.injEq, exists_eq_left']
  exact hdecode.trans (plain_table_iff h)

-- What fetch_leaderboard returns is given back by its response exactly if no name that is shown has
-- a newline or a vertical bar.
theorem fetchLeaderboard_unforged_iff {db : Database} {ratings : List Nat}
    {bmap : LeaderboardBeatmap} {player : LeaderboardPlayer} {request : BeatmapLeaderboardRequest}
    (h : db.fetchLeaderboard ratings bmap player request = some leaderboard) :
    leaderboard.Unforged floats ↔ leaderboard.PlainNames :=
  unforged_iff (fetchLeaderboard_whole h)

end Results

section Forgeries

def zeroText : FloatText where
  repr := fun _ => ['0', '.', '0']
  plain := fun _ => by decide

-- A player without a clan calls create_clan.
def foundClan (tag : String) : Clans.World :=
  (runFrom (Clans.Calls.step { upper := id, lower := id, collate := id })
    { world := { db := ⟨[⟨3, "cookie", "cookie", Privileges.UNRESTRICTED, 0, 0⟩], [], 1⟩
                 online := fun _ => {} }
      running := [] }
    (.begin (.createClan 3 tag "Tasters" 0) :: List.replicate 5 (.resume 0))).world

-- The tables after that, with a score of the player.
def tastedScore : ScoreRow where
  id := 1
  mapMd5 := "map"
  score := 1000
  pp := 0
  acc := 100
  maxCombo := 1
  mods := 0
  n300 := 1
  n100 := 0
  n50 := 0
  nmiss := 0
  ngeki := 0
  nkatu := 0
  grade := "X"
  status := BEST
  mode := 0
  playTime := 0
  timeElapsed := 1
  userid := 3
  perfect := true

def clanTables (db : Clans.Db) : Database where
  scores := [tastedScore]
  users := fun id =>
    (db.fetchUser id).map fun user => ⟨user.name, "fr", user.priv, user.clanId.toNat⟩
  clans := fun id => (db.fetchClan id).map fun clan => ⟨clan.name, clan.tag⟩
  ids_nodup := List.nodup_singleton _

def tastedMap : LeaderboardBeatmap :=
  { md5 := "map", status := RANKED, id := 75, setId := 1, artist := "artist", title := "title"
    version := "Hard" }

def cookie : LeaderboardPlayer :=
  { id := 3, friends := ∅, country := "fr", name := "cookie", clanId := some 1 }

def localRequest : BeatmapLeaderboardRequest :=
  { requestingFromEditorSongSelect := false, leaderboardType := 0, modeArg := 0, modsArg := 0 }

def tasted (tag : String) : Option BeatmapLeaderboardResult :=
  (clanTables (foundClan tag).db).fetchLeaderboard [] tastedMap cookie localRequest

section Tasted

variable {db : Clans.Db} {user : UserRow}

theorem clanTables_users {user : Clans.User} (h : db.fetchUser 3 = some user) :
    (clanTables db).users 3 = some ⟨user.name, "fr", user.priv, user.clanId.toNat⟩ := by
  unfold clanTables
  dsimp only
  rw [Nat.cast_ofNat, h, Option.map_some]

theorem clanTables_rows (huser : (clanTables db).users 3 = some user)
    (hpriv : Database.unrestricted user = true) :
    ((clanTables db).fetchBeatmapLeaderboardScores "map" 0 3 .score none none none 50).map
      (·.name) = [(clanTables db).displayName user] := by
  have howner : (clanTables db).owner Database.unrestricted tastedScore = true := by
    rw [Database.owner]
    exact (congrArg (Option.any _) huser).trans hpriv
  have hname : ((clanTables db).beatmapLeaderboardScoreRow .score tastedScore).map (·.name) =
      some ((clanTables db).displayName user) := by
    rw [Database.beatmapLeaderboardScoreRow, Option.map_map]
    exact congrArg (Option.map _) huser
  have hbest : tastedScore.isBestOn "map" 0 = true := by decide
  unfold Database.fetchBeatmapLeaderboardScores
  dsimp only
  rw [show (clanTables db).scores = [tastedScore] from rfl, select_singleton
    (by simp only [hbest, howner, Database.given, Bool.true_or, Bool.and_self])]
  obtain ⟨row, hrow, hrowName⟩ := Option.map_eq_some_iff.mp hname
  rw [List.filterMap_cons, hrow, List.filterMap_nil, List.map_singleton, hrowName]

theorem clanTables_best : (clanTables db).fetchPersonalBestLeaderboardScore "map" 0 3 .score =
    some (Database.personalBestLeaderboardScoreRow .score tastedScore) := by
  unfold Database.fetchPersonalBestLeaderboardScore
  dsimp only
  rw [show (clanTables db).scores = [tastedScore] from rfl, select_singleton (by decide)]
  rfl

theorem clanTables_scores (huser : (clanTables db).users 3 = some user)
    (hpriv : Database.unrestricted user = true) :
    ((clanTables db).fetchLeaderboardScores 0 "map" 0 0 cookie.toViewer .score).scoreRows.map
        (·.name) = [(clanTables db).displayName user] ∧
      ((clanTables db).fetchLeaderboardScores 0 "map" 0 0 cookie.toViewer
        .score).personalBestScoreRow.isSome = true := by
  have hrows := clanTables_rows huser hpriv
  unfold Database.fetchLeaderboardScores
  rw [show cookie.toViewer.id = 3 from rfl, clanTables_best]
  simp only [LeaderboardType.value, Int.reduceEq, if_false]
  generalize (clanTables db).fetchBeatmapLeaderboardScores _ _ _ _ _ _ _ _ = rows at hrows ⊢
  cases rows with
  | nil => cases hrows
  | cons row rest => exact ⟨hrows, rfl⟩

-- The names on the leaderboard of the map: one row, and the personal best of the player.
theorem tasted_names (huser : (clanTables db).users 3 = some user)
    (hpriv : Database.unrestricted user = true) {leaderboard : BeatmapLeaderboardResult}
    (h : (clanTables db).fetchLeaderboard [] tastedMap cookie localRequest = some leaderboard) :
    leaderboard.beatmapName = tastedMap.fullName ∧
      leaderboard.scoreRows.map (·.name) = [(clanTables db).displayName user] ∧
      leaderboard.personalBestDisplayName =
        some ((clanTables db).personalBestDisplayName cookie) := by
  obtain ⟨hrows, hbest⟩ := clanTables_scores huser hpriv
  obtain ⟨best, hbest⟩ := Option.isSome_iff_exists.mp hbest
  have hscores : (clanTables db).requestedScores tastedMap cookie localRequest .VANILLA_OSU 0 =
      (clanTables db).fetchLeaderboardScores 0 "map" 0 0 cookie.toViewer .score := rfl
  cases h
  refine ⟨rfl, ?_, ?_⟩
  · dsimp only
    exact (congrArg (fun scores => scores.scoreRows.map (·.name)) hscores).trans hrows
  · dsimp only
    exact congrArg (Option.map _) ((congrArg (·.personalBestScoreRow) hscores).trans hbest)

end Tasted

theorem fetchLeaderboard_unforged_tasted :
    ∃ leaderboard, tasted "AB" = some leaderboard ∧
      leaderboard.scoreRows.map (·.name) = ["[AB] cookie"] ∧ leaderboard.Unforged zeroText := by
  have hfounder : (foundClan "AB").db.fetchUser 3 =
      some ⟨3, "cookie", "cookie", Privileges.UNRESTRICTED, 1, 3⟩ := by decide
  obtain ⟨leaderboard, h⟩ : ∃ leaderboard, tasted "AB" = some leaderboard := ⟨_, rfl⟩
  have hnames := tasted_names (clanTables_users hfounder) (by decide) h
  have hrows : leaderboard.scoreRows.map (·.name) = ["[AB] cookie"] := hnames.2.1
  refine ⟨leaderboard, h, hrows, (fetchLeaderboard_unforged_iff h).mpr ⟨?_, ?_, ?_⟩⟩
  · rw [hnames.1]
    unfold Plain
    decide
  · intro row hrow
    have hname := List.mem_map_of_mem (f := (·.name)) hrow
    rw [hrows] at hname
    rw [List.mem_singleton.mp hname]
    unfold Plain
    decide
  · rw [hnames.2.2]
    intro name hname
    rw [← Option.some.inj (Option.mem_def.mp hname)]
    unfold Plain
    decide

-- The clan with the tag A|B is created, and its owner has a line of one field too many.
theorem not_fetchLeaderboard_unforged :
    (foundClan "A|B").results = [.create .CREATED (some ⟨1, "Tasters", "A|B", 3, 0⟩)] ∧
      ∃ leaderboard, tasted "A|B" = some leaderboard ∧
        leaderboard.scoreRows.map (·.name) = ["[A|B] cookie"] ∧
        ¬ leaderboard.Unforged zeroText := by
  have hfounder : (foundClan "A|B").db.fetchUser 3 =
      some ⟨3, "cookie", "cookie", Privileges.UNRESTRICTED, 1, 3⟩ := by decide
  refine ⟨by decide, ?_⟩
  obtain ⟨leaderboard, h⟩ : ∃ leaderboard, tasted "A|B" = some leaderboard := ⟨_, rfl⟩
  have hnames := tasted_names (clanTables_users hfounder) (by decide) h
  have hrows : leaderboard.scoreRows.map (·.name) = ["[A|B] cookie"] := hnames.2.1
  refine ⟨leaderboard, h, hrows, fun hunforged => ?_⟩
  have hplain := (unforged_iff (fetchLeaderboard_whole h)).mp hunforged
  obtain ⟨row, hrow, hname⟩ := List.mem_map.mp (hrows ▸ List.mem_singleton_self "[A|B] cookie")
  have hbar := (hplain.rows row hrow).2
  rw [hname] at hbar
  exact hbar (by decide)

end Forgeries

end BanchoPrism.Listings
