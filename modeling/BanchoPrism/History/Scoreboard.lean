import BanchoPrism.History.Games
import BanchoPrism.Library.Stable
import BanchoPrism.Scores.Accuracy
import Mathlib.Data.List.ReduceOption
import Mathlib.Data.Prod.Lex

namespace BanchoPrism.History

open Library

-- What one participant has come to in a game. Floats are rationals.
structure MpMatchGameScoreInput where
  userId : Nat
  team : Nat
  mods : Mods
  score : Int
  maxCombo : Nat
  num300 : Nat
  num100 : Nat
  num50 : Nat
  numGeki : Nat
  numKatu : Nat
  numMiss : Nat
  acc : ℚ
  perfect : Bool
  passed : Bool
  deriving DecidableEq

def ParticipantScoreFrame.input (frame : ParticipantScoreFrame) (sf : ScoreFrame) (acc : ℚ) :
    MpMatchGameScoreInput where
  userId := frame.userId
  team := frame.team
  mods := frame.mods
  score := sf.totalScore
  maxCombo := sf.maxCombo
  num300 := sf.num300
  num100 := sf.num100
  num50 := sf.num50
  numGeki := sf.numGeki
  numKatu := sf.numKatu
  numMiss := sf.numMiss
  acc := acc
  perfect := sf.perfect
  passed := frame.passed

-- One turn of the loop in _decode_participant_scores
def decodeParticipantScore (modeVn : Nat) (frame : ParticipantScoreFrame) :
    Except PyError (Option MpMatchGameScoreInput) := do
  match ← decodeScoreframe frame.rawFrame with
  | none => return none
  | some sf =>
      let acc ← ofOption .value (Scores.scoreframeAccuracy sf modeVn)
      -- the last division is the only one that rounds
      return some (frame.input sf (nearest acc))

def decodeParticipantScores (frames : List ParticipantScoreFrame) (modeVn : Nat) :
    Except PyError (List MpMatchGameScoreInput) := do
  let inputs ← frames.mapM (decodeParticipantScore modeVn)
  return inputs.reduceOption

-- metric of _ranked_scores
def metric (winCondition : Int) (s : MpMatchGameScoreInput) : ℚ :=
  if winCondition = 1 then s.acc
  else if winCondition = 2 then s.maxCombo
  else s.score

-- The tuple (s.passed, metric(s))
def rankKey (winCondition : Int) (s : MpMatchGameScoreInput) : Bool ×ₗ ℚ :=
  toLex (s.passed, metric winCondition s)

def rankedScores (scores : List MpMatchGameScoreInput) (winCondition : Int) :
    List (Nat × MpMatchGameScoreInput) :=
  (sortedDesc (rankKey winCondition) scores).zipIdx.map fun (s, i) => (i + 1, s)

-- A row of mp_match_game_scores, but for its id and the time of its creation.
structure GameScoreRow where
  gameId : Nat
  score : MpMatchGameScoreInput
  placement : Nat
  deriving DecidableEq

def placedRow (gameId : Nat) (placed : Nat × MpMatchGameScoreInput) : GameScoreRow where
  gameId := gameId
  score := placed.2
  placement := placed.1

-- record_game_scores: the rows bound to its INSERT
def recordGameScores (gameId : Nat) (winCondition : Int) (scores : List MpMatchGameScoreInput) :
    List GameScoreRow :=
  if scores.isEmpty then [] else (rankedScores scores winCondition).map (placedRow gameId)

-- persist_game_completed once the row of the game is there: the rows of its scores
def persistScores (gameId : Nat) (game : CompletedGame) : Except PyError (List GameScoreRow) := do
  if game.scoreFrames.isEmpty then return []
  let scores ← decodeParticipantScores game.scoreFrames (game.mode % 4)
  if scores.isEmpty then return []
  return recordGameScores gameId game.winCondition scores

-- What a win condition compares: accuracy for the first, combo for the second, score for any other.
inductive Measures : Int → (MpMatchGameScoreInput → ℚ) → Prop
  | acc : Measures 1 fun s => s.acc
  | maxCombo : Measures 2 fun s => s.maxCombo
  | score {winCondition : Int} (hacc : winCondition ≠ 1) (hcombo : winCondition ≠ 2) :
      Measures winCondition fun s => s.score

-- A scoreboard: everyone once, with the placements 1 to n, the passed before the
-- failed, the measure falling among either, and what is equal in both as it was.
structure Scoreboard (measure : MpMatchGameScoreInput → ℚ) (scores : List MpMatchGameScoreInput)
    (ranked : List (Nat × MpMatchGameScoreInput)) : Prop where
  perm : (ranked.map Prod.snd).Perm scores
  placements : ranked.map Prod.fst = (List.range scores.length).map (· + 1)
  passed : (ranked.map Prod.snd).Pairwise fun s t => t.passed → s.passed
  falling : (ranked.map Prod.snd).Pairwise fun s t =>
    s.passed = t.passed → measure t ≤ measure s
  stable : ∀ passed q,
    (ranked.map Prod.snd).filter (fun s => s.passed = passed && measure s = q) =
      scores.filter fun s => s.passed = passed && measure s = q

section Ranking

variable (scores : List MpMatchGameScoreInput) (winCondition : Int)

theorem rankedScores_snd : (rankedScores scores winCondition).map Prod.snd =
    sortedDesc (rankKey winCondition) scores := by
  have hfst : (Prod.snd ∘ fun p : MpMatchGameScoreInput × Nat => (p.2 + 1, p.1)) = Prod.fst := rfl
  rw [rankedScores, List.map_map, hfst, List.zipIdx_map_fst]

theorem rankedScores_fst : (rankedScores scores winCondition).map Prod.fst =
    (List.range scores.length).map (· + 1) := by
  have hsnd : (Prod.fst ∘ fun p : MpMatchGameScoreInput × Nat => (p.2 + 1, p.1)) =
      (· + 1) ∘ Prod.snd := rfl
  rw [rankedScores, List.map_map, hsnd, ← List.map_map, List.zipIdx_map_snd,
    (sortedDesc_perm _ scores).length_eq, List.range_eq_range']

theorem rankKey_le_iff {s t : MpMatchGameScoreInput} :
    rankKey winCondition t ≤ rankKey winCondition s ↔
      t.passed < s.passed ∨
        t.passed = s.passed ∧ metric winCondition t ≤ metric winCondition s := by
  simp only [rankKey, Prod.Lex.toLex_le_toLex]

theorem rankKey_eq_iff {s : MpMatchGameScoreInput} {passed : Bool} {q : ℚ} :
    rankKey winCondition s = toLex (passed, q) ↔ s.passed = passed ∧ metric winCondition s = q := by
  rw [rankKey, EmbeddingLike.apply_eq_iff_eq, Prod.mk.injEq]

theorem metric_measures : Measures winCondition (metric winCondition) := by
  unfold metric
  by_cases hacc : winCondition = 1
  · subst hacc
    exact .acc
  · by_cases hcombo : winCondition = 2
    · subst hcombo
      exact .maxCombo
    · simp only [if_neg hacc, if_neg hcombo]
      exact .score hacc hcombo

theorem scoreboard_metric :
    Scoreboard (metric winCondition) scores (rankedScores scores winCondition) := by
  have hsorted := sortedDesc_pairwise (rankKey winCondition) scores
  refine ⟨?_, rankedScores_fst scores winCondition, ?_, ?_, ?_⟩
  all_goals rw [rankedScores_snd]
  · exact sortedDesc_perm _ scores
  · refine hsorted.imp fun {s t} h ht => ?_
    rcases (rankKey_le_iff winCondition).mp h with hlt | ⟨heq, -⟩
    · exact absurd hlt (by rw [ht]; exact not_lt.mpr (Bool.le_true _))
    · exact heq.symm.trans ht
  · refine hsorted.imp fun {s t} h hsame => ?_
    rcases (rankKey_le_iff winCondition).mp h with hlt | ⟨-, hle⟩
    · exact absurd hlt (by rw [hsame]; exact lt_irrefl _)
    · exact hle
  · intro passed q
    have hkey : (fun s : MpMatchGameScoreInput =>
        s.passed = passed && metric winCondition s = q) =
          fun s => decide (rankKey winCondition s = toLex (passed, q)) := by
      funext s
      rw [Bool.eq_iff_iff, decide_eq_true_eq, rankKey_eq_iff, Bool.and_eq_true,
        decide_eq_true_eq, decide_eq_true_eq]
    rw [hkey]
    exact sortedDesc_stable _ scores (toLex (passed, q))

end Ranking

-- The ranking of a game is a scoreboard by what its win condition compares.
theorem rankedScores_scoreboard (scores : List MpMatchGameScoreInput) (winCondition : Int) :
    ∃ measure, Measures winCondition measure ∧
      Scoreboard measure scores (rankedScores scores winCondition) :=
  ⟨metric winCondition, metric_measures winCondition, scoreboard_metric scores winCondition⟩

-- A frame the length of which is that of its version.
def Framed (raw : List UInt8) : Prop := 29 ≤ raw.length ∧ (field raw 28 1 ≠ 0 → 45 ≤ raw.length)

instance (raw : List UInt8) : Decidable (Framed raw) := inferInstanceAs (Decidable (_ ∧ _))

-- A submitted score with the hit counts of an input.
structure SameHits (input : MpMatchGameScoreInput) (s : Scores.Score) : Prop where
  n300 : s.n300 = input.num300
  n100 : s.n100 = input.num100
  n50 : s.n50 = input.num50
  ngeki : s.ngeki = input.numGeki
  nkatu : s.nkatu = input.numKatu
  nmiss : s.nmiss = input.numMiss

-- What the bytes of a participant say, each number by where it stands in them; the
-- accuracy is the one a submitted score of these hits has.
structure Says (modeVn : Nat) (frame : ParticipantScoreFrame) (input : MpMatchGameScoreInput) :
    Prop where
  userId : input.userId = frame.userId
  team : input.team = frame.team
  mods : input.mods = frame.mods
  passed : input.passed = frame.passed
  num300 : input.num300 = field frame.rawFrame 5 2
  num100 : input.num100 = field frame.rawFrame 7 2
  num50 : input.num50 = field frame.rawFrame 9 2
  numGeki : input.numGeki = field frame.rawFrame 11 2
  numKatu : input.numKatu = field frame.rawFrame 13 2
  numMiss : input.numMiss = field frame.rawFrame 15 2
  score : input.score = signedField frame.rawFrame 17 4
  maxCombo : input.maxCombo = field frame.rawFrame 21 2
  perfect : input.perfect = decide (field frame.rawFrame 25 1 ≠ 0)
  acc : ∀ s, SameHits input s → s.mode.asVanilla = modeVn →
    (modeVn = 3 → s.mods.has Mods.SCOREV2 = decide (field frame.rawFrame 28 1 ≠ 0)) →
    input.acc = nearest s.calculateAccuracy

section Decoding

variable {raw : List UInt8}

theorem field_take {start size n : Nat} (h : start + size ≤ n) :
    field (raw.take n) start size = field raw start size := by
  unfold field
  rw [List.drop_take, List.take_take, min_eq_left (by omega)]

theorem signedField_take {start size n : Nat} (h : start + size ≤ n) :
    signedField (raw.take n) start size = signedField raw start size := by
  unfold signedField
  rw [List.drop_take, List.take_take, min_eq_left (by omega)]

theorem unpackFrom_of_le {size : Nat} (h : size ≤ raw.length) :
    unpackFrom size raw = .ok (raw.take size) := if_neg (by omega)

theorem scoreV2_take : (unpackScoreFrame (raw.take 29)).scoreV2 = decide (field raw 28 1 ≠ 0) := by
  show decide (field (raw.take 29) 28 1 ≠ 0) = _
  rw [field_take (by omega)]

-- A frame of another length than its own is dropped, whatever its bytes are.
theorem decodeScoreframe_of_not_framed (h : ¬Framed raw) : decodeScoreframe raw = .ok none := by
  unfold decodeScoreframe
  split
  · rfl
  · rename_i hbase
    have hle : 29 ≤ raw.length := by omega
    have htail : field raw 28 1 ≠ 0 ∧ ¬45 ≤ raw.length := by
      rw [← Classical.not_imp]
      exact fun hversion => h ⟨hle, hversion⟩
    have hversion : (unpackScoreFrame (raw.take 29)).scoreV2 = true :=
      scoreV2_take.trans (decide_eq_true htail.1)
    have hshort : (raw.drop 29).length < 16 := by
      rw [List.length_drop]
      omega
    simp only [unpackFrom_of_le hle, hversion, if_true, hshort]

theorem decodeScoreframe_of_framed (h : Framed raw) :
    ∃ sf, decodeScoreframe raw = .ok (some sf) ∧
      { sf with comboPortion := none, bonusPortion := none } = unpackScoreFrame (raw.take 29) := by
  obtain ⟨hle, htail⟩ := h
  unfold decodeScoreframe
  rw [if_neg (by omega), unpackFrom_of_le hle]
  by_cases hversion : field raw 28 1 ≠ 0
  · have hflag : (unpackScoreFrame (raw.take 29)).scoreV2 = true :=
      scoreV2_take.trans (decide_eq_true hversion)
    have hlong : 16 ≤ (raw.drop 29).length := by
      rw [List.length_drop]
      exact Nat.le_sub_of_add_le (htail hversion)
    dsimp only
    rw [if_pos hflag, if_neg (Nat.not_lt.mpr hlong), unpackFrom_of_le hlong]
    exact ⟨_, rfl, rfl⟩
  · have hflag : (unpackScoreFrame (raw.take 29)).scoreV2 = false :=
      scoreV2_take.trans (decide_eq_false hversion)
    dsimp only
    rw [if_neg (Bool.eq_false_iff.mp hflag)]
    exact ⟨_, rfl, rfl⟩

variable {frame : ParticipantScoreFrame} {modeVn : Nat}

theorem says_input {sf : ScoreFrame} {acc : ℚ}
    (hsf : { sf with comboPortion := none, bonusPortion := none } =
      unpackScoreFrame (frame.rawFrame.take 29))
    (hacc : Scores.scoreframeAccuracy sf modeVn = some acc) :
    Says modeVn frame (frame.input sf (nearest acc)) := by
  have hfield {f : ScoreFrame → Nat} {start size : Nat}
      (hf : f (unpackScoreFrame (frame.rawFrame.take 29)) =
        field (frame.rawFrame.take 29) start size)
      (hbase : f { sf with comboPortion := none, bonusPortion := none } = f sf)
      (hsize : start + size ≤ 29) : f sf = field frame.rawFrame start size := by
    rw [← hbase, hsf, hf, field_take hsize]
  have hflag : sf.scoreV2 = decide (field frame.rawFrame 28 1 ≠ 0) :=
    (congrArg ScoreFrame.scoreV2 hsf).trans scoreV2_take
  refine ⟨rfl, rfl, rfl, rfl, ?_, ?_, ?_, ?_, ?_, ?_, ?_, ?_, ?_, ?_⟩
  · exact hfield (f := (·.num300)) rfl rfl (by omega)
  · exact hfield (f := (·.num100)) rfl rfl (by omega)
  · exact hfield (f := (·.num50)) rfl rfl (by omega)
  · exact hfield (f := (·.numGeki)) rfl rfl (by omega)
  · exact hfield (f := (·.numKatu)) rfl rfl (by omega)
  · exact hfield (f := (·.numMiss)) rfl rfl (by omega)
  · exact (congrArg ScoreFrame.totalScore hsf).trans (signedField_take (by omega))
  · exact hfield (f := (·.maxCombo)) rfl rfl (by omega)
  · have hperfect : sf.perfect = decide (field (frame.rawFrame.take 29) 25 1 ≠ 0) :=
      congrArg ScoreFrame.perfect hsf
    rw [field_take (by omega)] at hperfect
    exact hperfect
  · intro s hhits hvanilla hversion
    have hcounts : Scores.SameCounts sf s :=
      ⟨hhits.n300, hhits.n100, hhits.n50, hhits.ngeki, hhits.nkatu, hhits.nmiss⟩
    have hsame : Scores.SameVersion sf s := fun hmania =>
      hflag.trans (hversion (hvanilla.symm.trans hmania)).symm
    have heq := Scores.scoreframeAccuracy_eq hcounts hsame
    rw [hvanilla, hacc, s.calculateAccuracy?_eq] at heq
    cases heq
    rfl

theorem decodeParticipantScore_spec (hmode : modeVn < 4) :
    ∃ found, decodeParticipantScore modeVn frame = .ok found ∧
      (¬Framed frame.rawFrame → found = none) ∧
      (Framed frame.rawFrame → ∃ input, found = some input ∧ Says modeVn frame input) := by
  unfold decodeParticipantScore
  by_cases hframed : Framed frame.rawFrame
  · obtain ⟨sf, hdecode, hsf⟩ := decodeScoreframe_of_framed hframed
    obtain ⟨acc, hacc⟩ := Option.isSome_iff_exists.mp (Scores.scoreframeAccuracy_isSome sf hmode)
    rw [hdecode]
    refine ⟨some (frame.input sf (nearest acc)), ?_, fun hnot => absurd hframed hnot,
      fun _ => ⟨_, rfl, says_input hsf hacc⟩⟩
    show (ofOption PyError.value (Scores.scoreframeAccuracy sf modeVn) >>= _) = _
    rw [hacc]
    rfl
  · rw [decodeScoreframe_of_not_framed hframed]
    exact ⟨none, rfl, fun _ => rfl, fun h => absurd h hframed⟩

theorem decodeParticipantScores_spec (hmode : modeVn < 4) (frames : List ParticipantScoreFrame) :
    ∃ inputs, decodeParticipantScores frames modeVn = .ok inputs ∧
      List.Forall₂ (Says modeVn) (frames.filter fun frame => Framed frame.rawFrame) inputs := by
  unfold decodeParticipantScores
  induction frames with
  | nil => exact ⟨[], rfl, .nil⟩
  | cons frame rest ih =>
    obtain ⟨inputs, hinputs, hrest⟩ := ih
    obtain ⟨found, hfound, hdropped, hkept⟩ := @decodeParticipantScore_spec frame _ hmode
    obtain ⟨others, hothers, hreduced⟩ := of_bind_ok hinputs
    cases hreduced
    refine ⟨(found :: others).reduceOption, ?_, ?_⟩
    · rw [List.mapM_cons, hfound]
      show (rest.mapM (decodeParticipantScore modeVn) >>= _) >>= _ = _
      rw [hothers]
      rfl
    · by_cases hframed : Framed frame.rawFrame
      · obtain ⟨input, rfl, hsays⟩ := hkept hframed
        rw [List.filter_cons, if_pos (decide_eq_true hframed), List.reduceOption_cons_of_some]
        exact .cons hsays hrest
      · cases hdropped hframed
        rw [List.filter_cons, if_neg (by rwa [decide_eq_true_eq]), List.reduceOption_cons_of_none]
        exact hrest

end Decoding

theorem recordGameScores_map (gameId : Nat) (winCondition : Int)
    (scores : List MpMatchGameScoreInput) :
    recordGameScores gameId winCondition scores =
      (rankedScores scores winCondition).map (placedRow gameId) := by
  unfold recordGameScores
  split
  · rename_i hempty
    simp [List.isEmpty_iff.mp hempty, rankedScores, sortedDesc]
  · rfl

-- No rows are written of no frames, nor of none that decodes.
theorem persistScores_eq (gameId : Nat) (game : CompletedGame) :
    persistScores gameId game =
      (recordGameScores gameId game.winCondition <$>
        decodeParticipantScores game.scoreFrames (game.mode % 4)) := by
  unfold persistScores
  cases hframes : game.scoreFrames with
  | nil => rfl
  | cons frame rest =>
    cases hscores : decodeParticipantScores (frame :: rest) (game.mode % 4) with
    | error e => rfl
    | ok scores =>
      cases scores with
      | nil => rfl
      | cons score others => rfl

-- The rows that a completed game has inserted, whatever its frames are: one for each that is
-- framed, and of these the scoreboard by what the win condition compares.
theorem persistScores_scoreboard (gameId : Nat) (game : CompletedGame) :
    ∃ rows inputs measure, persistScores gameId game = .ok rows ∧
      List.Forall₂ (Says (game.mode % 4))
        (game.scoreFrames.filter fun frame => Framed frame.rawFrame) inputs ∧
      Measures game.winCondition measure ∧
      Scoreboard measure inputs (rows.map fun row => (row.placement, row.score)) ∧
      ∀ row ∈ rows, row.gameId = gameId := by
  obtain ⟨inputs, hinputs, hsays⟩ :=
    decodeParticipantScores_spec (Nat.mod_lt game.mode (by omega)) game.scoreFrames
  obtain ⟨measure, hmeasure, hboard⟩ := rankedScores_scoreboard inputs game.winCondition
  refine ⟨(rankedScores inputs game.winCondition).map (placedRow gameId), inputs, measure, ?_,
    hsays, hmeasure, ?_, ?_⟩
  · rw [persistScores_eq, hinputs, ← recordGameScores_map]
    rfl
  · rw [List.map_map]
    exact (List.map_id _).symm ▸ hboard
  · intro row hrow
    obtain ⟨placed, -, rfl⟩ := List.mem_map.mp hrow
    rfl

end BanchoPrism.History
