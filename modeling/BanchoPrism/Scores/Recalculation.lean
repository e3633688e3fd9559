import BanchoPrism.Library.Floats
import BanchoPrism.Library.SortedSets
import BanchoPrism.Scores.Weighted

namespace BanchoPrism.Scores

open Library

structure CalculatorArgs where
  mode : Nat
  mods : Mods
  combo : Option Int
  acc : Option ℚ := none
  n300 : Option Int
  n100 : Option Int
  n50 : Option Int
  nGeki : Option Int
  nKatu : Option Int
  nMisses : Option Int
  deriving DecidableEq

structure ScoreParams where
  mode : Nat
  mods : Option Mods := none
  combo : Option Int := none
  acc : Option ℚ := none
  n300 : Option Int := none
  n100 : Option Int := none
  n50 : Option Int := none
  ngeki : Option Int := none
  nkatu : Option Int := none
  nmiss : Option Int := none

section Ratings

-- Calculator(...).performance(beatmap).pp, of the file of the beatmap
variable (calculator : CalculatorArgs → Number)

-- bool(value) of a number or None
def truthy {α : Type} [DecidableEq α] [Zero α] (value : Option α) : Bool :=
  value ≠ none && value ≠ some 0

def ScoreParams.overspecified (score : ScoreParams) : Bool :=
  truthy score.acc && (truthy score.n300 || truthy score.n100 || truthy score.n50 ||
    truthy score.ngeki || truthy score.nkatu)

-- rosupp ignores NC and requires DT
def withDoubletime (mods : Mods) : Mods :=
  if mods.has Mods.NIGHTCORE then mods ||| Mods.DOUBLETIME else mods

-- One turn of the loop in calculate_performances; none is its ValueError.
def ScoreParams.performance (score : ScoreParams) : Option ℚ :=
  if score.overspecified then none
  else
    let result := calculator
      { mode := score.mode
        mods := (score.mods.map withDoubletime).getD 0
        combo := score.combo
        acc := score.acc
        n300 := score.n300
        n100 := score.n100
        n50 := score.n50
        nGeki := score.ngeki
        nKatu := score.nkatu
        nMisses := score.nmiss }
    match result with
    | .finite pp => some (thousandths pp)
    | .infinite _ | .nan => some 0

def calculatePerformances (scores : List ScoreParams) : Option (List ℚ) :=
  scores.mapM (·.performance calculator)

-- Score.calculate_performance
def Score.calculatePerformance (score : Score) : Option ℚ := do
  let result ← calculatePerformances calculator
    [{ mode := score.mode.asVanilla
       mods := some score.mods
       combo := some score.maxCombo
       ngeki := some score.ngeki
       n300 := some score.n300
       nkatu := some score.nkatu
       n100 := some score.n100
       n50 := some score.n50
       nmiss := some score.nmiss }]
  result[0]?

-- The pp that persist_submitted_score leaves in the row of a score.
def Score.submittedPp (strict : Bool) (score : Score) : Option ℚ := do
  let pp ← score.calculatePerformance calculator
  ppColumn strict pp

-- The pp that recalculate_score leaves in the row of a score.
def Score.recalculatedPp (strict : Bool) (score : Score) : Option ℚ :=
  let attrs := calculator
    { mode := score.mode.asVanilla
      mods := score.mods
      combo := some score.maxCombo
      nGeki := some score.ngeki
      n300 := some score.n300
      nKatu := some score.nkatu
      n100 := some score.n100
      n50 := some score.n50
      nMisses := some score.nmiss }
  let newPp :=
    match attrs with
    | .finite pp => pp
    | .infinite _ | .nan => 0
  ppColumn strict (min newPp maxPp)

end Ratings

-- users and stats, and the sorted sets of the leaderboards: of a mode, or of a country in it.
structure Standing where
  pp : Int
  acc : ℚ
  deriving DecidableEq

-- What a row of users says of a player, or a session: the country is where it has been logged in
-- from, the privileges are its own.
structure Account where
  country : String
  priv : Privileges

def Account.unrestricted (account : Account) : Bool := account.priv.has Privileges.UNRESTRICTED

structure Standings where
  users : Nat → Option Account
  stats : Nat × GameMode → Option Standing
  leaderboards : SortedSets (GameMode × Option String) Nat Int

namespace Standings

variable (s : Standings)

-- UPDATE stats SET pp = :pp, acc = :acc WHERE id = :id AND mode = :mode
def updateStats (id : Nat) (mode : GameMode) (pp : Int) (acc : ℚ) : Standings :=
  { s with
    stats := Function.update s.stats (id, mode) ((s.stats (id, mode)).map fun _ => ⟨pp, acc⟩) }

def zadd (mode : GameMode) (country : Option String) (id : Nat) (pp : Int) : Standings :=
  { s with leaderboards := SortedSets.zadd (mode, country) [(id, pp)] s.leaderboards }

-- What a new best score of a player comes to: apply_weighted_performance_stats on the current
-- stats, its columns of the stats row, and update_rank of the session. none is the
-- ZeroDivisionError.
def submitBest (current : ModeData × ScoreStatsUpdates) (id : Nat) (mode : GameMode)
    (player : Account) (bestScores : List ScorePerformanceRow) : Option Standings := do
  let (stats, _) ← applyWeightedPerformanceStats current bestScores
  let s := s.updateStats id mode stats.pp stats.acc
  if player.unrestricted then
    some ((s.zadd mode none id stats.pp).zadd mode (some player.country) id stats.pp)
  else some s

-- recalculate_user, with the rows that it selects, in the order that they come in; false is the
-- exception.
def recalculateUser (id : Nat) (mode : GameMode) (bestScores : List ScorePerformanceRow) :
    Bool × Standings :=
  let totalScores := bestScores.length
  if totalScores = 0 then (true, s)
  else
    let weightedAcc := (bestScores.zipIdx.map fun (row, i) => row.acc * (19 / 20) ^ i).sum
    let bonusAcc := 100 / (20 * (1 - (19 / 20) ^ totalScores))
    let acc := weightedAcc * bonusAcc / 100
    let weightedPp := (bestScores.zipIdx.map fun (row, i) => row.pp * (19 / 20) ^ i).sum
    let bonusPp := 4166667 / 10000 * (1 - (4997 / 5000) ^ totalScores)
    let pp := roundHalfEven (weightedPp + bonusPp)
    let t := s.updateStats id mode pp acc
    match t.users id with
    | none => (false, t)
    | some userInfo =>
        if userInfo.unrestricted then
          (true, (t.zadd mode none id pp).zadd mode (some userInfo.country) id pp)
        else (true, t)

end Standings

section Agreement

variable (calculator : CalculatorArgs → Number) (strict : Bool) (score : Score)

-- The pp that a submission would store is stored.
def Score.PpAgrees : Prop :=
  ∃ pp, score.submittedPp calculator strict = some pp ∧
    score.recalculatedPp calculator strict = some pp

-- A score's rating as one with some mods; what is no number counts as 0.
def Score.rating (mods : Mods) : ℚ :=
  let attrs := calculator
    { mode := score.mode.asVanilla
      mods := mods
      combo := some score.maxCombo
      n300 := some score.n300
      n100 := some score.n100
      n50 := some score.n50
      nGeki := some score.ngeki
      nKatu := some score.nkatu
      nMisses := some score.nmiss }
  match attrs with
  | .finite pp => pp
  | .infinite _ | .nan => 0

-- The column has room for a rating.
def Fits (q : ℚ) : Prop := strict = true → |thousandths q| ≤ maxPp

-- The column has room for the rating of a score, which is with NIGHTCORE the same with DOUBLETIME
-- as without, as far as the column tells what is not above the limit.
structure Score.Steady : Prop where
  fits : Fits strict (score.rating calculator (withDoubletime score.mods))
  alike : withDoubletime score.mods ≠ score.mods →
    ppColumn strict (min (score.rating calculator score.mods) maxPp) =
      ppColumn strict (min (score.rating calculator (withDoubletime score.mods)) maxPp)

def Standings.withLeaderboards (s : Standings)
    (leaderboards : SortedSets (GameMode × Option String) Nat Int) : Standings :=
  { s with leaderboards := leaderboards }

-- Whatever the leaderboards have held, the account gets what the weighted performances of its best
-- scores make of it when its session submits.
def Standings.Agrees (s : Standings) (current : ModeData × ScoreStatsUpdates) (id : Nat)
    (mode : GameMode) (player : Account) (bestScores : List ScorePerformanceRow) : Prop :=
  ∀ leaderboards, ∃ t,
    (s.withLeaderboards leaderboards).submitBest current id mode player bestScores = some t ∧
      (s.withLeaderboards leaderboards).recalculateUser id mode bestScores = (true, t)

-- The account is there, the session knows whether it is restricted, and has logged in from its
-- country if it is not.
def Standings.Knows (s : Standings) (id : Nat) (player : Account) : Prop :=
  ∃ account ∈ s.users id, account.unrestricted = player.unrestricted ∧
    (player.unrestricted = true → account.country = player.country)

end Agreement

section Columns

variable {strict : Bool} {p q : ℚ}

theorem thousandths_mono (h : p ≤ q) : thousandths p ≤ thousandths q := by
  have hround : roundEven (1000 * p) ≤ roundEven (1000 * q) := roundEven_mono (by linarith)
  unfold thousandths
  exact div_le_div_of_nonneg_right (by exact_mod_cast hround) (by norm_num)

theorem thousandths_intCast (n : ℤ) : thousandths (n / 1000) = n / 1000 := by
  have hn : 1000 * ((n : ℚ) / 1000) = n := by ring
  rw [thousandths, hn, roundEven_intCast]

theorem thousandths_thousandths : thousandths (thousandths q) = thousandths q :=
  thousandths_intCast _

theorem thousandths_maxPp : thousandths maxPp = maxPp := by
  have hmax : maxPp = ((9999999 : ℤ) : ℚ) / 1000 := by norm_num [maxPp]
  rw [hmax]
  exact thousandths_intCast _

theorem thousandths_min : thousandths (min q maxPp) = min (thousandths q) maxPp := by
  have hmono : Monotone thousandths := fun _ _ h => thousandths_mono h
  rw [hmono.map_min, thousandths_maxPp]

-- A rating that the column has room for is stored as the one that was rounded before.
theorem ppColumn_capped (h : Fits strict q) :
    ppColumn strict (min q maxPp) = ppColumn strict (thousandths q) := by
  unfold ppColumn
  rw [thousandths_min, thousandths_thousandths]
  cases strict with
  | true =>
    have hle : thousandths q ≤ maxPp := (abs_le.mp (h rfl)).2
    rw [min_eq_left hle]
  | false =>
    have hmin : min maxPp (min (thousandths q) maxPp) = min maxPp (thousandths q) := by
      rw [min_comm (thousandths q), ← min_assoc, min_self]
    simp only [Bool.false_eq_true, false_and, if_false, hmin]

theorem ppColumn_isSome : (ppColumn strict (thousandths q)).isSome ↔ Fits strict q := by
  unfold ppColumn Fits
  rw [thousandths_thousandths]
  cases strict <;> simp

theorem thousandths_whole (n : ℤ) : thousandths n = n := by
  have hscaled : (n : ℚ) = ((1000 * n : ℤ) : ℚ) / 1000 := by
    push_cast
    ring
  rw [hscaled]
  exact thousandths_intCast _

theorem ppColumn_whole {n : ℤ} (hn : |n| ≤ 9999) : ppColumn strict n = some (n : ℚ) := by
  have habs : |(n : ℚ)| ≤ 9999 := by exact_mod_cast hn
  have hmax : (9999 : ℚ) ≤ maxPp := by norm_num [maxPp]
  obtain ⟨hlow, hhigh⟩ := abs_le.mp habs
  unfold ppColumn
  rw [thousandths_whole, if_neg (fun h => absurd h.2 (not_lt.mpr (habs.trans hmax))),
    min_eq_right (hhigh.trans hmax), max_eq_right (by linarith)]

end Columns

section Pipelines

variable {calculator : CalculatorArgs → Number} {strict : Bool} {score : Score}

-- What calculate_performance rates is the score with DOUBLETIME where it has NIGHTCORE, to three
-- decimals.
theorem calculatePerformance_eq : score.calculatePerformance calculator =
    some (thousandths (score.rating calculator (withDoubletime score.mods))) := by
  have hzero : thousandths 0 = 0 := by simpa using thousandths_intCast 0
  unfold Score.calculatePerformance calculatePerformances
  rw [List.mapM_cons, ScoreParams.performance, if_neg (by exact Bool.false_ne_true), Score.rating]
  dsimp only [Option.map_some, Option.getD_some]
  generalize calculator _ = attrs
  cases attrs with
  | finite pp => rfl
  | infinite negative => exact congrArg some hzero.symm
  | nan => exact congrArg some hzero.symm

theorem submittedPp_eq : score.submittedPp calculator strict =
    ppColumn strict (thousandths (score.rating calculator (withDoubletime score.mods))) := by
  rw [Score.submittedPp, calculatePerformance_eq]
  rfl

theorem recalculatedPp_eq : score.recalculatedPp calculator strict =
    ppColumn strict (min (score.rating calculator score.mods) maxPp) := rfl

theorem agrees_iff_steady : score.PpAgrees calculator strict ↔ score.Steady calculator strict := by
  unfold Score.PpAgrees
  rw [submittedPp_eq, recalculatedPp_eq]
  constructor
  · rintro ⟨pp, hsubmitted, hrecalculated⟩
    have hfits := ppColumn_isSome.mp (Option.isSome_iff_exists.mpr ⟨pp, hsubmitted⟩)
    refine ⟨hfits, fun _ => ?_⟩
    rw [hrecalculated, ppColumn_capped hfits, hsubmitted]
  · rintro ⟨hfits, halike⟩
    obtain ⟨pp, hsubmitted⟩ := Option.isSome_iff_exists.mp (ppColumn_isSome.mpr hfits)
    refine ⟨pp, hsubmitted, ?_⟩
    rw [← hsubmitted, ← ppColumn_capped hfits]
    by_cases hmods : withDoubletime score.mods = score.mods
    · rw [hmods]
    · exact halike hmods

theorem calculateWeightedAccuracy_nonempty {best : List ScorePerformanceRow} (hne : best ≠ []) :
    calculateWeightedAccuracy best = some (weightedSum (best.map (·.acc)) *
      (100 / (20 * (1 - (19 / 20) ^ best.length))) / 100) := by
  have hlength : best.length ≠ 0 := by simpa using hne
  have hpos : (0 : ℚ) < weights (19 / 20) best.length := weights_pos (by norm_num) hlength
  rw [← divisor_eq] at hpos
  exact if_neg hpos.ne'

theorem applyWeightedPerformanceStats_nil (current : ModeData × ScoreStatsUpdates) :
    applyWeightedPerformanceStats current [] = none := by
  simp [applyWeightedPerformanceStats, calculateWeightedAccuracy]

theorem applyWeightedPerformanceStats_some (current : ModeData × ScoreStatsUpdates)
    {best : List ScorePerformanceRow} {acc : ℚ} (hacc : calculateWeightedAccuracy best = some acc) :
    ∃ updates, applyWeightedPerformanceStats current best =
      some ({ current.1 with acc := acc, pp := calculateWeightedPp best }, updates) := by
  refine ⟨{ current.2 with acc := some acc, pp := some (calculateWeightedPp best) }, ?_⟩
  rw [applyWeightedPerformanceStats, hacc]
  rfl

variable {s : Standings} {current : ModeData × ScoreStatsUpdates} {id : Nat} {mode : GameMode}
variable {best : List ScorePerformanceRow}

-- The stats row and the leaderboards, once the pp and accuracy of an account are set.
def Standings.posted (s : Standings) (id : Nat) (mode : GameMode) (pp : Int) (acc : ℚ)
    (account : Account) : Standings :=
  if account.unrestricted then
    ((s.updateStats id mode pp acc).zadd mode none id pp).zadd mode (some account.country) id pp
  else s.updateStats id mode pp acc

theorem submitBest_eq (player : Account) {acc : ℚ}
    (hacc : calculateWeightedAccuracy best = some acc) :
    s.submitBest current id mode player best =
      some (s.posted id mode (calculateWeightedPp best) acc player) := by
  obtain ⟨updates, happly⟩ := applyWeightedPerformanceStats_some current hacc
  unfold Standings.submitBest Standings.posted
  rw [happly]
  simp only [Option.bind_eq_bind, Option.bind_some]
  split <;> rfl

theorem recalculateUser_eq (hne : best ≠ []) {account : Account}
    (haccount : s.users id = some account) {acc : ℚ}
    (hacc : calculateWeightedAccuracy best = some acc) :
    s.recalculateUser id mode best =
      (true, s.posted id mode (calculateWeightedPp best) acc account) := by
  have hlength : best.length ≠ 0 := by simpa using hne
  rw [calculateWeightedAccuracy_nonempty hne] at hacc
  cases hacc
  unfold Standings.recalculateUser Standings.posted
  rw [if_neg hlength]
  simp only [sum_zipIdx_zero, Standings.updateStats, haccount]
  split <;> rfl

theorem recalculateUser_missing (hne : best ≠ []) (hnone : s.users id = none) :
    (s.recalculateUser id mode best).1 = false := by
  have hlength : best.length ≠ 0 := by simpa using hne
  unfold Standings.recalculateUser
  rw [if_neg hlength]
  simp only [Standings.updateStats, hnone]

theorem scores_posted {pp : Int} {acc : ℚ} {account : Account} (country : Option String) :
    (s.posted id mode pp acc account).leaderboards.scores (mode, country) id =
      if account.unrestricted = true ∧ (country = none ∨ country = some account.country) then
        some pp
      else s.leaderboards.scores (mode, country) id := by
  unfold Standings.posted
  cases account.unrestricted with
  | false =>
    rw [if_neg Bool.false_ne_true, if_neg (fun h => Bool.false_ne_true h.1)]
    rfl
  | true =>
    rw [if_pos rfl]
    unfold Standings.zadd
    rw [SortedSets.scores_zadd_one, SortedSets.scores_zadd_one]
    simp only [Prod.mk.injEq, true_and, and_true]
    by_cases hcountry : country = some account.country
    · rw [if_pos hcountry, if_pos (Or.inr hcountry)]
    · rw [if_neg hcountry]
      simp only [hcountry, or_false]
      rfl

-- On empty leaderboards it shows who has been put on which.
theorem posted_eq_iff (pp : Int) (acc : ℚ) {player account : Account} :
    (∀ leaderboards, (s.withLeaderboards leaderboards).posted id mode pp acc player =
        (s.withLeaderboards leaderboards).posted id mode pp acc account) ↔
      account.unrestricted = player.unrestricted ∧
        (player.unrestricted = true → account.country = player.country) := by
  constructor
  · intro h
    have hscores (country : Option String) :
        (if player.unrestricted = true ∧ (country = none ∨ country = some player.country) then
          some pp else none) =
        if account.unrestricted = true ∧ (country = none ∨ country = some account.country) then
          some pp else none := by
      have hempty := congrArg (SortedSets.scores · (mode, country) id)
        (congrArg Standings.leaderboards (h fun _ => ∅))
      rw [scores_posted, scores_posted] at hempty
      exact hempty
    have hglobal := hscores none
    have hcountry := hscores (some player.country)
    cases hplayer : player.unrestricted <;> cases haccount : account.unrestricted <;>
      simp_all
  · rintro ⟨hpriv, hcountry⟩ leaderboards
    unfold Standings.posted
    rw [hpriv]
    cases hplayer : player.unrestricted with
    | false => rfl
    | true => rw [hcountry hplayer]

theorem standings_agree_iff {player : Account} :
    s.Agrees current id mode player best ↔ best ≠ [] ∧ s.Knows id player := by
  constructor
  · intro h
    have hne : best ≠ [] := by
      rintro rfl
      obtain ⟨t, hsubmit, -⟩ := h s.leaderboards
      rw [Standings.submitBest, applyWeightedPerformanceStats_nil] at hsubmit
      cases hsubmit
    obtain ⟨acc, hacc⟩ : ∃ acc, calculateWeightedAccuracy best = some acc :=
      ⟨_, calculateWeightedAccuracy_nonempty hne⟩
    cases haccount : s.users id with
    | none =>
      obtain ⟨t, -, hrecalculate⟩ := h s.leaderboards
      have hmissing : (s.withLeaderboards s.leaderboards).users id = none := haccount
      have hfalse := congrArg Prod.fst hrecalculate
      rw [recalculateUser_missing hne hmissing] at hfalse
      cases hfalse
    | some account =>
      have hposted := @posted_eq_iff s id mode (calculateWeightedPp best) acc player account
      refine ⟨hne, account, haccount, hposted.mp fun leaderboards => ?_⟩
      obtain ⟨t, hsubmit, hrecalculate⟩ := h leaderboards
      rw [submitBest_eq player hacc] at hsubmit
      have hfound : (s.withLeaderboards leaderboards).users id = some account := haccount
      rw [recalculateUser_eq hne hfound hacc] at hrecalculate
      exact (Option.some.inj hsubmit).trans (congrArg Prod.snd hrecalculate).symm
  · rintro ⟨hne, account, haccount, hknows⟩ leaderboards
    obtain ⟨acc, hacc⟩ : ∃ acc, calculateWeightedAccuracy best = some acc :=
      ⟨_, calculateWeightedAccuracy_nonempty hne⟩
    have hfound : (s.withLeaderboards leaderboards).users id = some account := haccount
    refine ⟨_, submitBest_eq player hacc, ?_⟩
    rw [recalculateUser_eq hne hfound hacc, (posted_eq_iff _ _).mpr hknows leaderboards]

-- The tool agrees with submission on a score exactly if its rating is steady, and on a user exactly
-- if there is a best score to weigh, and an account that the session knows.
theorem recalculation_agrees_iff {player : Account} :
    (score.PpAgrees calculator strict ↔ score.Steady calculator strict) ∧
      (s.Agrees current id mode player best ↔ best ≠ [] ∧ s.Knows id player) :=
  ⟨agrees_iff_steady, standings_agree_iff⟩

-- The calculator tells the speed of a play by DOUBLETIME.
def speedCalculator (args : CalculatorArgs) : Number :=
  .finite (if args.mods.has Mods.DOUBLETIME then (200 : ℤ) else (100 : ℤ))

def nightcorePlay : Score :=
  { mode := .VANILLA_OSU, mods := Mods.NIGHTCORE, score := 1000, maxCombo := 1, n300 := 1, n100 := 0
    n50 := 0, nmiss := 0, ngeki := 0, nkatu := 0, grade := .A, passed := true
    clientChecksum := "checksum" }

theorem rating_nightcorePlay (mods : Mods) : nightcorePlay.rating speedCalculator mods =
    if mods.has Mods.DOUBLETIME then ((200 : ℤ) : ℚ) else ((100 : ℤ) : ℚ) := rfl

def freshStats : ModeData × ScoreStatsUpdates :=
  ({}, { plays := 0, playtime := 0, tscore := 0, totalHits := 0 })

-- An account whose last best score is gone.
def emptied : Standings where
  users := fun _ => some ⟨"fr", Privileges.UNRESTRICTED⟩
  stats := fun _ => some ⟨300, 98⟩
  leaderboards := SortedSets.zadd (.VANILLA_OSU, none) [(3, 300)] fun _ => ∅

-- A play with NIGHTCORE alone is stored with half of its pp, an account without best scores keeps
-- the pp that it had, where the weighted sum is 0, and a player who is abroad is on another board.
theorem not_recalculation_agrees :
    nightcorePlay.submittedPp speedCalculator true = some 200 ∧
      nightcorePlay.recalculatedPp speedCalculator true = some 100 ∧
      ¬ nightcorePlay.PpAgrees speedCalculator true ∧
      emptied.recalculateUser 3 .VANILLA_OSU [] = (true, emptied) ∧
      (emptied.stats (3, .VANILLA_OSU)).map (·.pp) = some 300 ∧
      calculateWeightedPp [] = 0 ∧
      ¬ emptied.Agrees freshStats 3 .VANILLA_OSU ⟨"fr", Privileges.UNRESTRICTED⟩ [] ∧
      ¬ emptied.Agrees freshStats 3 .VANILLA_OSU ⟨"de", Privileges.UNRESTRICTED⟩ [⟨50, 90⟩] := by
  have hsubmitted : nightcorePlay.submittedPp speedCalculator true = some 200 := by
    have hrating : nightcorePlay.rating speedCalculator (withDoubletime nightcorePlay.mods) =
        ((200 : ℤ) : ℚ) := (rating_nightcorePlay _).trans (if_pos (by decide))
    rw [submittedPp_eq, hrating, thousandths_whole]
    exact ppColumn_whole (by decide)
  have hrecalculated : nightcorePlay.recalculatedPp speedCalculator true = some 100 := by
    have hrating : nightcorePlay.rating speedCalculator nightcorePlay.mods = ((100 : ℤ) : ℚ) :=
      (rating_nightcorePlay _).trans (if_neg (by decide))
    rw [recalculatedPp_eq, hrating, min_eq_left (by norm_num [maxPp])]
    exact ppColumn_whole (by decide)
  refine ⟨hsubmitted, hrecalculated, ?_, rfl, rfl, ?_, ?_, ?_⟩
  · rintro ⟨pp, hpp, hpp'⟩
    rw [hsubmitted] at hpp
    rw [hrecalculated, ← hpp] at hpp'
    exact absurd hpp' (by norm_num)
  · norm_num [calculateWeightedPp, weightedSum, roundHalfEven]
  · exact fun hagrees => (standings_agree_iff.mp hagrees).1 rfl
  · intro hagrees
    obtain ⟨-, account, haccount, -, hcountry⟩ := standings_agree_iff.mp hagrees
    cases haccount
    exact absurd (hcountry (by decide)) (by decide)

end Pipelines

end BanchoPrism.Scores
