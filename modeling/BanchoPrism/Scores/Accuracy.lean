import BanchoPrism.Packets.Reader
import BanchoPrism.Scores.Table
import Mathlib.Tactic.FieldSimp
import Mathlib.Tactic.Linarith
import Mathlib.Tactic.NormNum
import Mathlib.Tactic.Positivity

namespace BanchoPrism.Scores

-- What from_submission takes from Python: none where a ValueError is raised.
structure Builtins where
  int : String → Option Int
  lower : String → String
  -- datetime.strptime(text, "%y%m%d%H%M%S")
  strptime : String → Option Int

-- Grade.from_str
def Grade.fromStr (b : Builtins) (s : String) : Except PyError Grade :=
  match b.lower s with
  | "xh" => .ok .XH
  | "x" => .ok .X
  | "sh" => .ok .SH
  | "s" => .ok .S
  | "a" => .ok .A
  | "b" => .ok .B
  | "c" => .ok .C
  | "d" => .ok .D
  | "f" => .ok .F
  | "n" => .ok .N
  | _ => .error .key

structure Submitted extends Score where
  perfect : Bool
  clientTime : Int
  clientFlags : Nat
  serverTime : Int

def itemAt (data : List String) (i : Nat) : Except PyError String := ofOption .index data[i]?

def intAt (b : Builtins) (data : List String) (i : Nat) : Except PyError Int := do
  let text ← itemAt data i
  ofOption .value (b.int text)

-- text.count(" ") & ~4
def clientFlagsOf (text : String) : Nat :=
  let spaces := text.toList.count ' '
  spaces ^^^ (spaces &&& 4)

-- Score.from_submission
def fromSubmission (b : Builtins) (now : Int) (data : List String) : Except PyError Submitted := do
  let clientChecksum ← itemAt data 0
  let n300 ← intAt b data 1
  let n100 ← intAt b data 2
  let n50 ← intAt b data 3
  let ngeki ← intAt b data 4
  let nkatu ← intAt b data 5
  let nmiss ← intAt b data 6
  let score ← intAt b data 7
  let maxCombo ← intAt b data 8
  let perfect ← itemAt data 9
  let grade ← itemAt data 10
  let grade ← Grade.fromStr b grade
  let mods ← intAt b data 11
  let mods := Mods.ofInt mods
  let passed ← itemAt data 12
  let modeVn ← intAt b data 13
  let mode ← ofOption .value (GameMode.fromParams modeVn mods)
  let clientTime ← itemAt data 14
  let clientTime ← ofOption .value (b.strptime clientTime)
  let osuVersion ← itemAt data 15
  return {
    mode, mods, score, maxCombo, n300, n100, n50, nmiss, ngeki, nkatu, grade
    passed := passed = "True"
    clientChecksum
    perfect := perfect = "True"
    clientTime
    clientFlags := clientFlagsOf osuVersion
    serverTime := now }

-- none is a ZeroDivisionError
def divide (p q : ℚ) : Option ℚ := if q = 0 then none else some (p / q)

-- Score.calculate_accuracy with the divisions as Python makes them; another
-- mode than the four raises as well
def Score.calculateAccuracy? (s : Score) : Option ℚ :=
  match s.mode.asVanilla with
  | 0 =>
      let total := s.n300 + s.n100 + s.n50 + s.nmiss
      if total = 0 then some 0
      else divide (100 * (s.n300 * 300 + s.n100 * 100 + s.n50 * 50)) (total * 300)
  | 1 =>
      let total := s.n300 + s.n100 + s.nmiss
      if total = 0 then some 0
      else divide (100 * (s.n100 * (1 / 2) + s.n300)) total
  | 2 =>
      let total := s.n300 + s.n100 + s.n50 + s.nkatu + s.nmiss
      if total = 0 then some 0
      else divide (100 * (s.n300 + s.n100 + s.n50)) total
  | 3 =>
      let total := s.n300 + s.n100 + s.n50 + s.ngeki + s.nkatu + s.nmiss
      if total = 0 then some 0
      else if s.mods.has Mods.SCOREV2 then
        divide
          (100 * (s.n50 * 50 + s.n100 * 100 + s.nkatu * 200 + s.n300 * 300 + s.ngeki * 305))
          (total * 305)
      else
        divide (100 * (s.n50 * 50 + s.n100 * 100 + s.nkatu * 200 + (s.n300 + s.ngeki) * 300))
          (total * 300)
  | _ => none

-- scoreframe_accuracy
def scoreframeAccuracy (sf : ScoreFrame) (modeVn : Nat) : Option ℚ :=
  match modeVn with
  | 0 =>
      let total := sf.num300 + sf.num100 + sf.num50 + sf.numMiss
      if total = 0 then some 0
      else divide (100 * (sf.num300 * 300 + sf.num100 * 100 + sf.num50 * 50)) (total * 300)
  | 1 =>
      let total := sf.num300 + sf.num100 + sf.numMiss
      if total = 0 then some 0
      else divide (100 * (sf.num100 * (1 / 2) + sf.num300)) total
  | 2 =>
      let total := sf.num300 + sf.num100 + sf.num50 + sf.numKatu + sf.numMiss
      if total = 0 then some 0
      else divide (100 * (sf.num300 + sf.num100 + sf.num50)) total
  | 3 =>
      let total :=
        sf.num300 + sf.num100 + sf.num50 + sf.numGeki + sf.numKatu + sf.numMiss
      if total = 0 then some 0
      else if sf.scoreV2 then
        divide
          (100 * (sf.num50 * 50 + sf.num100 * 100 + sf.numKatu * 200 + sf.num300 * 300 +
            sf.numGeki * 305))
          (total * 305)
      else
        divide
          (100 * (sf.num50 * 50 + sf.num100 * 100 + sf.numKatu * 200 +
            (sf.num300 + sf.numGeki) * 300))
          (total * 300)
  | _ => none

section Agreement

-- A live frame with the hit counts of a score.
structure SameCounts (sf : ScoreFrame) (s : Score) : Prop where
  num300 : s.n300 = sf.num300
  num100 : s.n100 = sf.num100
  num50 : s.n50 = sf.num50
  numGeki : s.ngeki = sf.numGeki
  numKatu : s.nkatu = sf.numKatu
  numMiss : s.nmiss = sf.numMiss

-- The version 2 flag, which only mania looks at, says what the mods say.
def SameVersion (sf : ScoreFrame) (s : Score) : Prop :=
  s.mode.asVanilla = 3 → sf.scoreV2 = s.mods.has Mods.SCOREV2

-- The counts that the accuracy of a mode is made of.
def Score.weighed (s : Score) : List Int :=
  match s.mode.asVanilla with
  | 0 => [s.n300, s.n100, s.n50, s.nmiss]
  | 1 => [s.n300, s.n100, s.nmiss]
  | 2 => [s.n300, s.n100, s.n50, s.nkatu, s.nmiss]
  | _ => [s.n300, s.n100, s.n50, s.ngeki, s.nkatu, s.nmiss]

theorem asVanilla_cases (mode : GameMode) :
    mode.asVanilla = 0 ∨ mode.asVanilla = 1 ∨ mode.asVanilla = 2 ∨ mode.asVanilla = 3 := by
  have hlt : mode.asVanilla < 4 := Nat.mod_lt _ (by decide)
  omega

theorem scoreframeAccuracy_eq {sf : ScoreFrame} {s : Score} (h : SameCounts sf s)
    (hversion : SameVersion sf s) :
    scoreframeAccuracy sf s.mode.asVanilla = s.calculateAccuracy? := by
  unfold Score.calculateAccuracy? scoreframeAccuracy
  rcases asVanilla_cases s.mode with hmode | hmode | hmode | hmode
  · simp only [hmode, h.num300, h.num100, h.num50, h.numMiss]
    norm_cast
  · simp only [hmode, h.num300, h.num100, h.numMiss]
    norm_cast
  · simp only [hmode, h.num300, h.num100, h.num50, h.numKatu, h.numMiss]
    norm_cast
  · simp only [hmode, h.num300, h.num100, h.num50, h.numGeki, h.numKatu, h.numMiss,
      hversion hmode]
    norm_cast

end Agreement

section Range

variable {earned whole : ℚ}

-- A part of the whole is a number of per cent from 0 to 100.
theorem percent_mem (hlow : 0 ≤ earned) (hhigh : earned ≤ whole) (hwhole : 0 < whole) :
    0 ≤ 100 * earned / whole ∧ 100 * earned / whole ≤ 100 := by
  constructor
  · positivity
  · rw [div_le_iff₀ hwhole]
    linarith

theorem guarded_divide {empty : Prop} [Decidable empty] {p whole : ℚ}
    (hwhole : ¬empty → whole ≠ 0) :
    (if empty then some 0 else divide p whole) = some (if empty then 0 else p / whole) := by
  split
  · rfl
  · rename_i hsome
    exact if_neg (hwhole hsome)

theorem guarded_divide_isSome {empty : Prop} [Decidable empty] {p whole : ℚ}
    (hwhole : ¬empty → whole ≠ 0) : (if empty then some 0 else divide p whole).isSome := by
  rw [guarded_divide hwhole]
  rfl

theorem percent_range {total : Int} (hwhole : total ≠ 0 → whole ≠ 0) (hlow : 0 ≤ earned)
    (hhigh : earned ≤ whole) :
    0 ≤ (if total = 0 then 0 else 100 * earned / whole) ∧
      (if total = 0 then 0 else 100 * earned / whole) ≤ 100 := by
  split
  · norm_num
  · rename_i htotal
    exact percent_mem hlow hhigh (lt_of_le_of_ne (hlow.trans hhigh) (hwhole htotal).symm)

-- Nothing is divided by zero, since the whole is only zero where the total is.
theorem scoreframeAccuracy_isSome (sf : ScoreFrame) {modeVn : Nat} (hmode : modeVn < 4) :
    (scoreframeAccuracy sf modeVn).isSome := by
  have hne {total : Nat} (htotal : total ≠ 0) : (total : ℚ) ≠ 0 := Nat.cast_ne_zero.mpr htotal
  have hmul {total : Nat} {n : ℚ} (hn : n ≠ 0) (htotal : total ≠ 0) : (total : ℚ) * n ≠ 0 :=
    mul_ne_zero (hne htotal) hn
  obtain rfl | rfl | rfl | rfl : modeVn = 0 ∨ modeVn = 1 ∨ modeVn = 2 ∨ modeVn = 3 := by omega
  · exact guarded_divide_isSome (hmul (by norm_num))
  · exact guarded_divide_isSome hne
  · exact guarded_divide_isSome hne
  · unfold scoreframeAccuracy
    by_cases hversion : sf.scoreV2
    all_goals
      simp only [hversion]
      exact guarded_divide_isSome (hmul (by norm_num))

-- No division of calculate_accuracy raises.
theorem Score.calculateAccuracy?_eq (s : Score) :
    s.calculateAccuracy? = some s.calculateAccuracy := by
  have hne {total : Int} (htotal : total ≠ 0) : (total : ℚ) ≠ 0 := Int.cast_ne_zero.mpr htotal
  have hmul {total : Int} {n : ℚ} (hn : n ≠ 0) (htotal : total ≠ 0) : (total : ℚ) * n ≠ 0 :=
    mul_ne_zero (hne htotal) hn
  unfold Score.calculateAccuracy? Score.calculateAccuracy
  rcases asVanilla_cases s.mode with hmode | hmode | hmode | hmode
  all_goals simp only [hmode]
  · exact guarded_divide (hmul (by norm_num))
  · exact guarded_divide hne
  · exact guarded_divide hne
  · by_cases hversion : s.mods.has Mods.SCOREV2
    · simp only [hversion, if_true]
      exact guarded_divide (hmul (by norm_num))
    · simp only [hversion]
      exact guarded_divide (hmul (by norm_num))

theorem Score.calculateAccuracy_range (s : Score) (hcounts : ∀ n ∈ s.weighed, 0 ≤ n) :
    0 ≤ s.calculateAccuracy ∧ s.calculateAccuracy ≤ 100 := by
  have hcast {n : Int} (hn : 0 ≤ n) : (0 : ℚ) ≤ n := Int.cast_nonneg hn
  have hne {total : Int} (htotal : total ≠ 0) : (total : ℚ) ≠ 0 := Int.cast_ne_zero.mpr htotal
  unfold Score.weighed at hcounts
  unfold Score.calculateAccuracy
  rcases asVanilla_cases s.mode with hmode | hmode | hmode | hmode
  all_goals simp only [hmode, List.forall_mem_cons, List.not_mem_nil, false_implies, implies_true,
    and_true] at hcounts ⊢
  · obtain ⟨h300, h100, h50, hmiss⟩ := hcounts
    have := hcast h300; have := hcast h100; have := hcast h50; have := hcast hmiss
    refine percent_range (fun htotal => mul_ne_zero (hne htotal) (by norm_num)) ?_ ?_
    all_goals push_cast; linarith
  · obtain ⟨h300, h100, hmiss⟩ := hcounts
    have := hcast h300; have := hcast h100; have := hcast hmiss
    refine percent_range hne ?_ ?_
    all_goals push_cast; linarith
  · obtain ⟨h300, h100, h50, hkatu, hmiss⟩ := hcounts
    have := hcast h300; have := hcast h100; have := hcast h50; have := hcast hkatu
    have := hcast hmiss
    refine percent_range hne ?_ ?_
    all_goals push_cast; linarith
  · obtain ⟨h300, h100, h50, hgeki, hkatu, hmiss⟩ := hcounts
    have := hcast h300; have := hcast h100; have := hcast h50; have := hcast hgeki
    have := hcast hkatu; have := hcast hmiss
    by_cases hversion : s.mods.has Mods.SCOREV2
    all_goals
      simp only [hversion, if_true, if_false, Bool.false_eq_true]
      refine percent_range (fun htotal => mul_ne_zero (hne htotal) (by norm_num)) ?_ ?_
      all_goals push_cast; linarith

theorem Score.calculateAccuracy?_spec (s : Score) :
    ∃ acc, s.calculateAccuracy? = some acc ∧
      ((∀ n ∈ s.weighed, 0 ≤ n) → 0 ≤ acc ∧ acc ≤ 100) :=
  ⟨s.calculateAccuracy, s.calculateAccuracy?_eq, s.calculateAccuracy_range⟩

end Range

-- What a frame and a score with the same counts have, the same accuracy.
def Score.Agrees (s : Score) : Prop :=
  ∀ sf, SameCounts sf s → SameVersion sf s →
    scoreframeAccuracy sf s.mode.asVanilla = s.calculateAccuracy?

-- The accuracy is a number, and one from 0 to 100 where no count is negative.
def Score.Rated (s : Score) : Prop :=
  ∃ acc, s.calculateAccuracy? = some acc ∧ ((∀ n ∈ s.weighed, 0 ≤ n) → 0 ≤ acc ∧ acc ≤ 100)

theorem accuracy_agrees (b : Builtins) (now : Int) :
    (∀ s : Score, s.Agrees) ∧
      ∀ data s, fromSubmission b now data = .ok s → s.toScore.Rated :=
  ⟨fun _ _ hcounts hversion => scoreframeAccuracy_eq hcounts hversion,
    fun _ s _ => s.toScore.calculateAccuracy?_spec⟩

def digitsValue (digits : List Char) : Int :=
  digits.foldl (fun n c => 10 * n + (c.toNat - '0'.toNat : Nat)) 0

-- int() of plain decimal numbers.
def plainBuiltins : Builtins where
  int text :=
    match text.toList with
    | '-' :: digits => some (-digitsValue digits)
    | digits => if digits.all Char.isDigit then some (digitsValue digits) else none
  lower text := String.ofList (text.toList.map Char.toLower)
  strptime _ := some 0

-- A pass of osu!mania with one count of 300 and one of 320, or with a miss of -1.
def plainSubmission (nmiss : String) : List String :=
  ["checksum", "1", "0", "0", "1", "0", nmiss, "100", "1", "True", "S", "0", "True", "3",
    "240102030405", "20240102"]

def version2Frame : ScoreFrame where
  time := 0
  id := 0
  num300 := 1
  num100 := 0
  num50 := 0
  numGeki := 1
  numKatu := 0
  numMiss := 0
  totalScore := 100
  maxCombo := 1
  currentCombo := 1
  perfect := true
  currentHp := 0
  tagByte := 0
  scoreV2 := true

theorem not_accuracy_agrees :
    (∃ s, fromSubmission plainBuiltins 0 (plainSubmission "0") = .ok s ∧
      SameCounts version2Frame s.toScore ∧
        scoreframeAccuracy version2Frame s.mode.asVanilla ≠ s.toScore.calculateAccuracy?) ∧
    ∃ s, fromSubmission plainBuiltins 0 (plainSubmission "-1") = .ok s ∧
      s.toScore.calculateAccuracy? = some 200 := by
  refine ⟨⟨_, rfl, ⟨rfl, rfl, rfl, rfl, rfl, rfl⟩, ?_⟩, ⟨_, rfl, ?_⟩⟩
  · decide +kernel
  · decide +kernel

end BanchoPrism.Scores
