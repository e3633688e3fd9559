import BanchoPrism.Constants.Mods
import Mathlib.Data.List.Perm.Subperm

namespace BanchoPrism.Mods

-- Every mod of the first is one of the second.
def Subset (mods mods' : Mods) : Prop := mods &&& mods' = mods

-- No mod of the one group comes with one of the other.
def Apart (first second mods : Mods) : Prop := ¬(mods.has first ∧ mods.has second)

-- The groups that the rules of filter_invalid_combos treat as conflicting in every mode.
def conflicts : List (Mods × Mods) :=
  [(DOUBLETIME, NIGHTCORE), (DOUBLETIME, HALFTIME), (NIGHTCORE, HALFTIME), (EASY, HARDROCK),
    (NOFAIL ||| RELAX ||| AUTOPILOT, SUDDENDEATH ||| PERFECT), (NOFAIL, RELAX ||| AUTOPILOT),
    (PERFECT, SUDDENDEATH), (AUTOPILOT, RELAX ||| SPUNOUT)]

structure Compatible (modeVn : Nat) (mods : Mods) : Prop where
  apart : ∀ pair ∈ conflicts, Apart pair.1 pair.2 mods
  fadeIn : modeVn = 3 → Apart HIDDEN FADEIN mods
  osuSpecific : modeVn ≠ 0 → mods.has OSU_SPECIFIC_MODS = false
  maniaSpecific : modeVn ≠ 3 → mods.has MANIA_SPECIFIC_MODS = false
  relax : modeVn = 3 → mods.has RELAX = false
  keymods : (keyModsByValue.filter (mods.has ·)).length ≤ 1

-- What is left of mods, without any conflict, and as it stays when it is filtered again.
structure Filtered (modeVn : Nat) (mods left : Mods) : Prop where
  subset : left.Subset mods
  compatible : left.Compatible modeVn
  fixed : left.filterInvalidCombos modeVn = left

section Bits

variable {mods mods' first second removed flag : Mods}

theorem testBit_invert (mods : Mods) (i : Nat) :
    (invert mods).testBit i = (decide (i < 31) && !mods.testBit i) := by
  rw [invert, allBits, Nat.testBit_xor, Nat.testBit_and, Nat.testBit_two_pow_sub_one]
  cases mods.testBit i <;> cases decide (i < 31) <;> rfl

theorem testBit_without (mods removed : Mods) (i : Nat) :
    (without mods removed).testBit i =
      (mods.testBit i && (decide (i < 31) && !removed.testBit i)) := by
  rw [without, Nat.testBit_and, testBit_invert]

theorem has_eq_false : mods.has flag = false ↔ mods &&& flag = 0 := by
  simp [has]

theorem has_or : mods.has (first ||| second) = (mods.has first || mods.has second) := by
  rw [Bool.eq_iff_iff, Bool.or_eq_true]
  simp only [has, bne_iff_ne, Nat.and_or_distrib_left, ne_eq, Nat.or_eq_zero_iff]
  tauto

theorem subset_iff : mods.Subset mods' ↔ ∀ i, mods.testBit i → mods'.testBit i := by
  constructor
  · intro h i hi
    rw [← h, Nat.testBit_and, Bool.and_eq_true] at hi
    exact hi.2
  · intro h
    apply Nat.eq_of_testBit_eq
    intro i
    rw [Nat.testBit_and]
    cases hi : mods.testBit i with
    | false => rfl
    | true => rw [h i hi]; rfl

theorem Subset.refl (mods : Mods) : mods.Subset mods := Nat.and_self mods

theorem Subset.trans {mods'' : Mods} (h : mods.Subset mods') (h' : mods'.Subset mods'') :
    mods.Subset mods'' := by
  rw [subset_iff] at h h' ⊢
  exact fun i hi => h' i (h i hi)

theorem or_subset : (first ||| second).Subset mods ↔ first.Subset mods ∧ second.Subset mods := by
  simp only [subset_iff, Nat.testBit_or, Bool.or_eq_true]
  exact ⟨fun h => ⟨fun i hi => h i (Or.inl hi), fun i hi => h i (Or.inr hi)⟩,
    fun h i hi => hi.elim (h.1 i) (h.2 i)⟩

-- A flag of one bit is there or not.
theorem has_bit (mods : Mods) (i : Nat) : mods.has (1 <<< i) ↔ Subset (1 <<< i) mods := by
  rw [Nat.one_shiftLeft, subset_iff]
  simp only [Nat.testBit_two_pow, decide_eq_true_eq]
  constructor
  · rintro h j rfl
    by_contra hnot
    refine absurd ?_ (bne_iff_ne.mp h)
    apply Nat.eq_of_testBit_eq
    intro k
    rw [Nat.testBit_and, Nat.testBit_two_pow, Nat.zero_testBit]
    by_cases hk : i = k
    · subst hk
      simp [Bool.eq_false_iff.mpr hnot]
    · simp [hk]
  · intro h
    refine bne_iff_ne.mpr fun hzero => ?_
    have hbit := congrArg (Nat.testBit · i) hzero
    simp [h i rfl] at hbit

theorem Subset.has_eq_false (h : mods.Subset mods') (hflag : mods'.has flag = false) :
    mods.has flag = false := by
  rw [Mods.has_eq_false] at hflag ⊢
  rw [← h, Nat.and_assoc, hflag, Nat.and_zero]

theorem Subset.has (h : mods.Subset mods') (hflag : mods.has flag) : mods'.has flag := by
  by_contra hnot
  rw [h.has_eq_false (Bool.eq_false_iff.mpr hnot)] at hflag
  cases hflag

theorem Apart.mono (h : Apart first second mods') (hsub : mods.Subset mods') :
    Apart first second mods := fun ⟨hfirst, hsecond⟩ => h ⟨hsub.has hfirst, hsub.has hsecond⟩

theorem Apart.of_left (h : mods.has first = false) : Apart first second mods := by
  simp [Apart, h]

theorem Apart.of_right (h : mods.has second = false) : Apart first second mods := by
  simp [Apart, h]

theorem without_subset (mods removed : Mods) : (without mods removed).Subset mods := by
  rw [subset_iff]
  intro i hi
  rw [testBit_without, Bool.and_eq_true] at hi
  exact hi.1

theorem has_without_self (mods : Mods) (hflag : flag.Subset removed) :
    (without mods removed).has flag = false := by
  rw [has_eq_false]
  apply Nat.eq_of_testBit_eq
  intro i
  rw [Nat.testBit_and, testBit_without, Nat.zero_testBit]
  cases hi : flag.testBit i with
  | false => simp
  | true => simp [subset_iff.mp hflag i hi]

-- What is not removed is as before.
theorem without_and (mods : Mods) (hflag : flag < 2 ^ 31) (hremoved : flag &&& removed = 0) :
    without mods removed &&& flag = mods &&& flag := by
  apply Nat.eq_of_testBit_eq
  intro i
  have hboth : (flag &&& removed).testBit i = false := by rw [hremoved, Nat.zero_testBit]
  rw [Nat.testBit_and] at hboth
  rw [Nat.testBit_and, Nat.testBit_and, testBit_without]
  cases hi : flag.testBit i with
  | false => simp
  | true =>
    have hlow : i < 31 := by
      by_contra hhigh
      have hpow : 2 ^ 31 ≤ 2 ^ i := Nat.pow_le_pow_right (by decide) (by omega)
      rw [Nat.testBit_lt_two_pow (hflag.trans_le hpow)] at hi
      cases hi
    rw [hi, Bool.true_and] at hboth
    simp [hlow, hboth]

theorem without_eq_self (hlt : mods < 2 ^ 31) (h : mods.has removed = false) :
    without mods removed = mods := by
  have hand := without_and mods hlt (has_eq_false.mp h)
  rw [Nat.and_self] at hand
  exact (without_subset mods removed).symm.trans hand

end Bits

section Steps

variable {mods mods' first second removed flag kept : Mods} {cond : Mods → Bool} {c : Prop}
  [Decidable c]

theorem ite_subset {whole : Mods} (h : mods.Subset whole) (h' : mods'.Subset whole) :
    (if c then mods else mods').Subset whole := by
  split
  · exact h
  · exact h'

theorem withoutIf_subset : (withoutIf cond removed mods).Subset mods :=
  ite_subset (without_subset mods removed) (Subset.refl mods)

theorem has_withoutIf_self : (withoutIf (·.has flag) flag mods).has flag = false := by
  unfold withoutIf
  split
  · exact has_without_self mods (Subset.refl flag)
  · exact Bool.eq_false_iff.mpr ‹_›

theorem withoutIf_apart :
    Apart first second (withoutIf (fun mods => mods.has first && mods.has second) second mods) := by
  unfold withoutIf
  split
  · exact Apart.of_right (has_without_self mods (Subset.refl second))
  · rename_i hnot
    rwa [Bool.and_eq_true] at hnot

theorem withoutIf_eq_self (hlt : mods < 2 ^ 31) (h : cond mods → mods.has removed = false) :
    withoutIf cond removed mods = mods := by
  unfold withoutIf
  split
  · exact without_eq_self hlt (h ‹_›)
  · rfl

theorem keepFirstKeymod_subset (mods : Mods) : (keepFirstKeymod mods).Subset mods := by
  unfold keepFirstKeymod
  split
  · exact without_subset mods _
  · exact Subset.refl mods

theorem subset_keymods (h : flag ∈ keyModsByValue) : flag.Subset KEY_MODS := by
  revert flag
  simp only [Subset]
  decide

theorem keymods_apart : ∀ first ∈ keyModsByValue, ∀ second ∈ keyModsByValue,
    first ≠ second → first &&& second = 0 := by
  decide

theorem has_keepFirst {one : Mods} (hflag : flag ∈ keyModsByValue) (hone : flag &&& one = 0) :
    (without mods (without (mods &&& KEY_MODS) one)).has flag = false := by
  rw [has_eq_false]
  apply Nat.eq_of_testBit_eq
  intro i
  have hboth : (flag &&& one).testBit i = false := by rw [hone, Nat.zero_testBit]
  rw [Nat.testBit_and] at hboth
  rw [Nat.testBit_and, testBit_without, testBit_without, Nat.testBit_and, Nat.zero_testBit]
  cases hi : flag.testBit i with
  | false => simp
  | true =>
    have hkey := subset_iff.mp (subset_keymods hflag) i hi
    rw [hi, Bool.true_and] at hboth
    simp only [hkey, hboth, Bool.and_true, Bool.not_false]
    cases mods.testBit i <;> cases decide (i < 31) <;> rfl

-- The first of several key mods is the only one that is left.
theorem keepFirstKeymod_single (mods : Mods) :
    (keyModsByValue.filter ((keepFirstKeymod mods).has ·)).length ≤ 1 := by
  unfold keepFirstKeymod
  split
  · rename_i one other rest hkeys
    have hone : one ∈ keyModsByValue := by
      have hin : one ∈ keyModsByValue.filter (mods.has ·) := by
        rw [hkeys]
        exact List.mem_cons_self
      exact (List.mem_filter.mp hin).1
    have hnodup : keyModsByValue.Nodup := by decide
    have honly : keyModsByValue.filter
        ((without mods (without (mods &&& KEY_MODS) one)).has ·) ⊆ [one] := by
      intro flag hflag
      obtain ⟨hmem, hhas⟩ := List.mem_filter.mp hflag
      rw [List.mem_singleton]
      by_contra hne
      rw [has_keepFirst hmem (keymods_apart flag hmem one hone hne)] at hhas
      cases hhas
    exact (List.subperm_of_subset (hnodup.filter _) honly).length_le
  · rename_i hfew
    cases hkeys : keyModsByValue.filter (mods.has ·) with
    | nil => exact Nat.zero_le 1
    | cons first left =>
      cases left with
      | nil => exact Nat.le_refl 1
      | cons second rest => exact absurd hkeys (hfew first second rest)

theorem keepFirstKeymod_eq_self (h : (keyModsByValue.filter (mods.has ·)).length ≤ 1) :
    keepFirstKeymod mods = mods := by
  unfold keepFirstKeymod
  split
  · rename_i hkeys
    rw [hkeys] at h
    exact absurd h (by simp)
  · rfl

theorem withoutIf_and (hkept : kept < 2 ^ 31) (hremoved : kept &&& removed = 0) :
    withoutIf cond removed mods &&& kept = mods &&& kept := by
  unfold withoutIf
  split
  · exact without_and mods hkept hremoved
  · rfl

theorem keepFirstKeymod_and (hkept : kept < 2 ^ 31) (hkeys : kept &&& KEY_MODS = 0) :
    keepFirstKeymod mods &&& kept = mods &&& kept := by
  unfold keepFirstKeymod
  split
  · apply without_and mods hkept
    apply Nat.eq_of_testBit_eq
    intro i
    have hboth : (kept &&& KEY_MODS).testBit i = false := by rw [hkeys, Nat.zero_testBit]
    rw [Nat.testBit_and] at hboth
    rw [Nat.testBit_and, testBit_without, Nat.testBit_and, Nat.zero_testBit]
    cases hi : kept.testBit i with
    | false => rfl
    | true =>
      rw [hi, Bool.true_and] at hboth
      simp [hboth]
  · rfl

end Steps

section Stages

def speedStage (mods : Mods) : Mods :=
  let dtnc := mods &&& (DOUBLETIME ||| NIGHTCORE)
  if dtnc = (DOUBLETIME ||| NIGHTCORE) then without mods DOUBLETIME
  else if dtnc ≠ 0 ∧ mods.has HALFTIME then without mods HALFTIME
  else mods

def hardrockStage : Mods → Mods :=
  withoutIf (fun mods => mods.has EASY && mods.has HARDROCK) HARDROCK

def failStage (mods : Mods) : Mods :=
  if mods.has (NOFAIL ||| RELAX ||| AUTOPILOT) then
    withoutIf (·.has PERFECT) PERFECT (withoutIf (·.has SUDDENDEATH) SUDDENDEATH mods)
  else mods

def noFailStage (mods : Mods) : Mods :=
  if mods.has (RELAX ||| AUTOPILOT) then withoutIf (·.has NOFAIL) NOFAIL mods else mods

def perfectStage : Mods → Mods :=
  withoutIf (fun mods => mods.has PERFECT && mods.has SUDDENDEATH) SUDDENDEATH

def osuStage (modeVn : Nat) (mods : Mods) : Mods :=
  if modeVn ≠ 0 then without mods OSU_SPECIFIC_MODS else mods

def maniaStage (modeVn : Nat) (mods : Mods) : Mods :=
  if modeVn ≠ 3 then without mods MANIA_SPECIFIC_MODS else mods

def autopilotStage (modeVn : Nat) (mods : Mods) : Mods :=
  if modeVn = 0 ∧ mods.has AUTOPILOT then withoutIf (·.has (SPUNOUT ||| RELAX)) AUTOPILOT mods
  else mods

def relaxStage (modeVn : Nat) (mods : Mods) : Mods :=
  if modeVn = 3 then
    withoutIf (fun mods => mods.has HIDDEN && mods.has FADEIN) FADEIN (without mods RELAX)
  else mods

-- The removals in their order.
def stages (modeVn : Nat) : List (Mods → Mods) :=
  [speedStage, hardrockStage, failStage, noFailStage, perfectStage, osuStage modeVn,
    maniaStage modeVn, autopilotStage modeVn, relaxStage modeVn, keepFirstKeymod]

theorem filterInvalidCombos_eq (mods : Mods) (modeVn : Nat) :
    filterInvalidCombos mods modeVn = (stages modeVn).foldl (fun mods stage => stage mods) mods :=
  rfl

variable {mods kept : Mods} {modeVn : Nat} {fs : List (Mods → Mods)}

theorem foldl_subset (hsub : ∀ f ∈ fs, ∀ mods, (f mods).Subset mods) (mods : Mods) :
    (fs.foldl (fun mods f => f mods) mods).Subset mods := by
  induction fs generalizing mods with
  | nil => exact Subset.refl mods
  | cons f rest ih =>
    have hrest := ih (fun g hg => hsub g (List.mem_cons_of_mem f hg)) (f mods)
    exact hrest.trans (hsub f List.mem_cons_self mods)

-- What one of the removals sees to, and no removal takes back, holds at the end.
theorem foldl_spec {P : Mods → Prop} (hP : ∀ {m m' : Mods}, P m' → m.Subset m' → P m)
    (hsub : ∀ f ∈ fs, ∀ mods, (f mods).Subset mods) {f : Mods → Mods} (hf : f ∈ fs) {mods : Mods}
    (h : ∀ m, m.Subset mods → P (f m)) : P (fs.foldl (fun mods f => f mods) mods) := by
  induction fs generalizing mods with
  | nil => exact absurd hf List.not_mem_nil
  | cons g rest ih =>
    have hrest : ∀ f ∈ rest, ∀ mods, (f mods).Subset mods :=
      fun f hf => hsub f (List.mem_cons_of_mem g hf)
    have hg := hsub g List.mem_cons_self mods
    rcases List.mem_cons.mp hf with rfl | hlater
    · exact hP (h mods (Subset.refl mods)) (foldl_subset hrest _)
    · exact ih hrest hlater fun m hm => h m (hm.trans hg)

theorem stages_subset (modeVn : Nat) :
    ∀ stage ∈ stages modeVn, ∀ mods, (stage mods).Subset mods := by
  intro stage hstage mods
  simp only [stages, List.mem_cons, List.not_mem_nil, or_false] at hstage
  rcases hstage with rfl | rfl | rfl | rfl | rfl | rfl | rfl | rfl | rfl | rfl
  · exact ite_subset (without_subset mods _) (ite_subset (without_subset mods _) (Subset.refl mods))
  · exact withoutIf_subset
  · exact ite_subset (withoutIf_subset.trans withoutIf_subset) (Subset.refl mods)
  · exact ite_subset withoutIf_subset (Subset.refl mods)
  · exact withoutIf_subset
  · exact ite_subset (without_subset mods _) (Subset.refl mods)
  · exact ite_subset (without_subset mods _) (Subset.refl mods)
  · exact ite_subset withoutIf_subset (Subset.refl mods)
  · exact ite_subset (withoutIf_subset.trans (without_subset mods _)) (Subset.refl mods)
  · exact keepFirstKeymod_subset mods

theorem stages_mem (modeVn i : Nat) (hi : i < 10) : (stages modeVn)[i] ∈ stages modeVn :=
  List.getElem_mem hi

theorem filterInvalidCombos_subset (mods : Mods) (modeVn : Nat) :
    (filterInvalidCombos mods modeVn).Subset mods := foldl_subset (stages_subset modeVn) mods

-- A filtered value is apart where one of the stages keeps it so.
theorem filter_apart {first second : Mods} {stage : Mods → Mods} (hstage : stage ∈ stages modeVn)
    (h : ∀ m, m.Subset mods → Apart first second (stage m)) :
    Apart first second (filterInvalidCombos mods modeVn) :=
  foldl_spec Apart.mono (stages_subset modeVn) hstage h

theorem filter_has_eq_false {flag : Mods} {stage : Mods → Mods} (hstage : stage ∈ stages modeVn)
    (h : ∀ m, (stage m).has flag = false) : (filterInvalidCombos mods modeVn).has flag = false :=
  foldl_spec (fun hm hsub => hsub.has_eq_false hm) (stages_subset modeVn) hstage fun m _ => h m

-- DT, NC and HT come together.
def AllSpeeds (mods : Mods) : Prop := mods.has DOUBLETIME ∧ mods.has NIGHTCORE ∧ mods.has HALFTIME

instance (mods : Mods) : Decidable mods.AllSpeeds :=
  inferInstanceAs (Decidable (_ ∧ _ ∧ _))

theorem AllSpeeds.mono {mods' : Mods} (h : mods.AllSpeeds) (hsub : mods.Subset mods') :
    mods'.AllSpeeds := ⟨hsub.has h.1, hsub.has h.2.1, hsub.has h.2.2⟩

theorem and_speed_eq_iff (mods : Mods) :
    mods &&& (DOUBLETIME ||| NIGHTCORE) = (DOUBLETIME ||| NIGHTCORE) ↔
      mods.has DOUBLETIME ∧ mods.has NIGHTCORE := by
  rw [Nat.and_comm]
  change (DOUBLETIME ||| NIGHTCORE).Subset mods ↔ _
  rw [or_subset, DOUBLETIME, NIGHTCORE, has_bit, has_bit]

theorem speedStage_apart (h : ¬mods.AllSpeeds) :
    Apart DOUBLETIME NIGHTCORE (speedStage mods) ∧ Apart DOUBLETIME HALFTIME (speedStage mods) ∧
      Apart NIGHTCORE HALFTIME (speedStage mods) := by
  simp only [speedStage, and_speed_eq_iff]
  split
  · rename_i hboth
    have hslow : mods.has HALFTIME = false :=
      Bool.eq_false_iff.mpr fun hslow => h ⟨hboth.1, hboth.2, hslow⟩
    have hdouble := has_without_self mods (Subset.refl DOUBLETIME)
    exact ⟨Apart.of_left hdouble, Apart.of_left hdouble,
      Apart.of_right ((without_subset mods _).has_eq_false hslow)⟩
  · rename_i hboth
    split
    · have hslow := has_without_self mods (Subset.refl HALFTIME)
      exact ⟨Apart.mono hboth (without_subset mods _), Apart.of_right hslow, Apart.of_right hslow⟩
    · rename_i hslow
      have hand : mods.has HALFTIME → mods &&& (DOUBLETIME ||| NIGHTCORE) = 0 :=
        fun hhalf => by_contra fun hne => hslow ⟨hne, hhalf⟩
      have hnone : mods.has HALFTIME →
          mods.has DOUBLETIME = false ∧ mods.has NIGHTCORE = false := by
        intro hhalf
        have hor := has_eq_false.mpr (hand hhalf)
        rwa [has_or, Bool.or_eq_false_iff] at hor
      refine ⟨hboth, fun hpair => ?_, fun hpair => ?_⟩
      · rw [(hnone hpair.2).1] at hpair
        exact absurd hpair.1 Bool.false_ne_true
      · rw [(hnone hpair.2).2] at hpair
        exact absurd hpair.1 Bool.false_ne_true

theorem failStage_apart (mods : Mods) :
    Apart (NOFAIL ||| RELAX ||| AUTOPILOT) (SUDDENDEATH ||| PERFECT) (failStage mods) := by
  unfold failStage
  split
  · apply Apart.of_right
    rw [has_or, Bool.or_eq_false_iff]
    exact ⟨withoutIf_subset.has_eq_false has_withoutIf_self, has_withoutIf_self⟩
  · exact Apart.of_left (Bool.eq_false_iff.mpr ‹_›)

theorem noFailStage_apart (mods : Mods) :
    Apart NOFAIL (RELAX ||| AUTOPILOT) (noFailStage mods) := by
  unfold noFailStage
  split
  · exact Apart.of_left has_withoutIf_self
  · exact Apart.of_right (Bool.eq_false_iff.mpr ‹_›)

theorem osuStage_has (hmode : modeVn ≠ 0) (mods : Mods) :
    (osuStage modeVn mods).has OSU_SPECIFIC_MODS = false := by
  rw [osuStage, if_pos hmode]
  exact has_without_self mods (Subset.refl _)

theorem maniaStage_has (hmode : modeVn ≠ 3) (mods : Mods) :
    (maniaStage modeVn mods).has MANIA_SPECIFIC_MODS = false := by
  rw [maniaStage, if_pos hmode]
  exact has_without_self mods (Subset.refl _)

theorem autopilotStage_apart (mods : Mods) :
    Apart AUTOPILOT (RELAX ||| SPUNOUT) (autopilotStage 0 mods) := by
  have hcomm : RELAX ||| SPUNOUT = SPUNOUT ||| RELAX := Nat.or_comm _ _
  rw [autopilotStage, hcomm]
  split
  · unfold withoutIf
    split
    · exact Apart.of_left (has_without_self mods (Subset.refl _))
    · exact Apart.of_right (Bool.eq_false_iff.mpr ‹_›)
  · rename_i hnot
    exact Apart.of_left (Bool.eq_false_iff.mpr fun hhas => hnot ⟨rfl, hhas⟩)

theorem relaxStage_has (mods : Mods) : (relaxStage 3 mods).has RELAX = false := by
  rw [relaxStage, if_pos rfl]
  exact withoutIf_subset.has_eq_false (has_without_self mods (Subset.refl _))

theorem relaxStage_apart (mods : Mods) : Apart HIDDEN FADEIN (relaxStage 3 mods) := by
  rw [relaxStage, if_pos rfl]
  exact withoutIf_apart

-- Each conflict is seen to by one of the stages: the speeds where they do not all come.
theorem compatible_filter (modeVn : Nat) (h : ¬mods.AllSpeeds) :
    (filterInvalidCombos mods modeVn).Compatible modeVn := by
  have hspeed {m : Mods} (hm : m.Subset mods) := speedStage_apart fun hall : m.AllSpeeds =>
    h (hall.mono hm)
  have hosu (hmode : modeVn ≠ 0) :
      (filterInvalidCombos mods modeVn).has OSU_SPECIFIC_MODS = false :=
    filter_has_eq_false (stages_mem modeVn 5 (by decide)) (osuStage_has hmode)
  refine ⟨?_, ?_, hosu, ?_, ?_, ?_⟩
  · simp only [conflicts, List.forall_mem_cons, List.not_mem_nil, false_implies, implies_true,
      and_true]
    refine ⟨?_, ?_, ?_, ?_, ?_, ?_, ?_, ?_⟩
    · exact filter_apart (stages_mem modeVn 0 (by decide)) fun m hm => (hspeed hm).1
    · exact filter_apart (stages_mem modeVn 0 (by decide)) fun m hm => (hspeed hm).2.1
    · exact filter_apart (stages_mem modeVn 0 (by decide)) fun m hm => (hspeed hm).2.2
    · exact filter_apart (stages_mem modeVn 1 (by decide)) fun m _ => withoutIf_apart
    · exact filter_apart (stages_mem modeVn 2 (by decide)) fun m _ => failStage_apart m
    · exact filter_apart (stages_mem modeVn 3 (by decide)) fun m _ => noFailStage_apart m
    · exact filter_apart (stages_mem modeVn 4 (by decide)) fun m _ => withoutIf_apart
    · cases eq_or_ne modeVn 0 with
      | inl hmode =>
        subst hmode
        exact filter_apart (stages_mem 0 7 (by decide)) fun m _ => autopilotStage_apart m
      | inr hmode =>
        -- outside osu! the autopilot goes with the mods that only osu! has
        have hnone := hosu hmode
        rw [OSU_SPECIFIC_MODS, has_or, has_or, Bool.or_eq_false_iff, Bool.or_eq_false_iff] at hnone
        exact Apart.of_left hnone.1.1
  · rintro rfl
    exact filter_apart (stages_mem 3 8 (by decide)) fun m _ => relaxStage_apart m
  · exact fun hmode => filter_has_eq_false (stages_mem modeVn 6 (by decide)) (maniaStage_has hmode)
  · rintro rfl
    exact filter_has_eq_false (stages_mem 3 8 (by decide)) relaxStage_has
  · exact keepFirstKeymod_single _

-- In any mode the mods of some other mode are taken out, and unknown bits with them.
theorem filter_lt (mods : Mods) (modeVn : Nat) : filterInvalidCombos mods modeVn < 2 ^ 31 := by
  have hlt {m m' : Mods} (h : m' < 2 ^ 31) (hsub : m.Subset m') : m < 2 ^ 31 := by
    rw [← hsub]
    exact Nat.and_lt_two_pow m h
  cases eq_or_ne modeVn 0 with
  | inl hmode =>
    subst hmode
    exact foldl_spec hlt (stages_subset 0) (stages_mem 0 6 (by decide)) fun m _ => without_lt m _
  | inr hmode =>
    refine foldl_spec hlt (stages_subset modeVn) (stages_mem modeVn 5 (by decide)) fun m _ => ?_
    change osuStage modeVn m < 2 ^ 31
    rw [osuStage, if_pos hmode]
    exact without_lt m _

theorem foldl_eq_self (h : ∀ f ∈ fs, f mods = mods) :
    fs.foldl (fun mods f => f mods) mods = mods := by
  induction fs with
  | nil => rfl
  | cons f rest ih =>
    rw [List.foldl_cons, h f List.mem_cons_self]
    exact ih fun g hg => h g (List.mem_cons_of_mem f hg)

theorem Apart.right {first second : Mods} (h : Apart first second mods) (hfirst : mods.has first) :
    mods.has second = false := Bool.eq_false_iff.mpr fun hsecond => h ⟨hfirst, hsecond⟩

theorem Apart.withoutIf_eq {first second : Mods} (h : Apart first second mods)
    (hlt : mods < 2 ^ 31) :
    withoutIf (fun mods => mods.has first && mods.has second) second mods = mods :=
  withoutIf_eq_self hlt fun hboth => absurd (Bool.and_eq_true _ _ ▸ hboth) h

theorem speedStage_eq_self (hboth : Apart DOUBLETIME NIGHTCORE mods)
    (hdouble : Apart DOUBLETIME HALFTIME mods) (hnight : Apart NIGHTCORE HALFTIME mods) :
    speedStage mods = mods := by
  simp only [speedStage, and_speed_eq_iff]
  rw [if_neg hboth, if_neg]
  rintro ⟨hsome, hslow⟩
  refine hsome (has_eq_false.mp ?_)
  rw [has_or, Bool.or_eq_false_iff]
  exact ⟨Bool.eq_false_iff.mpr fun h => hdouble ⟨h, hslow⟩,
    Bool.eq_false_iff.mpr fun h => hnight ⟨h, hslow⟩⟩

theorem failStage_eq_self (hlt : mods < 2 ^ 31)
    (h : Apart (NOFAIL ||| RELAX ||| AUTOPILOT) (SUDDENDEATH ||| PERFECT) mods) :
    failStage mods = mods := by
  unfold failStage
  split
  · rename_i hfail
    have hnone := h.right hfail
    rw [has_or, Bool.or_eq_false_iff] at hnone
    rw [withoutIf_eq_self hlt fun _ => hnone.1, withoutIf_eq_self hlt fun _ => hnone.2]
  · rfl

-- Where nothing is in conflict, no stage has something to remove.
theorem Compatible.filter_eq_self (h : mods.Compatible modeVn) (hlt : mods < 2 ^ 31) :
    filterInvalidCombos mods modeVn = mods := by
  have happart := h.apart
  simp only [conflicts, List.forall_mem_cons, List.not_mem_nil, false_implies, implies_true,
    and_true] at happart
  obtain ⟨hboth, hdouble, hnight, hhard, hfail, hnoFail, hperfect, hpilot⟩ := happart
  rw [filterInvalidCombos_eq]
  refine foldl_eq_self fun stage hstage => ?_
  simp only [stages, List.mem_cons, List.not_mem_nil, or_false] at hstage
  rcases hstage with rfl | rfl | rfl | rfl | rfl | rfl | rfl | rfl | rfl | rfl
  · exact speedStage_eq_self hboth hdouble hnight
  · exact hhard.withoutIf_eq hlt
  · exact failStage_eq_self hlt hfail
  · refine ite_eq_right_iff.mpr fun hrelax => withoutIf_eq_self hlt fun hfail => ?_
    exact absurd ⟨hfail, hrelax⟩ hnoFail
  · exact hperfect.withoutIf_eq hlt
  · exact ite_eq_right_iff.mpr fun hmode => without_eq_self hlt (h.osuSpecific hmode)
  · exact ite_eq_right_iff.mpr fun hmode => without_eq_self hlt (h.maniaSpecific hmode)
  · refine ite_eq_right_iff.mpr fun hauto => withoutIf_eq_self hlt fun hspun => ?_
    have hcomm : RELAX ||| SPUNOUT = SPUNOUT ||| RELAX := Nat.or_comm _ _
    exact absurd ⟨hauto.2, hcomm ▸ hspun⟩ hpilot
  · refine ite_eq_right_iff.mpr fun hmode => ?_
    rw [without_eq_self hlt (h.relax hmode)]
    exact (h.fadeIn hmode).withoutIf_eq hlt
  · exact keepFirstKeymod_eq_self h.keymods

-- NC and HT come through every stage after the first.
theorem later_and : ∀ stage ∈ (stages modeVn).tail, ∀ mods,
    stage mods &&& (NIGHTCORE ||| HALFTIME) = mods &&& (NIGHTCORE ||| HALFTIME) := by
  have hif {c : Prop} [Decidable c] {m m' : Mods}
      (h : m' &&& (NIGHTCORE ||| HALFTIME) = m &&& (NIGHTCORE ||| HALFTIME)) :
      (if c then m' else m) &&& (NIGHTCORE ||| HALFTIME) = m &&& (NIGHTCORE ||| HALFTIME) := by
    split
    · exact h
    · rfl
  have hkept : NIGHTCORE ||| HALFTIME < 2 ^ 31 := by decide
  intro stage hstage mods
  simp only [stages, List.tail_cons, List.mem_cons, List.not_mem_nil, or_false] at hstage
  rcases hstage with rfl | rfl | rfl | rfl | rfl | rfl | rfl | rfl | rfl
  · exact withoutIf_and hkept (by decide)
  · exact hif ((withoutIf_and hkept (by decide)).trans (withoutIf_and hkept (by decide)))
  · exact hif (withoutIf_and hkept (by decide))
  · exact withoutIf_and hkept (by decide)
  · exact hif (without_and mods hkept (by decide))
  · exact hif (without_and mods hkept (by decide))
  · exact hif (withoutIf_and hkept (by decide))
  · exact hif ((withoutIf_and hkept (by decide)).trans (without_and mods hkept (by decide)))
  · exact keepFirstKeymod_and hkept (by decide)

theorem foldl_and (h : ∀ f ∈ fs, ∀ mods, f mods &&& kept = mods &&& kept) (mods : Mods) :
    fs.foldl (fun mods f => f mods) mods &&& kept = mods &&& kept := by
  induction fs generalizing mods with
  | nil => rfl
  | cons f rest ih =>
    rw [List.foldl_cons, ih fun g hg => h g (List.mem_cons_of_mem f hg), h f List.mem_cons_self]

-- Where all three come, DT goes and HT stays behind with NC.
theorem AllSpeeds.filter (h : mods.AllSpeeds) (modeVn : Nat) :
    ¬Apart NIGHTCORE HALFTIME (filterInvalidCombos mods modeVn) := by
  have hspeed : speedStage mods = without mods DOUBLETIME := by
    rw [speedStage]
    exact if_pos ((and_speed_eq_iff mods).mpr ⟨h.1, h.2.1⟩)
  have hkept : filterInvalidCombos mods modeVn &&& (NIGHTCORE ||| HALFTIME) =
      mods &&& (NIGHTCORE ||| HALFTIME) := by
    calc filterInvalidCombos mods modeVn &&& (NIGHTCORE ||| HALFTIME)
        = speedStage mods &&& (NIGHTCORE ||| HALFTIME) := foldl_and later_and (speedStage mods)
      _ = mods &&& (NIGHTCORE ||| HALFTIME) := by
        rw [hspeed]
        exact without_and mods (by decide) (by decide)
  have hflag {flag : Mods} (hsub : flag.Subset (NIGHTCORE ||| HALFTIME)) :
      (filterInvalidCombos mods modeVn).has flag = mods.has flag := by
    rw [Mods.has, Mods.has, ← hsub, Nat.and_comm flag, ← Nat.and_assoc, hkept, Nat.and_assoc]
  have hnight : (filterInvalidCombos mods modeVn).has NIGHTCORE :=
    (hflag (or_subset.mp (Subset.refl _)).1).trans h.2.1
  have hslow : (filterInvalidCombos mods modeVn).has HALFTIME :=
    (hflag (or_subset.mp (Subset.refl _)).2).trans h.2.2
  exact fun hnot => hnot ⟨hnight, hslow⟩

end Stages

-- The rules see to all that they name, but for HT with both DT and NC.
theorem filterInvalidCombos_filtered_iff (mods : Mods) (modeVn : Nat) :
    Filtered modeVn mods (filterInvalidCombos mods modeVn) ↔ ¬mods.AllSpeeds := by
  constructor
  · intro h hall
    exact hall.filter modeVn (h.compatible.apart (NIGHTCORE, HALFTIME) (by decide))
  · intro h
    have hcompatible := compatible_filter modeVn h
    exact ⟨filterInvalidCombos_subset mods modeVn, hcompatible,
      hcompatible.filter_eq_self (filter_lt mods modeVn)⟩

theorem not_filtered : ¬Filtered 0 (DOUBLETIME ||| NIGHTCORE ||| HALFTIME)
    (filterInvalidCombos (DOUBLETIME ||| NIGHTCORE ||| HALFTIME) 0) := by
  intro h
  exact h.compatible.apart (NIGHTCORE, HALFTIME) (by decide) ⟨by decide, by decide⟩

end BanchoPrism.Mods
