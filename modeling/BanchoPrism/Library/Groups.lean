import Mathlib.Logic.Function.Basic
import Mathlib.Tactic.SplitIfs

namespace BanchoPrism.Library

-- Groups with a leader each: the group that someone is in, who has the rank of a leader, and
-- whom a group names as its leader.
@[ext]
structure Groups (U C : Type) where
  home : U → Option C
  leads : U → Prop
  owner : C → Option U

namespace Groups

variable {U C : Type}

-- The leader of a group is the one in it that has the rank, and nobody is in a group without one.
structure Sound (m : Groups U C) : Prop where
  owner : ∀ c u, m.owner c = some u ↔ m.home u = some c ∧ m.leads u
  housed : ∀ c u, m.home u = some c → ∃ v, m.owner c = some v

-- Nobody else is in the group that someone is in.
def Apart (m : Groups U C) (u : U) : Prop := ∀ c v, m.home u = some c → m.home v = some c → v = u

-- From m to m' nobody comes to a group but to a new one of their own.
def Onward (new : C → Prop) (m m' : Groups U C) : Prop :=
  ∀ c u, m'.home u = some c →
    m.home u = some c ∨ new c ∧ (∀ v, m.home v ≠ some c) ∧ ∀ v, m'.home v = some c → v = u

variable {m m' : Groups U C} {new : C → Prop} {c : C} {u : U}

theorem Onward.of_home (h : ∀ c u, m'.home u = some c → m.home u = some c) : Onward new m m' :=
  fun c u hu => Or.inl (h c u hu)

theorem Onward.apart (h : Onward new m m') (hu : m.Apart u) : m'.Apart u := by
  intro c v hhome hv
  rcases h c u hhome with hold | ⟨-, -, halone⟩
  · rcases h c v hv with hold' | ⟨-, hfresh, -⟩
    · exact hu c v hold hold'
    · exact absurd hold (hfresh u)
  · exact halone v hv

theorem Onward.home_or_apart (h : Onward new m m') (hu : m.home u = some c ∨ m.Apart u) :
    m'.home u = some c ∨ m'.Apart u := by
  rcases hu with hhome | hu
  · by_cases hstays : m'.home u = some c
    · exact Or.inl hstays
    · refine Or.inr fun c' v hu' hv => ?_
      rcases h c' u hu' with hold | ⟨-, -, halone⟩
      · rw [hhome] at hold
        rw [← hold] at hu'
        exact absurd hu' hstays
      · exact halone v hv
  · exact Or.inr (h.apart hu)

-- Who is in a group that is there already was in it before.
theorem Onward.home (h : Onward new m m') (hold : ¬new c) (hu : m'.home u = some c) :
    m.home u = some c := by
  rcases h c u hu with hhome | ⟨hnew, -⟩
  · exact hhome
  · exact absurd hnew hold

-- Someone who is alone in a group is its leader.
theorem Sound.home_of_apart (h : Sound m) (hu : m.Apart u) (hnone : ∀ c, m.owner c ≠ some u) :
    m.home u = none := by
  cases hhome : m.home u with
  | none => rfl
  | some c =>
    obtain ⟨v, hv⟩ := h.housed c u hhome
    have hvu : v = u := hu c v hhome ((h.owner c v).mp hv).1
    subst hvu
    exact absurd hv (hnone c)

variable [DecidableEq U] [DecidableEq C]

def found (m : Groups U C) (u : U) (c : C) : Groups U C where
  home := Function.update m.home u (some c)
  leads := fun v => v = u ∨ m.leads v
  owner := Function.update m.owner c (some u)

def remove (m : Groups U C) (us : List U) : Groups U C where
  home := fun v => if v ∈ us then none else m.home v
  leads := fun v => v ∉ us ∧ m.leads v
  owner := m.owner

def dissolve (m : Groups U C) (c : C) : Groups U C :=
  { m with owner := Function.update m.owner c none }

def handOver (m : Groups U C) (c : C) (target u : U) : Groups U C :=
  { m with
    leads := fun v => v ≠ u ∧ (v = target ∨ m.leads v)
    owner := Function.update m.owner c (some target) }

section Operations

variable {us : List U} {target : U}

theorem Onward.found (hfresh : ∀ v, m.home v ≠ some c) (hnew : new c) :
    Onward new m (m.found u c) := by
  intro c' v hv
  simp only [Groups.found, Function.update_apply] at hv ⊢
  split at hv
  case isTrue hvu =>
    cases hv
    refine Or.inr ⟨hnew, hfresh, fun w hw => ?_⟩
    split at hw
    case isTrue hwu => rw [hwu, hvu]
    case isFalse => exact absurd hw (hfresh w)
  case isFalse => exact Or.inl hv

omit [DecidableEq C] in
theorem home_remove (h : (m.remove us).home u = some c) : u ∉ us ∧ m.home u = some c := by
  simp only [Groups.remove] at h
  split at h
  case isTrue => cases h
  case isFalse hu => exact ⟨hu, h⟩

omit [DecidableEq C] in
theorem Onward.remove : Onward new m (m.remove us) := Onward.of_home fun _ _ h => (home_remove h).2

theorem Sound.found (h : Sound m) (hu : m.Apart u) (hnone : ∀ c, m.owner c ≠ some u)
    (hfresh : ∀ v, m.home v ≠ some c) : Sound (m.found u c) := by
  have hhome := h.home_of_apart hu hnone
  constructor
  · intro c' v
    simp only [Groups.found, Function.update_apply]
    by_cases hc : c' = c
    · subst hc
      rw [if_pos rfl]
      by_cases hv : v = u
      · simp [hv]
      · have hne : u ≠ v := Ne.symm hv
        simp [hv, hne, hfresh v]
    · rw [if_neg hc]
      by_cases hv : v = u
      · subst hv
        simp [hnone c', Ne.symm hc]
      · simp [hv, h.owner c' v]
  · intro c' v hv
    simp only [Groups.found, Function.update_apply] at hv ⊢
    split at hv
    case isTrue hvu =>
      cases hv
      exact ⟨u, if_pos rfl⟩
    case isFalse =>
      have hne : c' ≠ c := fun heq => hfresh v (heq ▸ hv)
      rw [if_neg hne]
      exact h.housed c' v hv

-- Some that lead no group leave theirs.
omit [DecidableEq C] in
theorem Sound.remove (h : Sound m) (hus : ∀ v ∈ us, ∀ c, m.owner c ≠ some v) :
    Sound (m.remove us) := by
  constructor
  · intro c v
    constructor
    · intro hv
      have hnot : v ∉ us := fun hmem => hus v hmem c hv
      obtain ⟨hhome, hleads⟩ := (h.owner c v).mp hv
      exact ⟨(if_neg hnot).trans hhome, hnot, hleads⟩
    · rintro ⟨hv, -, hleads⟩
      exact (h.owner c v).mpr ⟨(home_remove hv).2, hleads⟩
  · intro c v hv
    exact h.housed c v (home_remove hv).2

-- A group goes, with all that are in it; none of those that leave leads another.
theorem Sound.disband (h : Sound m) (hall : ∀ v, m.home v = some c → v ∈ us)
    (hus : ∀ v ∈ us, ∀ c', m.owner c' = some v → c' = c) : Sound ((m.remove us).dissolve c) := by
  constructor
  · intro c' v
    simp only [Groups.dissolve, Function.update_apply]
    by_cases hc : c' = c
    · subst hc
      rw [if_pos rfl]
      constructor
      · exact nofun
      · rintro ⟨hv, hnot, -⟩
        exact absurd (hall v (home_remove hv).2) hnot
    · rw [if_neg hc]
      constructor
      · intro hv
        have hnot : v ∉ us := fun hmem => hc (hus v hmem c' hv)
        obtain ⟨hhome, hleads⟩ := (h.owner c' v).mp hv
        exact ⟨(if_neg hnot).trans hhome, hnot, hleads⟩
      · rintro ⟨hv, -, hleads⟩
        exact (h.owner c' v).mpr ⟨(home_remove hv).2, hleads⟩
  · intro c' v hv
    obtain ⟨hnot, hhome⟩ := home_remove hv
    have hc : c' ≠ c := fun heq => hnot (hall v (heq ▸ hhome))
    obtain ⟨w, hw⟩ := h.housed c' v hhome
    exact ⟨w, (Function.update_of_ne hc _ _).trans hw⟩

-- The leader of a group is the one that gives it up, or the target already.
omit [DecidableEq U] in
theorem Sound.handOver (h : Sound m) (htarget : m.home target = some c) {v : U}
    (howner : m.owner c = some v) (hv : v = u ∨ v = target)
    (hu : ∀ c', m.owner c' = some u → c' = c) (hne : target ≠ u) :
    Sound (m.handOver c target u) := by
  constructor
  · intro c' w
    simp only [Groups.handOver, Function.update_apply]
    by_cases hc : c' = c
    · subst hc
      rw [if_pos rfl]
      constructor
      · intro hw
        cases hw
        exact ⟨htarget, hne, Or.inl rfl⟩
      · rintro ⟨hhome, hwu, rfl | hleads⟩
        · rfl
        · have hw := (h.owner c' w).mpr ⟨hhome, hleads⟩
          rw [howner] at hw
          cases hw
          rw [hv.resolve_left hwu]
    · rw [if_neg hc]
      constructor
      · intro hw
        have hwu : w ≠ u := fun heq => hc (hu c' (heq ▸ hw))
        obtain ⟨hhome, hleads⟩ := (h.owner c' w).mp hw
        exact ⟨hhome, hwu, Or.inr hleads⟩
      · rintro ⟨hhome, -, rfl | hleads⟩
        · rw [htarget] at hhome
          exact absurd (Option.some.inj hhome).symm hc
        · exact (h.owner c' w).mpr ⟨hhome, hleads⟩
  · intro c' w hw
    simp only [Groups.handOver, Function.update_apply]
    split
    case isTrue => exact ⟨target, rfl⟩
    case isFalse => exact h.housed c' w hw

end Operations

end Groups

end BanchoPrism.Library
