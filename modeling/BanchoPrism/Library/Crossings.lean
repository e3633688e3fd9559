import Mathlib.Data.List.Perm.Basic
import Mathlib.Algebra.Order.BigOperators.Group.List
import Mathlib.Algebra.Order.Ring.Nat

namespace BanchoPrism.Library

-- How often a sequence that was at one value goes from below a level to it or above.
def rises {ν : Type} [LinearOrder ν] (level : ν) : ν → List ν → ℕ
  | _, [] => 0
  | last, v :: rest => (if last < level ∧ level ≤ v then 1 else 0) + rises level v rest

-- A sequence is at the level, then below it, and then at it again.
def Revisits {ν : Type} [LinearOrder ν] (level : ν) (l : List ν) : Prop :=
  ∃ x y z, [x, y, z].Sublist l ∧ level ≤ x ∧ y < level ∧ level ≤ z

section Rises

variable {ν : Type} [LinearOrder ν] {level first : ν} {l : List ν}

-- It goes below the level and comes back.
def Returns (level : ν) (l : List ν) : Prop :=
  ∃ y z, [y, z].Sublist l ∧ y < level ∧ level ≤ z

theorem returns_cons {v : ν} :
    Returns level (v :: l) ↔ Returns level l ∨ (v < level ∧ ∃ z ∈ l, level ≤ z) := by
  constructor
  · rintro ⟨y, z, hsub, hy, hz⟩
    cases hsub with
    | cons _ hsub => exact Or.inl ⟨y, z, hsub, hy, hz⟩
    | cons_cons _ hsub => exact Or.inr ⟨hy, z, List.singleton_sublist.mp hsub, hz⟩
  · rintro (⟨y, z, hsub, hy, hz⟩ | ⟨hv, z, hz, hlevel⟩)
    · exact ⟨y, z, hsub.cons v, hy, hz⟩
    · exact ⟨v, z, (List.singleton_sublist.mpr hz).cons_cons v, hv, hlevel⟩

theorem revisits_cons {v : ν} :
    Revisits level (v :: l) ↔ Revisits level l ∨ (level ≤ v ∧ Returns level l) := by
  constructor
  · rintro ⟨x, y, z, hsub, hx, hy, hz⟩
    cases hsub with
    | cons _ hsub => exact Or.inl ⟨x, y, z, hsub, hx, hy, hz⟩
    | cons_cons _ hsub => exact Or.inr ⟨hx, y, z, hsub, hy, hz⟩
  · rintro (⟨x, y, z, hsub, hx, hy, hz⟩ | ⟨hv, y, z, hsub, hy, hz⟩)
    · exact ⟨x, y, z, hsub.cons v, hx, hy, hz⟩
    · exact ⟨v, y, z, hsub.cons_cons v, hv, hy, hz⟩

theorem Revisits.returns (h : Revisits level l) : Returns level l := by
  obtain ⟨x, y, z, hsub, -, hy, hz⟩ := h
  exact ⟨y, z, (List.sublist_cons_self x [y, z]).trans hsub, hy, hz⟩

theorem rises_below_eq_zero (hfirst : first < level) :
    rises level first l = 0 ↔ ∀ v ∈ l, v < level := by
  induction l generalizing first with
  | nil => simp [rises]
  | cons v rest ih =>
    rcases lt_or_ge v level with hv | hv
    · rw [rises, if_neg (fun h => absurd h.2 (not_le_of_gt hv)), Nat.zero_add, ih hv]
      simp [hv]
    · rw [rises, if_pos ⟨hfirst, hv⟩]
      simp [not_lt_of_ge hv]

-- From the level on every rise is a return to it.
theorem rises_above_eq_zero (hfirst : level ≤ first) :
    rises level first l = 0 ↔ ¬ Returns level l := by
  induction l generalizing first with
  | nil => simp [rises, Returns]
  | cons v rest ih =>
    rw [rises, if_neg (fun h => absurd h.1 (not_lt_of_ge hfirst)), Nat.zero_add, returns_cons]
    rcases lt_or_ge v level with hv | hv
    · rw [rises_below_eq_zero hv]
      constructor
      · rintro hall (⟨y, z, hsub, -, hz⟩ | ⟨-, z, hz, hlevel⟩)
        · have hmem := hsub.subset (List.mem_cons_of_mem y (List.mem_singleton_self z))
          exact absurd (hall z hmem) (not_lt_of_ge hz)
        · exact absurd (hall z hz) (not_lt_of_ge hlevel)
      · intro hnot z hz
        by_contra hlevel
        exact hnot (Or.inr ⟨hv, z, hz, not_lt.mp hlevel⟩)
    · rw [ih hv]
      simp [not_lt_of_ge hv]

-- There is the one rise that it takes to get above the level, unless the level is revisited.
theorem rises_eq_iff :
    rises level first l = (if first < level ∧ ∃ v ∈ l, level ≤ v then 1 else 0) ↔
      ¬ Revisits level (first :: l) := by
  induction l generalizing first with
  | nil => simp [rises, Revisits]
  | cons v rest ih =>
    rw [revisits_cons]
    rcases lt_or_ge first level with hfirst | hfirst
    · rw [rises]
      rcases lt_or_ge v level with hv | hv
      · have hsame : (first < level ∧ ∃ u ∈ v :: rest, level ≤ u) ↔
            (v < level ∧ ∃ u ∈ rest, level ≤ u) := by
          simp [hfirst, hv, not_le_of_gt hv]
        rw [if_neg (fun h => absurd h.2 (not_le_of_gt hv)), Nat.zero_add, if_congr hsame rfl rfl, ih]
        simp [not_le_of_gt hfirst]
      · have hyes : first < level ∧ ∃ u ∈ v :: rest, level ≤ u :=
          ⟨hfirst, v, List.mem_cons_self, hv⟩
        have hone : 1 + rises level v rest = 1 ↔ rises level v rest = 0 := by omega
        rw [if_pos ⟨hfirst, hv⟩, if_pos hyes, hone, rises_above_eq_zero hv, revisits_cons]
        simp only [hv, true_and, not_le_of_gt hfirst, false_and, or_false]
        constructor
        · rintro hnot (hrevisits | hreturns)
          · exact hnot hrevisits.returns
          · exact hnot hreturns
        · exact fun hnot hreturns => hnot (Or.inr hreturns)
    · rw [if_neg (fun h => absurd h.1 (not_lt_of_ge hfirst)), rises_above_eq_zero hfirst]
      simp only [hfirst, true_and]
      constructor
      · rintro hnot (hrevisits | hreturns)
        · exact hnot hrevisits.returns
        · exact hnot hreturns
      · exact fun hnot hreturns => hnot (Or.inr hreturns)

theorem le_rises :
    (if first < level ∧ ∃ v ∈ l, level ≤ v then 1 else 0) ≤ rises level first l := by
  split
  case isFalse => exact Nat.zero_le _
  case isTrue h =>
    by_contra hzero
    obtain ⟨hfirst, v, hv, hlevel⟩ := h
    have hall := (rises_below_eq_zero hfirst).mp (by omega : rises level first l = 0)
    exact absurd (hall v hv) (not_lt_of_ge hlevel)

end Rises

section Windows

variable {α β ν : Type} [LinearOrder ν] {level : α → ν} {rows : List α} {first : ν} {l : List ν}

-- At each step of a sequence the rows above where it was and up to where it is now.
def windows (level : α → ν) (rows : List α) : ν → List ν → List α
  | _, [] => []
  | last, v :: rest => rows.filter (fun a => last < level a && level a ≤ v) ++ windows level rows v rest

-- The rows above where the sequence started and up to the furthest that it came.
def passed (level : α → ν) (rows : List α) (first : ν) (l : List ν) : List α :=
  rows.filter fun a => first < level a ∧ ∃ v ∈ l, level a ≤ v

theorem filter_eq_flatMap_replicate (p : α → Prop) [DecidablePred p] :
    rows.filter p = rows.flatMap fun a => List.replicate (if p a then 1 else 0) a := by
  induction rows with
  | nil => rfl
  | cons a rest ih =>
    rw [List.flatMap_cons, List.filter_cons, ih]
    by_cases hp : p a <;> simp [hp]

-- A row is in as many windows as the sequence rises over it.
theorem windows_perm :
    (windows level rows first l).Perm
      (rows.flatMap fun a => List.replicate (rises (level a) first l) a) := by
  induction l generalizing first with
  | nil => simp [windows, rises]
  | cons v rest ih =>
    have hsplit : rows.filter (fun a => first < level a && level a ≤ v) =
        rows.filter fun a => first < level a ∧ level a ≤ v := by simp
    rw [windows, hsplit, filter_eq_flatMap_replicate fun a => first < level a ∧ level a ≤ v]
    refine (ih.append_left _).trans ((List.flatMap_append_perm rows _ _).trans ?_)
    apply List.Perm.of_eq
    apply List.flatMap_congr
    intro a _
    rw [List.replicate_append_replicate, rises]

theorem sum_map_eq_of_le {f g : α → ℕ} (hle : ∀ a ∈ rows, g a ≤ f a)
    (hsum : (rows.map f).sum = (rows.map g).sum) : ∀ a ∈ rows, f a = g a := by
  induction rows with
  | nil => exact nofun
  | cons b rest ih =>
    have hb := hle b List.mem_cons_self
    have hrest := fun a ha => hle a (List.mem_cons_of_mem b ha)
    have htail : (rest.map g).sum ≤ (rest.map f).sum := List.sum_le_sum hrest
    rw [List.map_cons, List.map_cons, List.sum_cons, List.sum_cons] at hsum
    intro a ha
    rcases List.mem_cons.mp ha with rfl | ha
    · omega
    · exact ih hrest (by omega) a ha

-- Every row that is passed is in one window, just where no row's level is revisited.
theorem windows_map_perm_iff (f : α → β) :
    ((windows level rows first l).map f).Perm ((passed level rows first l).map f) ↔
      ∀ a ∈ rows, ¬ Revisits (level a) (first :: l) := by
  constructor
  · intro h a ha
    apply rises_eq_iff.mp
    have hle : ∀ b ∈ rows, (if first < level b ∧ ∃ v ∈ l, level b ≤ v then 1 else 0) ≤
        rises (level b) first l := fun b _ => le_rises
    refine sum_map_eq_of_le hle ?_ a ha
    have hlength := h.length_eq
    rw [List.length_map, List.length_map, windows_perm.length_eq, passed,
      filter_eq_flatMap_replicate, List.length_flatMap, List.length_flatMap] at hlength
    simpa only [List.length_replicate] using hlength
  · intro h
    apply List.Perm.map
    refine windows_perm.trans (List.Perm.of_eq ?_)
    rw [passed, filter_eq_flatMap_replicate]
    apply List.flatMap_congr
    intro a ha
    rw [rises_eq_iff.mpr (h a ha)]

end Windows

end BanchoPrism.Library
