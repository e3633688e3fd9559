import Mathlib.Algebra.Order.Field.Basic
import Mathlib.Data.List.Sort
import Mathlib.Tactic.Linarith
import Mathlib.Tactic.Ring

namespace BanchoPrism.Library

variable {K : Type} [Field K]

-- The values of a list, each weighted by w to the power of its place.
def discounted (w : K) : List K → K
  | [] => 0
  | a :: rest => a + w * discounted w rest

-- The sum of the weights of n places.
def weights (w : K) (n : Nat) : K := discounted w (List.replicate n 1)

theorem weights_succ (w : K) (n : Nat) : weights w (n + 1) = 1 + w * weights w n := rfl

theorem weights_eq (w : K) (n : Nat) : (1 - w) * weights w n = 1 - w ^ n := by
  induction n with
  | zero => simp [weights, discounted]
  | succ n ih =>
      have hstep : (1 - w) * weights w (n + 1) = (1 - w) + w * ((1 - w) * weights w n) := by
        rw [weights_succ]
        ring
      rw [hstep, ih]
      ring

theorem discounted_map_affine (w c d : K) (values : List K) :
    discounted w (values.map fun a => c * a + d) =
      c * discounted w values + d * weights w values.length := by
  induction values with
  | nil => simp [discounted, weights]
  | cons a rest ih =>
      simp only [List.map_cons, discounted, ih, List.length_cons, weights_succ]
      ring

variable [LinearOrder K] [IsStrictOrderedRing K] {w : K} {values : List K}

theorem discounted_nonneg (hw : 0 ≤ w) (h : ∀ a ∈ values, 0 ≤ a) : 0 ≤ discounted w values := by
  induction values with
  | nil => exact le_refl 0
  | cons a rest ih =>
      have ha := h a (List.mem_cons_self ..)
      have hrest := ih fun b hb => h b (List.mem_cons_of_mem a hb)
      exact add_nonneg ha (mul_nonneg hw hrest)

theorem discounted_pos (hw : 0 ≤ w) (hne : values ≠ []) (h : ∀ a ∈ values, 0 < a) :
    0 < discounted w values := by
  cases values with
  | nil => exact absurd rfl hne
  | cons a rest =>
      have ha := h a (List.mem_cons_self ..)
      have hrest : 0 ≤ discounted w rest :=
        discounted_nonneg hw fun b hb => (h b (List.mem_cons_of_mem a hb)).le
      exact add_pos_of_pos_of_nonneg ha (mul_nonneg hw hrest)

theorem weights_pos (hw : 0 ≤ w) {n : Nat} (hn : n ≠ 0) : 0 < weights w n := by
  apply discounted_pos hw
  · simpa using hn
  · intro a ha
    rw [List.eq_of_mem_replicate ha]
    exact one_pos

section Bounds

-- The weighted mean is not below all of the values.
theorem exists_le_discounted (hw : 0 ≤ w) (hne : values ≠ []) :
    ∃ a ∈ values, a * weights w values.length ≤ discounted w values := by
  have hlength : values.length ≠ 0 := by simpa using hne
  have hweights := weights_pos hw hlength
  by_contra hno
  simp only [not_exists, not_and, not_le] at hno
  have hpos : 0 < discounted w (values.map fun a =>
      weights w values.length * a + -discounted w values) := by
    apply discounted_pos hw
    · simpa using hne
    · intro b hb
      obtain ⟨a, ha, rfl⟩ := List.mem_map.mp hb
      have := hno a ha
      linarith
  rw [discounted_map_affine] at hpos
  linarith

-- Nor is it above all of them.
theorem exists_discounted_le (hw : 0 ≤ w) (hne : values ≠ []) :
    ∃ a ∈ values, discounted w values ≤ a * weights w values.length := by
  have hneg : discounted w (values.map fun a => -1 * a + 0) = -discounted w values := by
    rw [discounted_map_affine]
    ring
  obtain ⟨b, hb, hle⟩ := exists_le_discounted hw
    (show (values.map fun a => -1 * a + 0) ≠ [] by simpa using hne)
  obtain ⟨a, ha, rfl⟩ := List.mem_map.mp hb
  rw [hneg, List.length_map] at hle
  refine ⟨a, ha, ?_⟩
  linarith

end Bounds

section Inserting

omit [Field K] [IsStrictOrderedRing K] in
theorem orderedInsert_top {a : K} (h : ∀ b ∈ values, a ≥ b) :
    values.orderedInsert (· ≥ ·) a = a :: values := by
  cases values with
  | nil => rfl
  | cons b rest => exact List.orderedInsert_cons_of_le _ rest (h b (List.mem_cons_self ..))

-- Where a greater value goes in, the sum is greater.
theorem discounted_orderedInsert_le (hw : 0 ≤ w) (hvalues : values.Pairwise (· ≥ ·)) {x y : K}
    (h : x ≤ y) : discounted w (values.orderedInsert (· ≥ ·) x) ≤
      discounted w (values.orderedInsert (· ≥ ·) y) := by
  induction values generalizing x y with
  | nil => simpa [discounted] using h
  | cons a rest ih =>
      obtain ⟨htop, hrest⟩ := List.pairwise_cons.mp hvalues
      simp only [List.orderedInsert_cons]
      by_cases hx : a ≤ x
      · rw [if_pos hx, if_pos (hx.trans h)]
        exact add_le_add_left h _
      rw [if_neg hx]
      by_cases hy : a ≤ y
      · -- x goes in below a and y above it: a itself goes in between
        have hmiddle := ih hrest (not_le.mp hx).le
        rw [orderedInsert_top htop] at hmiddle
        rw [if_pos hy]
        exact add_le_add hy (mul_le_mul_of_nonneg_left hmiddle hw)
      · rw [if_neg hy]
        exact add_le_add_right (mul_le_mul_of_nonneg_left (ih hrest h) hw) a

-- A value that goes in makes the sum no smaller.
theorem discounted_le_orderedInsert (hw : 0 ≤ w) (hvalues : values.Pairwise (· ≥ ·))
    (hnonneg : ∀ a ∈ values, 0 ≤ a) {x : K} (hx : 0 ≤ x) :
    discounted w values ≤ discounted w (values.orderedInsert (· ≥ ·) x) := by
  induction values generalizing x with
  | nil => simpa [discounted] using hx
  | cons a rest ih =>
      obtain ⟨htop, hrest⟩ := List.pairwise_cons.mp hvalues
      have hnonneg' : ∀ b ∈ rest, 0 ≤ b := fun b hb => hnonneg b (List.mem_cons_of_mem a hb)
      simp only [List.orderedInsert_cons]
      by_cases ha : a ≤ x
      · -- the rest would be no smaller with another a in front
        have htwice := ih hrest hnonneg' (hnonneg a (List.mem_cons_self ..))
        rw [orderedInsert_top htop] at htwice
        rw [if_pos ha]
        exact add_le_add ha (mul_le_mul_of_nonneg_left htwice hw)
      · rw [if_neg ha]
        exact add_le_add_right (mul_le_mul_of_nonneg_left (ih hrest hnonneg' hx) hw) a

variable {values' rest : List K} {x y : K}

omit [Field K] [IsStrictOrderedRing K] in
theorem eq_orderedInsert (hvalues : values.Pairwise (· ≥ ·)) (h : values.Perm (x :: rest)) :
    values = (rest.insertionSort (· ≥ ·)).orderedInsert (· ≥ ·) x := by
  apply List.Perm.eq_of_pairwise' hvalues
  · exact List.Pairwise.orderedInsert x _ (List.pairwise_insertionSort _ rest)
  · refine h.trans (List.Perm.trans ?_ (List.perm_orderedInsert _ x _).symm)
    exact (List.perm_insertionSort _ rest).symm.cons x

theorem discounted_raise (hw : 0 ≤ w) (hvalues : values.Pairwise (· ≥ ·))
    (hvalues' : values'.Pairwise (· ≥ ·)) (h : values.Perm (x :: rest))
    (h' : values'.Perm (y :: rest)) (hxy : x ≤ y) : discounted w values ≤ discounted w values' := by
  rw [eq_orderedInsert hvalues h, eq_orderedInsert hvalues' h']
  exact discounted_orderedInsert_le hw (List.pairwise_insertionSort _ rest) hxy

theorem discounted_add (hw : 0 ≤ w) (hvalues : values.Pairwise (· ≥ ·))
    (hvalues' : values'.Pairwise (· ≥ ·)) (h : values'.Perm (x :: values))
    (hnonneg : ∀ a ∈ values', 0 ≤ a) : discounted w values ≤ discounted w values' := by
  have hsorted : values.insertionSort (· ≥ ·) = values := List.Pairwise.insertionSort_eq hvalues
  have hmem : ∀ a ∈ x :: values, 0 ≤ a := fun a ha => hnonneg a (h.symm.subset ha)
  rw [eq_orderedInsert hvalues' h, hsorted]
  refine discounted_le_orderedInsert hw hvalues ?_ (hmem x (List.mem_cons_self ..))
  exact fun a ha => hmem a (List.mem_cons_of_mem x ha)

end Inserting

end BanchoPrism.Library
