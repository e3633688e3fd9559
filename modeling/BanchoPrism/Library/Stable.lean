import Mathlib.Order.Lattice

namespace BanchoPrism.Library

variable {α ω : Type} [LinearOrder ω]

def notBefore (value : α → ω) (a b : α) : Bool := value b ≤ value a

-- sorted(l, key=value, reverse=True), which keeps the order of what is equal.
def sortedDesc (value : α → ω) (l : List α) : List α := l.mergeSort (notBefore value)

section Sorting

variable (value : α → ω)

theorem notBefore_trans (a b c : α) (hab : notBefore value a b) (hbc : notBefore value b c) :
    notBefore value a c := by
  unfold notBefore at hab hbc ⊢
  rw [decide_eq_true_eq] at hab hbc ⊢
  exact le_trans hbc hab

theorem notBefore_total (a b : α) : (notBefore value a b || notBefore value b a) := by
  unfold notBefore
  rw [Bool.or_eq_true, decide_eq_true_eq, decide_eq_true_eq]
  exact le_total _ _

theorem sortedDesc_perm (l : List α) : (sortedDesc value l).Perm l := List.mergeSort_perm l _

theorem sortedDesc_pairwise (l : List α) :
    (sortedDesc value l).Pairwise fun a b => value b ≤ value a := by
  have hsorted := List.pairwise_mergeSort (notBefore_trans value) (notBefore_total value) l
  exact hsorted.imp fun h => of_decide_eq_true h

-- What has one value comes out as it went in: it is sorted, and the sort keeps it in its order.
theorem sortedDesc_stable (l : List α) (v : ω) :
    (sortedDesc value l).filter (fun a => value a = v) = l.filter fun a => value a = v := by
  have hequal : (l.filter fun a => value a = v).Pairwise fun a b => notBefore value a b := by
    refine List.pairwise_of_forall_mem_list fun a ha b hb => ?_
    have hva := of_decide_eq_true (List.mem_filter.mp ha).2
    have hvb := of_decide_eq_true (List.mem_filter.mp hb).2
    rw [notBefore, hva, hvb]
    exact decide_eq_true (le_refl v)
  have hsub := List.sublist_mergeSort (notBefore_trans value) (notBefore_total value) hequal
    List.filter_sublist
  have hfilter := hsub.filter fun a => decide (value a = v)
  rw [List.filter_filter] at hfilter
  simp only [Bool.and_self] at hfilter
  have hlength := ((sortedDesc_perm value l).filter fun a => decide (value a = v)).length_eq
  exact (hfilter.eq_of_length hlength.symm).symm

end Sorting

section Ascending

variable {key : α → ω} {l l' : List α}

-- l.sort(key=key)
def sortedBy (key : α → ω) (l : List α) : List α :=
  sortedDesc (fun a => OrderDual.toDual (key a)) l

-- The elements in the order of their keys, those of one key in the order that they had.
structure InOrder (key : α → ω) (l sorted : List α) : Prop where
  perm : sorted.Perm l
  ordered : sorted.Pairwise fun a b => key a ≤ key b
  stable : ∀ v, (sorted.filter fun a => key a = v) = l.filter fun a => key a = v

theorem inOrder_sortedBy (key : α → ω) (l : List α) : InOrder key l (sortedBy key l) where
  perm := sortedDesc_perm _ l
  ordered := sortedDesc_pairwise (fun a => OrderDual.toDual (key a)) l
  stable v := by
    unfold sortedBy
    simpa only [OrderDual.toDual_inj] using
      sortedDesc_stable (fun a => OrderDual.toDual (key a)) l (OrderDual.toDual v)

-- Sorted lists that have the same of each key are the same.
theorem eq_of_ordered (hl : l.Pairwise fun a b => key a ≤ key b)
    (hl' : l'.Pairwise fun a b => key a ≤ key b)
    (h : ∀ v, (l.filter fun a => key a = v) = l'.filter fun a => key a = v) : l = l' := by
  have hmem : ∀ a, a ∈ l ↔ a ∈ l' := by
    intro a
    have hiff : a ∈ (l.filter fun b => key b = key a) ↔ a ∈ l'.filter fun b => key b = key a := by
      rw [h]
    simpa using hiff
  induction l generalizing l' with
  | nil =>
    refine (List.eq_nil_iff_forall_not_mem.mpr fun a ha => ?_).symm
    exact absurd ((hmem a).mpr ha) List.not_mem_nil
  | cons a rest ih =>
    cases l' with
    | nil => exact absurd ((hmem a).mp List.mem_cons_self) List.not_mem_nil
    | cons b rest' =>
      obtain ⟨ha, hrest⟩ := List.pairwise_cons.mp hl
      obtain ⟨hb, hrest'⟩ := List.pairwise_cons.mp hl'
      have hab : key a = key b := by
        apply le_antisymm
        · rcases List.mem_cons.mp ((hmem b).mpr List.mem_cons_self) with rfl | hmem
          · exact le_refl _
          · exact ha b hmem
        · rcases List.mem_cons.mp ((hmem a).mp List.mem_cons_self) with rfl | hmem
          · exact le_refl _
          · exact hb a hmem
      have hhead := h (key b)
      simp only [List.filter_cons, hab, decide_true, if_true] at hhead
      obtain ⟨rfl, _⟩ := List.cons.inj hhead
      have htail : ∀ v, (rest.filter fun c => key c = v) = rest'.filter fun c => key c = v := by
        intro v
        have hv := h v
        by_cases hkey : key a = v
        · simp only [List.filter_cons, hkey, decide_true, if_true] at hv
          exact (List.cons.inj hv).2
        · simpa only [List.filter_cons, hkey, decide_false, Bool.false_eq_true, if_false] using hv
      refine congrArg (a :: ·) (ih hrest hrest' htail fun c => ?_)
      have hiff : c ∈ (rest.filter fun b => key b = key c) ↔
          c ∈ rest'.filter fun b => key b = key c := by
        rw [htail]
      simpa using hiff

theorem sortedBy_congr (h : ∀ v, (l.filter fun a => key a = v) = l'.filter fun a => key a = v) :
    sortedBy key l = sortedBy key l' := by
  have hl := inOrder_sortedBy key l
  have hl' := inOrder_sortedBy key l'
  exact eq_of_ordered hl.ordered hl'.ordered fun v => by rw [hl.stable, hl'.stable, h]

end Ascending

section Greatest

variable {weight : α → ω} {l : List α}

-- max(l, key=weight): the first of those that nothing exceeds.
def maxBy (weight : α → ω) : List α → Option α
  | [] => none
  | first :: rest =>
      some (rest.foldl (fun best a => if weight best < weight a then a else best) first)

-- What is left when each value that exceeds the best one so far takes its place.
theorem foldl_exceeds {exceeds : α → α → Bool} (hirrefl : ∀ a, exceeds a a = false)
    (htrans : ∀ a b c, exceeds a b → exceeds b c → exceeds a c) (first : α) (rest : List α) :
    let best := rest.foldl (fun best a => if exceeds a best then a else best) first
    best ∈ first :: rest ∧ (best = first ∨ exceeds best first) ∧
      ∀ a ∈ first :: rest, exceeds a best = false := by
  induction rest generalizing first with
  | nil => simp [hirrefl]
  | cons a rest ih =>
    obtain ⟨hmem, hfirst, hmax⟩ := ih (if exceeds a first then a else first)
    rw [List.foldl_cons]
    by_cases hexceeds : exceeds a first
    · rw [if_pos hexceeds] at hmem hfirst hmax ⊢
      have hbest : exceeds (rest.foldl (fun best a => if exceeds a best then a else best) a)
          first := by
        rcases hfirst with heq | hbest
        · rwa [heq]
        · exact htrans _ _ _ hbest hexceeds
      refine ⟨List.mem_cons_of_mem _ hmem, Or.inr hbest, fun b hb => ?_⟩
      rcases List.mem_cons.mp hb with rfl | hb
      · rw [Bool.eq_false_iff]
        intro hback
        have hself := htrans _ _ _ hback hbest
        rw [hirrefl] at hself
        cases hself
      · exact hmax b hb
    · rw [if_neg hexceeds] at hmem hfirst hmax ⊢
      refine ⟨?_, hfirst, fun b hb => ?_⟩
      · rcases List.mem_cons.mp hmem with heq | hmem
        · rw [heq]
          exact List.mem_cons_self
        · exact List.mem_cons_of_mem _ (List.mem_cons_of_mem _ hmem)
      · rcases List.mem_cons.mp hb with rfl | hb
        · exact hmax _ List.mem_cons_self
        · rcases List.mem_cons.mp hb with rfl | hb
          · rcases hfirst with heq | hbest
            · rw [heq]
              exact Bool.eq_false_iff.mpr hexceeds
            · rw [Bool.eq_false_iff]
              exact fun hb => hexceeds (htrans _ _ _ hb hbest)
          · exact hmax b (List.mem_cons_of_mem _ hb)

theorem maxBy_spec (h : l ≠ []) :
    ∃ best, maxBy weight l = some best ∧ best ∈ l ∧ ∀ a ∈ l, weight a ≤ weight best := by
  cases l with
  | nil => exact absurd rfl h
  | cons first rest =>
    obtain ⟨hmem, -, hmax⟩ :=
      @foldl_exceeds α (fun a best => decide (weight best < weight a)) (by simp)
        (fun a b c hab hbc => decide_eq_true (lt_trans (of_decide_eq_true hbc)
          (of_decide_eq_true hab))) first rest
    simp only [decide_eq_true_eq] at hmem hmax
    exact ⟨_, rfl, hmem, fun a ha => not_lt.mp (of_decide_eq_false (hmax a ha))⟩

end Greatest

end BanchoPrism.Library
