import Mathlib.Data.List.Pairwise
import Mathlib.Order.Defs.PartialOrder

namespace BanchoPrism.Library

variable {α β κ ν : Type} {l : List α}

-- The rows behind a page are those with a greater key than its last one.
theorem filter_after_page [Preorder κ] [DecidableLT κ] {key : α → κ}
    (h : l.Pairwise fun a b => key a < key b) (n : Nat) {a : α}
    (ha : (l.take n).getLast? = some a) :
    l.filter (fun b => key a < key b) = l.drop n := by
  rw [← List.take_append_drop n l, List.pairwise_append] at h
  obtain ⟨hpage, -, hrest⟩ := h
  obtain ⟨init, hinit⟩ := List.getLast?_eq_some_iff.mp ha
  have hmem : a ∈ l.take n := by
    rw [hinit]
    exact List.mem_append_right _ (List.mem_singleton_self a)
  have hnone : (l.take n).filter (fun b => key a < key b) = [] := by
    rw [List.filter_eq_nil_iff]
    intro b hb
    rw [hinit] at hb hpage
    have hle : key b ≤ key a := by
      rcases List.mem_append.mp hb with hb | hb
      · exact le_of_lt ((List.pairwise_append.mp hpage).2.2 b hb a (List.mem_singleton_self a))
      · rw [List.mem_singleton.mp hb]
    simp only [decide_eq_true_eq]
    exact not_lt_of_ge hle
  have hall : (l.drop n).filter (fun b => key a < key b) = l.drop n := by
    rw [List.filter_eq_self]
    intro b hb
    exact decide_eq_true (hrest a hmem b hb)
  have hsplit := List.filter_append (p := fun b => decide (key a < key b)) (l.take n) (l.drop n)
  rwa [List.take_append_drop, hnone, hall, List.nil_append] at hsplit

section Lookups

variable [DecidableEq κ]

-- In a list without a key twice an entry is found by its key.
theorem lookup_eq_some_iff {entries : List (κ × ν)} (h : (entries.map Prod.fst).Nodup) {k : κ}
    {v : ν} : entries.lookup k = some v ↔ (k, v) ∈ entries := by
  induction entries with
  | nil => simp
  | cons entry rest ih =>
    obtain ⟨k', v'⟩ := entry
    rw [List.map_cons, List.nodup_cons] at h
    by_cases hk : k = k'
    · subst hk
      have hfresh : (k, v) ∉ rest := fun hv => h.1 (List.mem_map.mpr ⟨_, hv, rfl⟩)
      simp only [List.lookup_cons_self, Option.some.injEq, List.mem_cons, Prod.mk.injEq, true_and,
        hfresh, or_false]
      exact eq_comm
    · rw [List.lookup_cons, beq_eq_false_iff_ne.mpr hk]
      simp only [ih h.2, List.mem_cons, Prod.mk.injEq, hk, false_and, false_or]

theorem lookup_eq_none_iff {entries : List (κ × ν)} {k : κ} :
    entries.lookup k = none ↔ ∀ v, (k, v) ∉ entries := by
  rw [List.lookup_eq_none_iff]
  constructor
  · exact fun h v hv => by simpa using h _ hv
  · intro h p hp
    rw [bne_iff_ne]
    rintro rfl
    exact h p.2 hp

-- By induction on the length: what is kept of the tail is shorter.
theorem nodup_eraseDups (names : List κ) : names.eraseDups.Nodup := by
  induction hn : names.length using Nat.strongRecOn generalizing names with
  | ind n ih =>
    subst hn
    cases names with
    | nil => simp
    | cons name rest =>
      rw [List.eraseDups_cons, List.nodup_cons, List.mem_eraseDups]
      refine ⟨by simp, ih _ ?_ _ rfl⟩
      exact Nat.lt_succ_of_le (List.length_filter_le _ rest)

end Lookups

end BanchoPrism.Library
