import Mathlib.Data.List.Chain
import Mathlib.Data.List.Nodup

namespace BanchoPrism.Library

variable {α : Type} {drops : α → Bool} {list : List α} {a : α}

-- Whom a loop over a list comes to that it takes out of the list as it goes: the next place then
-- holds the one after the next.
def taken (drops : α → Bool) : List α → List α
  | [] => []
  | [a] => if drops a then [a] else []
  | a :: b :: rest => if drops a then a :: taken drops rest else taken drops (b :: rest)

@[simp] theorem taken_of_keep {rest : List α} (h : drops a = false) :
    taken drops (a :: rest) = taken drops rest := by
  cases rest with
  | nil => simp [taken, h]
  | cons b rest => simp [taken, h]

@[simp] theorem taken_of_drop {rest : List α} (h : drops a = true) :
    taken drops (a :: rest) = a :: taken drops rest.tail := by
  cases rest with
  | nil => simp [taken, h]
  | cons b rest => simp [taken, h]

theorem taken_sublist (drops : α → Bool) (list : List α) :
    (taken drops list).Sublist (list.filter drops) := by
  fun_induction taken drops list with
  | case1 => exact List.Sublist.refl _
  | case2 a h => simp [h]
  | case3 a h => simp [h]
  | case4 a b rest h ih =>
    rw [List.filter_cons_of_pos h]
    exact (ih.trans ((List.sublist_cons_self b rest).filter drops)).cons_cons a
  | case5 a b rest h ih =>
    rw [List.filter_cons_of_neg h]
    exact ih

theorem mem_of_taken (h : a ∈ taken drops list) : a ∈ list ∧ drops a = true :=
  List.mem_filter.mp ((taken_sublist drops list).mem h)

-- No two neighbours are both to go.
def Apart (drops : α → Bool) (list : List α) : Prop :=
  list.IsChain fun a b => ¬(drops a = true ∧ drops b = true)

instance (drops : α → Bool) (list : List α) : Decidable (Apart drops list) :=
  inferInstanceAs (Decidable (list.IsChain _))

theorem taken_eq_filter (h : Apart drops list) : taken drops list = list.filter drops := by
  fun_induction taken drops list with
  | case1 => rfl
  | case2 a ha => simp [ha]
  | case3 a ha => simp [ha]
  | case4 a b rest ha ih =>
    obtain ⟨hab, hrest⟩ := List.isChain_cons_cons.mp h
    have hb : ¬drops b = true := fun hb => hab ⟨ha, hb⟩
    rw [List.filter_cons_of_pos ha, List.filter_cons_of_neg hb, ih hrest.tail]
  | case5 a b rest ha ih =>
    rw [List.filter_cons_of_neg ha]
    exact ih (List.isChain_cons_cons.mp h).2

-- The loop takes out all that are to go just where no two of them are neighbours. By the
-- recursion of the loop: a second one in a row is passed by, and is there only once.
theorem taken_all_iff (hlist : list.Nodup) :
    (∀ a ∈ list, drops a = true → a ∈ taken drops list) ↔ Apart drops list := by
  constructor
  · intro hall
    fun_induction taken drops list with
    | case1 => exact List.isChain_nil
    | case2 a ha => exact List.isChain_singleton a
    | case3 a ha => exact List.isChain_singleton a
    | case4 a b rest ha ih =>
      obtain ⟨haway, hlist'⟩ := List.nodup_cons.mp hlist
      obtain ⟨hbaway, hrest⟩ := List.nodup_cons.mp hlist'
      have hb : ¬drops b = true := by
        intro hb
        rcases List.mem_cons.mp (hall b (by simp) hb) with hba | hlater
        · exact haway (hba ▸ List.mem_cons_self)
        · exact hbaway (mem_of_taken hlater).1
      have hlater : Apart drops rest := by
        apply ih hrest
        intro c hc hdrop
        rcases List.mem_cons.mp (hall c (by simp [hc]) hdrop) with hca | htaken
        · exact absurd (hca ▸ List.mem_cons_of_mem b hc) haway
        · exact htaken
      refine List.isChain_cons_cons.mpr ⟨fun hboth => hb hboth.2, ?_⟩
      cases rest with
      | nil => exact List.isChain_singleton b
      | cons c rest => exact List.isChain_cons_cons.mpr ⟨fun hboth => hb hboth.1, hlater⟩
    | case5 a b rest ha ih =>
      refine List.isChain_cons_cons.mpr ⟨fun hboth => ha hboth.1, ?_⟩
      apply ih (List.nodup_cons.mp hlist).2
      intro c hc hdrop
      exact hall c (List.mem_cons_of_mem a hc) hdrop
  · intro h a ha hdrop
    rw [taken_eq_filter h]
    exact List.mem_filter.mpr ⟨ha, hdrop⟩

end BanchoPrism.Library
