import Mathlib.Data.List.Basic

namespace BanchoPrism.Library

variable {α β : Type} {value w : α} {pending : List α}

-- What a register holds once the writes that are still under way have executed in
-- the order in which they were issued.
def settled (value : α) (pending : List α) : α := pending.getLastD value

namespace settled

theorem nil (value : α) : settled value [] = value := rfl

theorem issue (value w : α) (pending : List α) : settled value (pending ++ [w]) = w := by
  unfold settled
  rw [List.getLastD_concat]

-- The oldest write executes.
theorem land (value w : α) (rest : List α) : settled w rest = settled value (w :: rest) := by
  unfold settled
  rw [List.getLastD_cons]

end settled

section Positions

variable {f : β → Option α} {list : List β} {b c : β} {i : Nat}

-- An entry that writes nothing may go.
theorem filterMap_eraseIdx (h : list[i]? = some b) (hb : f b = none) :
    (list.eraseIdx i).filterMap f = list.filterMap f := by
  induction list generalizing i with
  | nil => rfl
  | cons a rest ih =>
    cases i with
    | zero =>
      obtain rfl : a = b := by simpa using h
      simp [hb]
    | succ i =>
      have hrest := ih (i := i) (by simpa using h)
      simp only [List.eraseIdx_cons_succ, List.filterMap_cons, hrest]

-- An entry that writes nothing may become another that writes nothing.
theorem filterMap_set (h : list[i]? = some b) (hb : f b = none) (hc : f c = none) :
    (list.set i c).filterMap f = list.filterMap f := by
  induction list generalizing i with
  | nil => rfl
  | cons a rest ih =>
    cases i with
    | zero =>
      obtain rfl : a = b := by simpa using h
      simp [hb, hc]
    | succ i =>
      have hrest := ih (i := i) (by simpa using h)
      simp only [List.set_cons_succ, List.filterMap_cons, hrest]

-- The first entry that writes has written.
theorem filterMap_first (h : list[i]? = some b) (hb : f b = some w) (hc : f c = none)
    (hfirst : ∀ a ∈ list.take i, f a = none) :
    list.filterMap f = w :: (list.set i c).filterMap f := by
  induction list generalizing i with
  | nil => simp at h
  | cons a rest ih =>
    cases i with
    | zero =>
      obtain rfl : a = b := by simpa using h
      simp [hb, hc]
    | succ i =>
      have ha : f a = none := hfirst a (by simp)
      have hrest := ih (i := i) (by simpa using h) fun a' ha' => hfirst a' (by simp [ha'])
      simp only [List.set_cons_succ, List.filterMap_cons, ha, hrest]

end Positions

end BanchoPrism.Library
