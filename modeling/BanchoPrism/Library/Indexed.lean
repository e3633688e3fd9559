import Mathlib.Data.List.Nodup
import Mathlib.Logic.Function.Basic

namespace BanchoPrism.Library

variable {κ α : Type} {index : κ → Option α} {key key' : α → κ} {list : List α} {a : α}

-- An index finds exactly the members of a list, each under its key.
def Indexed (index : κ → Option α) (key : α → κ) (list : List α) : Prop :=
  ∀ k a, index k = some a ↔ a ∈ list ∧ key a = k

namespace Indexed

theorem unique (h : Indexed index key list) {b : α} (ha : a ∈ list) (hb : b ∈ list)
    (hab : key a = key b) : a = b := by
  have hfound := (h (key a) a).mpr ⟨ha, rfl⟩
  exact Option.some.inj (hfound.symm.trans ((h (key a) b).mpr ⟨hb, hab.symm⟩))

theorem isSome_iff (h : Indexed index key list) (k : κ) :
    (index k).isSome ↔ ∃ a ∈ list, key a = k := by
  rw [Option.isSome_iff_exists]
  exact exists_congr (h k)

theorem congr (h : Indexed index key list) (hkey : ∀ a ∈ list, key' a = key a) :
    Indexed index key' list := by
  intro k a
  rw [h k a]
  exact and_congr_right fun ha => by rw [hkey a ha]

variable [DecidableEq κ]

-- What is found under a key is in the list under that key.
theorem find_some {list : List α} {k : κ} {a : α}
    (hfound : list.find? (fun b => key b = k) = some a) : a ∈ list ∧ key a = k :=
  ⟨List.mem_of_find?_eq_some hfound, by simpa using List.find?_some hfound⟩

-- Where no key is there twice, looking a key up in the list is an index of it.
theorem find {list : List α} (hkeys : (list.map key).Nodup) :
    Indexed (fun k => list.find? fun a => key a = k) key list := by
  refine fun k a => ⟨find_some, ?_⟩
  rintro ⟨ha, rfl⟩
  have hsome : (list.find? fun b => key b = key a).isSome :=
    List.find?_isSome.mpr ⟨a, ha, decide_eq_true rfl⟩
  obtain ⟨b, hfound⟩ := Option.isSome_iff_exists.mp hsome
  obtain ⟨hb, hkey⟩ := find_some hfound
  exact hfound.trans (congrArg some (List.inj_on_of_nodup_map hkeys hb ha hkey))

theorem append (h : Indexed index key list) (hnew : ∀ b ∈ list, key b ≠ key a) :
    Indexed (Function.update index (key a) (some a)) key (list ++ [a]) := by
  intro k b
  rw [List.mem_append, List.mem_singleton]
  by_cases hk : k = key a
  · subst hk
    rw [Function.update_self, Option.some.injEq]
    constructor
    · rintro rfl
      exact ⟨Or.inr rfl, rfl⟩
    · rintro ⟨hb | rfl, hkey⟩
      · exact absurd hkey (hnew b hb)
      · rfl
  · rw [Function.update_of_ne hk, h k b]
    constructor
    · exact fun hb => ⟨Or.inl hb.1, hb.2⟩
    · rintro ⟨hb | rfl, hkey⟩
      · exact ⟨hb, hkey⟩
      · exact absurd hkey.symm hk

theorem singleton (key : α → κ) (a : α) :
    Indexed (Function.update (fun _ => none) (key a) (some a)) key [a] :=
  @append _ _ (fun _ => none) key [] a _ (fun k b => by simp) fun b hb => by cases hb

theorem erase [DecidableEq α] (h : Indexed index key list) (hlist : list.Nodup) (ha : a ∈ list) :
    Indexed (Function.update index (key a) none) key (list.erase a) := by
  intro k b
  rw [hlist.mem_erase_iff]
  by_cases hk : k = key a
  · subst hk
    rw [Function.update_self]
    constructor
    · exact fun hb => by cases hb
    · rintro ⟨⟨hne, hb⟩, hkey⟩
      exact absurd (h.unique hb ha hkey) hne
  · rw [Function.update_of_ne hk, h k b]
    constructor
    · rintro ⟨hb, rfl⟩
      exact ⟨⟨fun hba => hk (hba ▸ rfl), hb⟩, rfl⟩
    · rintro ⟨⟨-, hb⟩, hkey⟩
      exact ⟨hb, hkey⟩

-- To delete the entry of a member changes no entry of another.
theorem delete_eq (h : Indexed index key list) (ha : a ∈ list) {k : κ} (hk : index k ≠ some a) :
    Function.update index (key a) none k = index k :=
  Function.update_of_ne (fun hkey => hk ((h k a).mpr ⟨ha, hkey.symm⟩)) _ _

end Indexed

end BanchoPrism.Library
