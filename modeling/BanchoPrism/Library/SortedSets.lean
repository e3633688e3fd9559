import Mathlib.Data.List.AList

namespace BanchoPrism.Library

variable {κ μ ν : Type}

-- Members with a score each, none twice.
abbrev SortedSet (μ ν : Type) : Type := AList fun _ : μ => ν

-- A store of sorted sets under keys. A key whose set has no members does not exist.
abbrev SortedSets (κ μ ν : Type) : Type := κ → SortedSet μ ν

namespace SortedSets

def keyExists (s : SortedSets κ μ ν) (k : κ) : Bool := !(s k).entries.isEmpty

theorem eq_empty {s : SortedSets κ μ ν} {k : κ} (h : s.keyExists k = false) : s k = ∅ :=
  AList.ext (by simpa [keyExists] using h)

variable [DecidableEq μ]

def scores (s : SortedSets κ μ ν) (k : κ) (m : μ) : Option ν := (s k).lookup m

def addAll (set : SortedSet μ ν) (entries : List (μ × ν)) : SortedSet μ ν :=
  entries.foldl (fun set entry => set.insert entry.1 entry.2) set

section Commands

variable [DecidableEq κ]

def zadd (k : κ) (entries : List (μ × ν)) (s : SortedSets κ μ ν) : SortedSets κ μ ν :=
  Function.update s k (addAll (s k) entries)

def zrem (k : κ) (m : μ) (s : SortedSets κ μ ν) : SortedSets κ μ ν :=
  Function.update s k ((s k).erase m)

def delete (k : κ) (s : SortedSets κ μ ν) : SortedSets κ μ ν := Function.update s k ∅

-- RENAME, for a source that exists.
def rename (source target : κ) (s : SortedSets κ μ ν) : SortedSets κ μ ν :=
  Function.update (Function.update s target (s source)) source ∅

end Commands

section Scores

variable {s : SortedSets κ μ ν} {k k' : κ}

theorem keyExists_iff : s.keyExists k ↔ ∃ m v, s.scores k m = some v := by
  unfold keyExists scores
  constructor
  · intro h
    obtain ⟨⟨m, v⟩, hm⟩ := List.exists_mem_of_ne_nil _ (by simpa using h)
    exact ⟨m, v, AList.mem_lookup_iff.mpr hm⟩
  · rintro ⟨m, v, h⟩
    have hm := AList.mem_lookup_iff.mp (Option.mem_def.mpr h)
    simp only [Bool.not_eq_true', List.isEmpty_eq_false_iff]
    exact List.ne_nil_of_mem hm

theorem not_keyExists_iff : s.keyExists k = false ↔ ∀ m, s.scores k m = none := by
  rw [← Bool.not_eq_true, keyExists_iff]
  simp only [not_exists, Option.eq_none_iff_forall_ne_some]

theorem lookup_addAll (set : SortedSet μ ν) {entries : List (μ × ν)}
    (h : (entries.map Prod.fst).Nodup) (m : μ) :
    (addAll set entries).lookup m = (entries.lookup m).or (set.lookup m) := by
  induction entries generalizing set with
  | nil => rfl
  | cons entry rest ih =>
    obtain ⟨m', v⟩ := entry
    rw [List.map_cons, List.nodup_cons] at h
    have hrest := ih (set.insert m' v) h.2
    change (addAll (set.insert m' v) rest).lookup m = _
    rw [hrest]
    by_cases hm : m = m'
    · subst hm
      have hnone : rest.lookup m = none := by
        rw [List.lookup_eq_none_iff]
        intro p hp
        rw [bne_iff_ne]
        exact fun hkey => h.1 (List.mem_map.mpr ⟨p, hp, hkey.symm⟩)
      rw [hnone, List.lookup_cons_self, AList.lookup_insert]
      rfl
    · rw [AList.lookup_insert_ne hm, List.lookup_cons, beq_eq_false_iff_ne.mpr hm]

variable [DecidableEq κ]

@[simp] theorem zadd_other (h : k' ≠ k) (entries : List (μ × ν)) : zadd k entries s k' = s k' :=
  Function.update_of_ne h _ _

theorem scores_zadd_one (k' : κ) (m m' : μ) (v : ν) :
    (zadd k [(m, v)] s).scores k' m' =
      if k' = k ∧ m' = m then some v else s.scores k' m' := by
  unfold scores zadd
  by_cases hk : k' = k
  · subst hk
    rw [Function.update_self]
    change ((s k').insert m v).lookup m' = _
    by_cases hm : m' = m
    · subst hm
      simp
    · simp [hm]
  · simp [hk]

theorem scores_zrem (k' : κ) (m m' : μ) :
    (zrem k m s).scores k' m' = if k' = k ∧ m' = m then none else s.scores k' m' := by
  unfold scores zrem
  by_cases hk : k' = k
  · subst hk
    rw [Function.update_self]
    by_cases hm : m' = m
    · subst hm
      simp
    · simp [hm]
  · simp [hk]

end Scores

end SortedSets

end BanchoPrism.Library
