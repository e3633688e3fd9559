import Mathlib.Data.List.Nodup

namespace BanchoPrism.Library

variable {α κ : Type} [DecidableEq κ]

-- The row that a table has for a key.
def fetchBy (key : α → κ) (table : List α) (k : κ) : Option α := table.find? fun row => key row = k

-- INSERT ... ON DUPLICATE KEY UPDATE
def upsertBy (key : α → κ) (table : List α) (row : α) (update : α → α) : List α :=
  if table.any fun other => key other = key row then
    table.map fun other => if key other = key row then update other else other
  else table ++ [row]

section Keyed

variable {key : α → κ} {table : List α} {k : κ} {row : α}

theorem key_of_fetchBy (h : fetchBy key table k = some row) : key row = k := by
  have hfound := List.find?_some h
  exact of_decide_eq_true hfound

theorem mem_of_fetchBy (h : fetchBy key table k = some row) : row ∈ table :=
  List.mem_of_find?_eq_some h

theorem fetchBy_eq_none : fetchBy key table k = none ↔ ∀ row ∈ table, key row ≠ k := by
  rw [fetchBy, List.find?_eq_none]
  refine forall₂_congr fun row _ => ?_
  rw [decide_eq_true_iff]

theorem fetchBy_of_mem (hnodup : (table.map key).Nodup) (h : row ∈ table) :
    fetchBy key table (key row) = some row := by
  cases hfetch : fetchBy key table (key row) with
  | none => exact absurd rfl (fetchBy_eq_none.mp hfetch row h)
  | some other =>
    have hkey := key_of_fetchBy hfetch
    rw [List.inj_on_of_nodup_map hnodup (mem_of_fetchBy hfetch) h hkey]

-- One row has the key, and no other.
theorem filter_of_mem (hnodup : (table.map key).Nodup) (h : row ∈ table) :
    (table.filter fun other => key other = key row) = [row] := by
  induction table with
  | nil => cases h
  | cons first rest ih =>
    rw [List.map_cons, List.nodup_cons] at hnodup
    rcases List.mem_cons.mp h with rfl | hrest
    · rw [List.filter_cons_of_pos (by simp), List.filter_eq_nil_iff.mpr]
      intro other hother
      simpa using fun heq => hnodup.1 (List.mem_map.mpr ⟨other, hother, heq⟩)
    · have hne : key first ≠ key row := fun heq => hnodup.1 (heq ▸ List.mem_map_of_mem hrest)
      rw [List.filter_cons_of_neg (by simpa using hne), ih hnodup.2 hrest]

theorem any_eq_isSome_fetchBy :
    (table.any fun row => key row = k) = (fetchBy key table k).isSome := by
  rw [Bool.eq_iff_iff, List.any_eq_true, fetchBy, List.find?_isSome]

theorem fetchBy_map {f : α → α} (hf : ∀ row, key (f row) = key row) :
    fetchBy key (table.map f) k = (fetchBy key table k).map f := by
  unfold fetchBy
  rw [List.find?_map]
  have hsame : ((fun row => decide (key row = k)) ∘ f) = fun row => decide (key row = k) := by
    funext row
    simp only [Function.comp, hf]
  rw [hsame]

-- An update of one row by its key.
theorem fetchBy_update {update : α → α} (hupdate : ∀ other, key (update other) = key other)
    (k' : κ) :
    fetchBy key (table.map fun other => if key other = k' then update other else other) k =
      if k' = k then (fetchBy key table k).map update else fetchBy key table k := by
  rw [fetchBy_map fun other => by split <;> first | exact hupdate other | rfl]
  cases hfetch : fetchBy key table k with
  | none => split <;> rfl
  | some other =>
    have hkey := key_of_fetchBy hfetch
    by_cases hk : k' = k
    · simp [hkey, hk]
    · have hne : key other ≠ k' := fun heq => hk (heq.symm.trans hkey)
      simp [hne, hk]

theorem fetchBy_upsertBy {update : α → α} (hupdate : ∀ other, key (update other) = key other) :
    fetchBy key (upsertBy key table row update) k =
      if key row = k then some (((fetchBy key table k).map update).getD row)
      else fetchBy key table k := by
  unfold upsertBy
  rw [any_eq_isSome_fetchBy]
  cases hfetch : fetchBy key table (key row) with
  | none =>
    rw [if_neg (by simp), fetchBy, List.find?_append]
    change (fetchBy key table k).or _ = _
    by_cases hk : key row = k
    · subst hk
      rw [hfetch]
      simp
    · simp [hk]
  | some old =>
    rw [if_pos (by simp), fetchBy_update hupdate]
    split
    · rename_i hk
      subst hk
      rw [hfetch]
      rfl
    · rfl

-- A row of the table after an upsert has the key of the new row, or of one that was there.
theorem key_of_mem_upsertBy {update : α → α} (hupdate : ∀ other, key (update other) = key other)
    {other : α} (h : other ∈ upsertBy key table row update) :
    key other = key row ∨ ∃ old ∈ table, key old = key other := by
  unfold upsertBy at h
  split at h
  · obtain ⟨old, hold, rfl⟩ := List.mem_map.mp h
    refine Or.inr ⟨old, hold, ?_⟩
    split
    · exact (hupdate old).symm
    · rfl
  · rcases List.mem_append.mp h with hold | hnew
    · exact Or.inr ⟨other, hold, rfl⟩
    · rw [List.mem_singleton.mp hnew]
      exact Or.inl rfl

omit [DecidableEq κ] in
theorem nodup_map_of_same {f : α → α} (hnodup : (table.map key).Nodup)
    (hf : ∀ row, key (f row) = key row) : ((table.map f).map key).Nodup := by
  rw [List.map_map]
  have hsame : key ∘ f = key := funext hf
  rwa [hsame]

theorem nodup_upsertBy {update : α → α} (hupdate : ∀ other, key (update other) = key other)
    (hnodup : (table.map key).Nodup) : ((upsertBy key table row update).map key).Nodup := by
  unfold upsertBy
  split
  · refine nodup_map_of_same hnodup fun other => ?_
    split
    · exact hupdate other
    · rfl
  · rename_i hnew
    rw [List.map_append, List.map_singleton]
    refine (List.perm_append_singleton _ _).nodup_iff.mpr (List.nodup_cons.mpr ⟨?_, hnodup⟩)
    intro hmem
    obtain ⟨other, hother, heq⟩ := List.mem_map.mp hmem
    exact hnew (List.any_eq_true.mpr ⟨other, hother, decide_eq_true heq⟩)

end Keyed

-- DELETE of the rows with a key.
def deleteBy (key : α → κ) (table : List α) (k : κ) : List α :=
  table.filter fun other => key other ≠ k

-- REPLACE INTO
def replaceBy (key : α → κ) (table : List α) (row : α) : List α :=
  deleteBy key table (key row) ++ [row]

section Replacing

variable {key : α → κ} {table : List α} {k : κ} {row : α}

theorem fetchBy_deleteBy (k' : κ) :
    fetchBy key (deleteBy key table k') k = if k' = k then none else fetchBy key table k := by
  induction table with
  | nil => split <;> rfl
  | cons first rest ih =>
    by_cases hfirst : key first = k'
    · have hdrop : deleteBy key (first :: rest) k' = deleteBy key rest k' :=
        List.filter_cons_of_neg (by simpa using hfirst)
      rw [hdrop, ih]
      split
      case isTrue => rfl
      case isFalse hk =>
        exact (List.find?_cons_of_neg (by simpa [hfirst] using hk)).symm
    · have hkeep : deleteBy key (first :: rest) k' = first :: deleteBy key rest k' :=
        List.filter_cons_of_pos (by simpa using hfirst)
      rw [hkeep]
      by_cases hk : key first = k
      · have hne : k' ≠ k := fun heq => hfirst (hk.trans heq.symm)
        rw [if_neg hne, fetchBy, fetchBy, List.find?_cons_of_pos (by simpa using hk),
          List.find?_cons_of_pos (by simpa using hk)]
      · have hrest : fetchBy key (first :: rest) k = fetchBy key rest k :=
          List.find?_cons_of_neg (by simpa using hk)
        rw [hrest, ← ih]
        exact List.find?_cons_of_neg (by simpa using hk)

theorem fetchBy_append_singleton :
    fetchBy key (table ++ [row]) k =
      (fetchBy key table k).or (if key row = k then some row else none) := by
  rw [fetchBy, List.find?_append, fetchBy, List.find?_singleton]
  simp only [decide_eq_true_eq]

theorem fetchBy_replaceBy :
    fetchBy key (replaceBy key table row) k =
      if key row = k then some row else fetchBy key table k := by
  rw [replaceBy, fetchBy_append_singleton, fetchBy_deleteBy]
  split
  · rfl
  · exact Option.or_none

theorem nodup_deleteBy (hnodup : (table.map key).Nodup) (k : κ) :
    ((deleteBy key table k).map key).Nodup := hnodup.sublist (List.filter_sublist.map key)

theorem nodup_replaceBy (hnodup : (table.map key).Nodup) (row : α) :
    ((replaceBy key table row).map key).Nodup := by
  rw [replaceBy, List.map_append, List.map_singleton]
  refine (List.perm_append_singleton _ _).nodup_iff.mpr
    (List.nodup_cons.mpr ⟨?_, nodup_deleteBy hnodup _⟩)
  intro hmem
  obtain ⟨other, hother, heq⟩ := List.mem_map.mp hmem
  have hne := (List.mem_filter.mp hother).2
  exact of_decide_eq_true hne heq

-- There is nothing to delete where no row has the key.
theorem deleteBy_of_fetchBy_none (h : fetchBy key table k = none) : deleteBy key table k = table := by
  apply List.filter_eq_self.mpr
  intro other hother
  exact decide_eq_true (fetchBy_eq_none.mp h other hother)

theorem mem_iff_fetchBy (hnodup : (table.map key).Nodup) :
    row ∈ table ↔ fetchBy key table (key row) = some row :=
  ⟨fetchBy_of_mem hnodup, mem_of_fetchBy⟩

end Replacing

section Ignoring

variable {key : α → κ} {table rows : List α}

-- INSERT IGNORE
def insertIgnore (key : α → κ) (table : List α) (row : α) : List α :=
  if table.any fun other => key other = key row then table else table ++ [row]

def insertIgnoreAll (key : α → κ) (table rows : List α) : List α :=
  rows.foldl (insertIgnore key) table

-- The rows that are not ignored.
def unseen (key : α → κ) (table rows : List α) : List α :=
  rows.filter fun row => !table.any fun other => key other = key row

theorem insertIgnoreAll_eq (h : (rows.map key).Nodup) :
    insertIgnoreAll key table rows = table ++ unseen key table rows := by
  induction rows generalizing table with
  | nil => exact (List.append_nil table).symm
  | cons row rest ih =>
    rw [List.map_cons, List.nodup_cons] at h
    have hrest : insertIgnoreAll key (insertIgnore key table row) rest =
        insertIgnore key table row ++ unseen key (insertIgnore key table row) rest := ih h.2
    change insertIgnoreAll key (insertIgnore key table row) rest = _
    rw [hrest]
    unfold insertIgnore unseen
    cases hany : table.any fun other => key other = key row with
    | true =>
      rw [if_pos rfl, List.filter_cons_of_neg (by simp [hany])]
    | false =>
      rw [if_neg (by simp), List.filter_cons_of_pos (by simp [hany]), List.append_assoc,
        List.singleton_append]
      congr 2
      apply List.filter_congr
      intro other hother
      have hne : key row ≠ key other := fun heq => h.1 (heq ▸ List.mem_map_of_mem hother)
      simp [hne]

theorem mem_unseen {row : α} :
    row ∈ unseen key table rows ↔ row ∈ rows ∧ ∀ other ∈ table, key other ≠ key row := by
  simp [unseen]

theorem nodup_insertIgnoreAll (htable : (table.map key).Nodup) (hrows : (rows.map key).Nodup) :
    ((insertIgnoreAll key table rows).map key).Nodup := by
  rw [insertIgnoreAll_eq hrows, List.map_append]
  refine List.nodup_append.mpr ⟨htable, hrows.sublist (List.filter_sublist.map key), ?_⟩
  intro k hk k' hk'
  obtain ⟨other, hother, rfl⟩ := List.mem_map.mp hk
  obtain ⟨row, hrow, rfl⟩ := List.mem_map.mp hk'
  exact (mem_unseen.mp hrow).2 other hother

end Ignoring

end BanchoPrism.Library
