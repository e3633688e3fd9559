import BanchoPrism.Library.Keyed
import Mathlib.Logic.Function.Basic

namespace BanchoPrism.Library

variable {α κ μ : Type}

-- A table with two unique columns.
structure Unique (first : α → κ) (second : α → μ) (table : List α) : Prop where
  first : (table.map first).Nodup
  second : (table.map second).Nodup

section Unique

variable {first : α → κ} {second : α → μ} {table : List α}

theorem Unique.nodup (h : Unique first second table) : table.Nodup := List.Nodup.of_map _ h.first

theorem Unique.filter (h : Unique first second table) (keep : α → Bool) :
    Unique first second (table.filter keep) :=
  ⟨h.first.sublist (List.filter_sublist.map _), h.second.sublist (List.filter_sublist.map _)⟩

theorem Unique.perm {other : List α} (h : Unique first second table) (hperm : table.Perm other) :
    Unique first second other :=
  ⟨(hperm.map first).nodup_iff.mp h.first, (hperm.map second).nodup_iff.mp h.second⟩

-- A change that touches neither column.
theorem Unique.map (h : Unique first second table) {f : α → α} (hfirst : ∀ a, first (f a) = first a)
    (hsecond : ∀ a, second (f a) = second a) : Unique first second (table.map f) := by
  have hfirst : first ∘ f = first := funext hfirst
  have hsecond : second ∘ f = second := funext hsecond
  constructor
  · rw [List.map_map, hfirst]
    exact h.first
  · rw [List.map_map, hsecond]
    exact h.second

theorem Unique.eq_of_first (h : Unique first second table) {a b : α} (ha : a ∈ table)
    (hb : b ∈ table) (heq : first a = first b) : a = b :=
  List.inj_on_of_nodup_map h.first ha hb heq

theorem Unique.eq_of_second (h : Unique first second table) {a b : α} (ha : a ∈ table)
    (hb : b ∈ table) (heq : second a = second b) : a = b :=
  List.inj_on_of_nodup_map h.second ha hb heq

end Unique

variable [DecidableEq κ] [DecidableEq μ]

-- REPLACE INTO: every row that has the value of the new one in either column goes.
def replaceInto (first : α → κ) (second : α → μ) (table : List α) (row : α) : List α :=
  (table.filter fun other => first other ≠ first row && second other ≠ second row) ++ [row]

def replaceAll (first : α → κ) (second : α → μ) (table rows : List α) : List α :=
  rows.foldl (replaceInto first second) table

section Replacing

variable {first : α → κ} {second : α → μ} {table rows : List α}

theorem mem_replaceInto {row other : α} :
    other ∈ replaceInto first second table row ↔
      other = row ∨ other ∈ table ∧ first other ≠ first row ∧ second other ≠ second row := by
  simp only [replaceInto, List.mem_append, List.mem_filter, Bool.and_eq_true, decide_eq_true_eq,
    List.mem_singleton]
  exact or_comm

theorem nodup_map_append {ν : Type} {f : α → ν} {row : α} (h : (table.map f).Nodup)
    (hnew : ∀ other ∈ table, f other ≠ f row) : ((table ++ [row]).map f).Nodup := by
  rw [List.map_append, List.map_singleton]
  refine (List.perm_append_singleton _ _).nodup_iff.mpr (List.nodup_cons.mpr ⟨?_, h⟩)
  intro hmem
  obtain ⟨other, hother, heq⟩ := List.mem_map.mp hmem
  exact hnew other hother heq

theorem Unique.replaceInto (h : Unique first second table) (row : α) :
    Unique first second (replaceInto first second table row) := by
  have hfirst := (h.first).sublist (List.Sublist.map first (List.filter_sublist (l := table)
    (p := fun other => first other ≠ first row && second other ≠ second row)))
  have hsecond := (h.second).sublist (List.Sublist.map second (List.filter_sublist (l := table)
    (p := fun other => first other ≠ first row && second other ≠ second row)))
  refine ⟨nodup_map_append hfirst fun other hother => ?_,
    nodup_map_append hsecond fun other hother => ?_⟩
  · have hkeep := (List.mem_filter.mp hother).2
    exact of_decide_eq_true (Bool.and_eq_true_iff.mp hkeep).1
  · have hkeep := (List.mem_filter.mp hother).2
    exact of_decide_eq_true (Bool.and_eq_true_iff.mp hkeep).2

theorem Unique.replaceAll (h : Unique first second table) (rows : List α) :
    Unique first second (replaceAll first second table rows) := by
  induction rows generalizing table with
  | nil => exact h
  | cons row rest ih => exact ih (h.replaceInto row)

-- Rows of which no two have a value in common all get into the table.
theorem mem_replaceAll (h : Unique first second rows) {other : α} :
    other ∈ replaceAll first second table rows ↔
      other ∈ rows ∨
        other ∈ table ∧ ∀ row ∈ rows, first other ≠ first row ∧ second other ≠ second row := by
  induction rows generalizing table with
  | nil => simp [replaceAll]
  | cons row rest ih =>
    obtain ⟨hfirst, hsecond⟩ := h
    rw [List.map_cons, List.nodup_cons] at hfirst hsecond
    have hrow : ∀ later ∈ rest, first row ≠ first later ∧ second row ≠ second later := by
      intro later hlater
      constructor
      · exact fun heq => hfirst.1 (heq ▸ List.mem_map_of_mem hlater)
      · exact fun heq => hsecond.1 (heq ▸ List.mem_map_of_mem hlater)
    change other ∈ replaceAll first second (Library.replaceInto first second table row) rest ↔ _
    rw [ih ⟨hfirst.2, hsecond.2⟩, mem_replaceInto, List.mem_cons, List.forall_mem_cons]
    constructor
    · rintro (hrest | ⟨rfl | ⟨htable, hne⟩, hlater⟩)
      · exact Or.inl (Or.inr hrest)
      · exact Or.inl (Or.inl rfl)
      · exact Or.inr ⟨htable, hne, hlater⟩
    · rintro ((rfl | hrest) | ⟨htable, hne, hlater⟩)
      · exact Or.inr ⟨Or.inl rfl, hrow⟩
      · exact Or.inl hrest
      · exact Or.inr ⟨Or.inr ⟨htable, hne⟩, hlater⟩

end Replacing

section Upserting

variable {first : α → κ} {second : α → μ} {table : List α} {row : α} {update : α → α}

instance (first : α → κ) (second : α → μ) (table : List α) :
    Decidable (Unique first second table) :=
  decidable_of_iff ((table.map first).Nodup ∧ (table.map second).Nodup)
    ⟨fun h => ⟨h.1, h.2⟩, fun h => ⟨h.first, h.second⟩⟩

-- A statement fails that would leave two rows with a value in common.
def enforce (first : α → κ) (second : α → μ) (table : List α) : Option (List α) :=
  if Unique first second table then some table else none

-- INSERT ... ON DUPLICATE KEY UPDATE: the row is updated that has the first value, and where
-- there is none, the row that has the second.
def upsertInto (first : α → κ) (second : α → μ) (table : List α) (row : α) (update : α → α) :
    Option (List α) :=
  if table.any fun other => first other = first row then
    enforce first second
      (table.map fun other => if first other = first row then update other else other)
  else if table.any fun other => second other = second row then
    enforce first second
      (table.map fun other => if second other = second row then update other else other)
  else some (table ++ [row])

theorem Unique.of_enforce {after : List α} (h : enforce first second table = some after) :
    Unique first second after := by
  unfold enforce at h
  split at h
  case isTrue hunique =>
    cases h
    exact hunique
  case isFalse => cases h

theorem Unique.upsertInto (h : Unique first second table) {after : List α}
    (hafter : upsertInto first second table row update = some after) :
    Unique first second after := by
  unfold Library.upsertInto at hafter
  split at hafter
  case isTrue => exact Unique.of_enforce hafter
  case isFalse hfirst =>
    split at hafter
    case isTrue => exact Unique.of_enforce hafter
    case isFalse hsecond =>
      cases hafter
      simp only [List.any_eq_true, decide_eq_true_eq, not_exists, not_and] at hfirst hsecond
      exact ⟨nodup_map_append h.first hfirst, nodup_map_append h.second hsecond⟩

-- Where no other row has the second value, the first is all that the upsert goes by.
theorem upsertInto_eq_upsertBy (h : Unique first second table)
    (hfirst : ∀ other, first (update other) = first other)
    (hsecond : ∀ other, second (update other) = second row)
    (hfree : ∀ other ∈ table, second other = second row → first other = first row) :
    upsertInto first second table row update = some (upsertBy first table row update) := by
  unfold upsertInto upsertBy
  split
  case isTrue hany =>
    have hunique : Unique first second
        (table.map fun other => if first other = first row then update other else other) := by
      constructor
      · apply nodup_map_of_same h.first
        intro other
        split
        · exact hfirst other
        · rfl
      · rw [List.map_map]
        apply h.nodup.map_on
        intro a ha b hb heq
        simp only [Function.comp_apply] at heq
        split at heq <;> split at heq
        · rename_i hrow hrow'
          exact h.eq_of_first ha hb (hrow.trans hrow'.symm)
        · rename_i hrow hne
          rw [hsecond] at heq
          exact absurd (hfree b hb heq.symm) hne
        · rename_i hne hrow
          rw [hsecond] at heq
          exact absurd (hfree a ha heq) hne
        · exact h.eq_of_second ha hb heq
    rw [enforce, if_pos hunique]
  case isFalse hnone =>
    rw [if_neg]
    intro hany
    obtain ⟨other, hother, heq⟩ := List.any_eq_true.mp hany
    apply hnone
    exact List.any_eq_true.mpr
      ⟨other, hother, decide_eq_true (hfree other hother (of_decide_eq_true heq))⟩

end Upserting

section Dicts

-- {key: value for ...}: a key that comes again keeps its place and gets the new value.
def dictSet (dict : List (κ × α)) (entry : κ × α) : List (κ × α) :=
  if dict.any fun other => other.1 = entry.1 then
    dict.map fun other => if other.1 = entry.1 then entry else other
  else dict ++ [entry]

def dictOf (entries : List (κ × α)) : List (κ × α) := entries.foldl dictSet []

theorem mem_dictSet {dict : List (κ × α)} {entry other : κ × α} (h : other ∈ dictSet dict entry) :
    other ∈ dict ∨ other = entry := by
  unfold dictSet at h
  split at h
  · obtain ⟨old, hold, rfl⟩ := List.mem_map.mp h
    split
    · exact Or.inr rfl
    · exact Or.inl hold
  · rcases List.mem_append.mp h with hold | hnew
    · exact Or.inl hold
    · exact Or.inr (List.mem_singleton.mp hnew)

theorem mem_foldl_dictSet {entries dict : List (κ × α)} {other : κ × α}
    (h : other ∈ entries.foldl dictSet dict) : other ∈ dict ∨ other ∈ entries := by
  induction entries generalizing dict with
  | nil => exact Or.inl h
  | cons entry rest ih =>
    rcases ih h with hold | hrest
    · rcases mem_dictSet hold with hdict | rfl
      · exact Or.inl hdict
      · exact Or.inr List.mem_cons_self
    · exact Or.inr (List.mem_cons_of_mem entry hrest)

theorem mem_of_mem_dictOf {entries : List (κ × α)} {other : κ × α} (h : other ∈ dictOf entries) :
    other ∈ entries := by
  rcases mem_foldl_dictSet h with hnil | hmem
  · cases hnil
  · exact hmem

theorem keys_dictSet (dict : List (κ × α)) (entry : κ × α) :
    (dictSet dict entry).map Prod.fst =
      if entry.1 ∈ dict.map Prod.fst then dict.map Prod.fst
      else dict.map Prod.fst ++ [entry.1] := by
  have hany : (dict.any fun other => other.1 = entry.1) ↔ entry.1 ∈ dict.map Prod.fst := by
    simp [List.any_eq_true]
  unfold dictSet
  by_cases h : entry.1 ∈ dict.map Prod.fst
  · rw [if_pos (hany.mpr h), if_pos h, List.map_map]
    refine List.map_congr_left fun other _ => ?_
    simp only [Function.comp_apply]
    split
    · rename_i heq
      exact heq.symm
    · rfl
  · rw [if_neg (mt hany.mp h), if_neg h, List.map_append, List.map_singleton]

theorem mem_keys_dictSet {dict : List (κ × α)} {entry : κ × α} {k : κ} :
    k ∈ (dictSet dict entry).map Prod.fst ↔ k ∈ dict.map Prod.fst ∨ k = entry.1 := by
  rw [keys_dictSet]
  split
  · rename_i hmem
    refine ⟨Or.inl, ?_⟩
    rintro (hk | rfl)
    · exact hk
    · exact hmem
  · rw [List.mem_append, List.mem_singleton]

theorem mem_keys_dictOf {entries : List (κ × α)} {k : κ} :
    k ∈ (dictOf entries).map Prod.fst ↔ k ∈ entries.map Prod.fst := by
  have hfold (dict : List (κ × α)) : k ∈ (entries.foldl dictSet dict).map Prod.fst ↔
      k ∈ dict.map Prod.fst ∨ k ∈ entries.map Prod.fst := by
    induction entries generalizing dict with
    | nil => simp
    | cons entry rest ih =>
      rw [List.foldl_cons, ih, mem_keys_dictSet, List.map_cons, List.mem_cons, or_assoc]
  rw [dictOf, hfold]
  simp

-- The value that is found is one that was given for the key, and with different keys the one.
theorem mem_of_lookup_dictOf {entries : List (κ × α)} {k : κ} {value : α}
    (h : (dictOf entries).lookup k = some value) : (k, value) ∈ entries := by
  obtain ⟨before, after, hsplit, -⟩ := List.lookup_eq_some_iff.mp h
  refine mem_of_mem_dictOf ?_
  rw [hsplit]
  exact List.mem_append_right _ List.mem_cons_self

theorem isSome_lookup_dictOf {entries : List (κ × α)} {k : κ} :
    ((dictOf entries).lookup k).isSome ↔ k ∈ entries.map Prod.fst := by
  rw [← mem_keys_dictOf, List.lookup_isSome_iff, List.mem_map]
  constructor
  · rintro ⟨entry, hentry, heq⟩
    exact ⟨entry, hentry, (eq_of_beq heq).symm⟩
  · rintro ⟨entry, hentry, rfl⟩
    exact ⟨entry, hentry, beq_self_eq_true _⟩

theorem lookup_dictOf_of_nodup {entries : List (κ × α)} (hnodup : (entries.map Prod.fst).Nodup)
    {k : κ} {value : α} (h : (k, value) ∈ entries) : (dictOf entries).lookup k = some value := by
  cases hlookup : (dictOf entries).lookup k with
  | none =>
    have hsome := isSome_lookup_dictOf.mpr (List.mem_map_of_mem h)
    rw [hlookup] at hsome
    cases hsome
  | some found =>
    have hsame := List.inj_on_of_nodup_map hnodup (mem_of_lookup_dictOf hlookup) h rfl
    rw [Prod.mk.injEq] at hsame
    rw [hsame.2]

theorem foldl_dictSet_of_nodup {entries dict : List (κ × α)}
    (h : ((dict ++ entries).map Prod.fst).Nodup) :
    entries.foldl dictSet dict = dict ++ entries := by
  induction entries generalizing dict with
  | nil => simp
  | cons entry rest ih =>
    have hnew : (dict.any fun other => other.1 = entry.1) = false := by
      rw [List.map_append, List.map_cons, List.nodup_append] at h
      rw [List.any_eq_false]
      intro other hother
      have hne := h.2.2 other.1 (List.mem_map_of_mem hother) entry.1 List.mem_cons_self
      simpa using hne
    have hset : dictSet dict entry = dict ++ [entry] := by
      unfold dictSet
      rw [hnew]
      rfl
    rw [List.foldl_cons, hset, ih (by simpa using h), List.append_assoc]
    rfl

-- Entries of which no two have a key in common are the dict as they stand.
theorem dictOf_of_nodup {entries : List (κ × α)} (h : (entries.map Prod.fst).Nodup) :
    dictOf entries = entries := foldl_dictSet_of_nodup h

theorem head?_dictSet (dict : List (κ × α)) (entry : κ × α) :
    ((dictSet dict entry).map Prod.fst).head? = (dict.map Prod.fst).head?.or (some entry.1) := by
  rw [keys_dictSet]
  cases hkeys : dict.map Prod.fst with
  | nil => simp
  | cons k rest =>
    split
    · rfl
    · rfl

-- dict.setdefault(k, v)
def setDefault (dict : List (κ × α)) (entry : κ × α) : List (κ × α) :=
  if (dict.lookup entry.1).isSome then dict else dict ++ [entry]

theorem lookup_setDefault (dict : List (κ × α)) (entry : κ × α) (k : κ) :
    (setDefault dict entry).lookup k =
      (dict.lookup k).or (if entry.1 = k then some entry.2 else none) := by
  have hnew : [entry].lookup k = if entry.1 = k then some entry.2 else none := by
    rw [List.lookup_cons, List.lookup_nil]
    by_cases heq : entry.1 = k
    · simp [heq]
    · have hne : (k == entry.1) = false := beq_eq_false_iff_ne.mpr (Ne.symm heq)
      rw [if_neg heq, hne]
  unfold setDefault
  split
  · rename_i hseen
    split
    · rename_i heq
      rw [heq] at hseen
      rw [Option.or_of_isSome hseen]
    · rw [Option.or_none]
  · rw [List.lookup_append, hnew]

-- A key that is there stays where it is; another one is where it comes first.
theorem lookup_foldl_setDefault (keys : List κ) (index : ℕ) (dict : List (κ × ℕ)) (k : κ) :
    ((keys.zipIdx index).foldl setDefault dict).lookup k =
      (dict.lookup k).or (if k ∈ keys then some (index + keys.idxOf k) else none) := by
  induction keys generalizing index dict with
  | nil => simp
  | cons key rest ih =>
    rw [List.zipIdx_cons, List.foldl_cons, ih, lookup_setDefault, Option.or_assoc]
    congr 1
    by_cases heq : key = k
    · subst heq
      rw [if_pos rfl, if_pos List.mem_cons_self, List.idxOf_cons_self]
      rfl
    · rw [if_neg heq, Option.none_or, List.idxOf_cons_ne _ heq]
      simp only [List.mem_cons, Ne.symm heq, false_or, Nat.succ_eq_add_one]
      rw [Nat.add_right_comm, Nat.add_assoc]

theorem lookup_dictSet (dict : List (κ × α)) (entry : κ × α) (k : κ) :
    (dictSet dict entry).lookup k = if entry.1 = k then some entry.2 else dict.lookup k := by
  have hmap (dict : List (κ × α)) :
      (dict.map fun other => if other.1 = entry.1 then entry else other).lookup k =
        if entry.1 = k then (dict.lookup k).map (fun _ => entry.2) else dict.lookup k := by
    induction dict with
    | nil => simp
    | cons other rest ih =>
      rw [List.map_cons, List.lookup_cons, List.lookup_cons, ih]
      by_cases hother : other.1 = entry.1
      · by_cases hk : entry.1 = k
        · subst hk
          simp [hother]
        · have hkey : (k == entry.1) = false := beq_eq_false_iff_ne.mpr (Ne.symm hk)
          simp only [hother, hkey, if_true]
      · by_cases hk : entry.1 = k
        · have hkey : (k == other.1) = false :=
            beq_eq_false_iff_ne.mpr fun heq => hother (heq.symm.trans hk.symm)
          simp only [hother, hkey, if_false]
        · simp only [hother, hk, if_false]
  unfold dictSet
  split
  case isTrue hany =>
    rw [hmap]
    split
    case isTrue hk =>
      obtain ⟨other, hother, heq⟩ := List.any_eq_true.mp hany
      have hsome : (dict.lookup k).isSome := by
        rw [List.lookup_isSome_iff]
        exact ⟨other, hother, beq_iff_eq.mpr ((of_decide_eq_true heq).trans hk).symm⟩
      obtain ⟨value, hvalue⟩ := Option.isSome_iff_exists.mp hsome
      rw [hvalue]
      rfl
    case isFalse => rfl
  case isFalse hnone =>
    rw [List.lookup_append]
    split
    case isTrue hk =>
      have hlookup : dict.lookup k = none := by
        rw [List.lookup_eq_none_iff]
        intro other hother
        rw [bne_iff_ne]
        intro heq
        apply hnone
        exact List.any_eq_true.mpr ⟨other, hother, decide_eq_true (heq.symm.trans hk.symm)⟩
      rw [hlookup, Option.none_or, List.lookup_cons, hk, beq_self_eq_true]
    case isFalse hk =>
      have hkey : (k == entry.1) = false := beq_eq_false_iff_ne.mpr (Ne.symm hk)
      rw [List.lookup_cons, hkey, List.lookup_nil, Option.or_none]

-- The last entry of a key is the one that counts.
theorem lookup_dictOf (entries : List (κ × α)) (k : κ) :
    (dictOf entries).lookup k =
      ((entries.filter fun entry => entry.1 = k).getLast?).map Prod.snd := by
  have hreverse (entries : List (κ × α)) : (dictOf entries.reverse).lookup k =
      ((entries.reverse.filter fun entry => entry.1 = k).getLast?).map Prod.snd := by
    induction entries with
    | nil => rfl
    | cons entry rest ih =>
      have hset : dictOf (rest.reverse ++ [entry]) = dictSet (dictOf rest.reverse) entry := by
        simp [dictOf]
      rw [List.reverse_cons, hset, lookup_dictSet, ih, List.filter_append]
      by_cases hk : entry.1 = k
      · simp [hk]
      · simp [hk]
  have h := hreverse entries.reverse
  rwa [List.reverse_reverse] at h

theorem lookup_dictOf_append (entries later : List (κ × α)) (k : κ) :
    (dictOf (entries ++ later)).lookup k =
      ((dictOf later).lookup k).or ((dictOf entries).lookup k) := by
  rw [lookup_dictOf, lookup_dictOf, lookup_dictOf, List.filter_append, List.getLast?_append,
    Option.map_or]

-- Keys that are bound one after another.
def bindAll (key : α → κ) (f : κ → Option α) (items : List α) : κ → Option α :=
  items.foldl (fun f item => Function.update f (key item) (some item)) f

theorem bindAll_eq_some {key : α → κ} {f : κ → Option α} {items : List α} {k : κ} {item : α}
    (h : bindAll key f items k = some item) :
    (item ∈ items ∧ key item = k) ∨ (f k = some item ∧ ∀ other ∈ items, key other ≠ k) := by
  induction items generalizing f with
  | nil => exact Or.inr ⟨h, fun other hother => absurd hother List.not_mem_nil⟩
  | cons first rest ih =>
    rcases ih h with ⟨hmem, hkey⟩ | ⟨hf, hrest⟩
    · exact Or.inl ⟨List.mem_cons_of_mem first hmem, hkey⟩
    · dsimp only at hf
      by_cases hfirst : k = key first
      · subst hfirst
        rw [Function.update_self] at hf
        cases hf
        exact Or.inl ⟨List.mem_cons_self, rfl⟩
      · rw [Function.update_of_ne hfirst] at hf
        exact Or.inr ⟨hf, List.forall_mem_cons.mpr ⟨Ne.symm hfirst, hrest⟩⟩

end Dicts

-- The keys of a table whose rows are looked up before one is inserted, with the keys that were
-- found free and are yet to be inserted.
def Reserved {α κ : Type} (key : α → κ) (table : List α) (pending : List κ) : Prop :=
  (table.map key ++ pending).Nodup

section Reserving

variable {α κ : Type} {key : α → κ} {table other : List α} {pending later : List κ}

theorem Reserved.nodup (h : Reserved key table pending) : (table.map key).Nodup :=
  (List.nodup_append.mp h).1

theorem Reserved.perm (h : Reserved key table pending) (hperm : pending.Perm later) :
    Reserved key table later := (hperm.append_left _).nodup_iff.mp h

theorem Reserved.sublist (h : Reserved key table pending) (hother : other.Sublist table)
    (hlater : later.Sublist pending) : Reserved key other later :=
  List.Nodup.sublist ((hother.map key).append hlater) h

-- The key is found free, and nobody else has found it so.
theorem Reserved.reserve {k : κ} (h : Reserved key table pending)
    (hfree : ∀ row ∈ table, key row ≠ k) (halone : k ∉ pending) :
    Reserved key table (k :: pending) := by
  refine (List.perm_middle.nodup_iff).mpr (List.nodup_cons.mpr ⟨fun hmem => ?_, h⟩)
  rcases List.mem_append.mp hmem with htable | hpending
  · obtain ⟨row, hrow, heq⟩ := List.mem_map.mp htable
    exact hfree row hrow heq
  · exact halone hpending

theorem Reserved.insert {row : α} (h : Reserved key table (key row :: pending)) :
    Reserved key (table ++ [row]) pending := by
  rw [Reserved, List.map_append, List.append_assoc]
  exact h

end Reserving

end BanchoPrism.Library
