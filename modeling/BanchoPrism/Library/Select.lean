import Mathlib.Data.List.Nodup
import Mathlib.Order.OrderDual
import Mathlib.Order.Lattice
import Mathlib.Data.Prod.Lex

namespace BanchoPrism.Library

section Selecting

variable {α ν : Type}

-- ORDER BY value DESC, with the key in ascending order among equal values.
def before [LinearOrder ν] (value : α → ν) (key : α → Nat) (a b : α) : Bool :=
  value b < value a || (value a = value b && key a ≤ key b)

-- SELECT ... WHERE p ORDER BY value DESC LIMIT limit
def select [LinearOrder ν] (p : α → Bool) (value : α → ν) (key : α → Nat) (limit : Nat)
    (rows : List α) : List α :=
  ((rows.filter p).mergeSort (before value key)).take limit

theorem select_singleton [LinearOrder ν] {p : α → Bool} {value : α → ν} {key : α → Nat} {row : α}
    (hp : p row = true) (limit : Nat) : select p value key (limit + 1) [row] = [row] := by
  simp [select, hp]

-- Two tables, each with a row for a key at most, have the same rows of a kind.
structure Agree (p : α → Bool) (key : α → Nat) (rows rows' : List α) : Prop where
  keys : (rows.map key).Nodup
  keys' : (rows'.map key).Nodup
  rows : ∀ row, p row → (row ∈ rows ↔ row ∈ rows')

section Agreeing

variable {p q : α → Bool} {value : α → ν} {key : α → Nat} {rows rows' : List α}

theorem Agree.mono (h : Agree p key rows rows') (hq : ∀ row, q row → p row) :
    Agree q key rows rows' := ⟨h.keys, h.keys', fun row hrow => h.rows row (hq row hrow)⟩

theorem Agree.perm (h : Agree p key rows rows') : (rows.filter p).Perm (rows'.filter p) := by
  have hnodup := (List.Nodup.of_map key h.keys).filter p
  have hnodup' := (List.Nodup.of_map key h.keys').filter p
  refine (List.perm_ext_iff_of_nodup hnodup hnodup').mpr fun row => ?_
  simp only [List.mem_filter]
  constructor
  · exact fun hrow => ⟨(h.rows row hrow.2).mp hrow.1, hrow.2⟩
  · exact fun hrow => ⟨(h.rows row hrow.2).mpr hrow.1, hrow.2⟩

theorem Agree.countP (h : Agree p key rows rows') : rows.countP p = rows'.countP p := by
  rw [List.countP_eq_length_filter, List.countP_eq_length_filter, h.perm.length_eq]

-- One row at most passes q, and it is found.
theorem find?_filter_eq_some (hkeys : (rows.map key).Nodup)
    (hq : ∀ a b, q a → q b → key a = key b) {row : α} :
    (rows.find? q).filter p = some row ↔ row ∈ rows ∧ q row ∧ p row := by
  rw [Option.filter_eq_some_iff]
  constructor
  · rintro ⟨hfind, hp⟩
    exact ⟨List.mem_of_find?_eq_some hfind, List.find?_some hfind, hp⟩
  · rintro ⟨hmem, hrow, hp⟩
    refine ⟨?_, hp⟩
    cases hfind : rows.find? q with
    | none => exact absurd hrow (List.find?_eq_none.mp hfind row hmem)
    | some other =>
      have hkey := hq other row (List.find?_some hfind) hrow
      rw [List.inj_on_of_nodup_map hkeys (List.mem_of_find?_eq_some hfind) hmem hkey]

theorem Agree.find?_filter (h : Agree p key rows rows') (hq : ∀ a b, q a → q b → key a = key b) :
    (rows.find? q).filter p = (rows'.find? q).filter p := by
  ext row
  rw [find?_filter_eq_some h.keys hq, find?_filter_eq_some h.keys' hq]
  constructor
  · rintro ⟨hmem, hrow, hp⟩
    exact ⟨(h.rows row hp).mp hmem, hrow, hp⟩
  · rintro ⟨hmem, hrow, hp⟩
    exact ⟨(h.rows row hp).mpr hmem, hrow, hp⟩

variable [LinearOrder ν]

theorem before_trans (a b c : α) (hab : before value key a b) (hbc : before value key b c) :
    before value key a c := by
  simp only [before, Bool.or_eq_true, Bool.and_eq_true, decide_eq_true_eq] at hab hbc ⊢
  rcases hab with hab | ⟨hab, hkey⟩
  · rcases hbc with hbc | ⟨hbc, -⟩
    · exact Or.inl (lt_trans hbc hab)
    · exact Or.inl (hbc ▸ hab)
  · rcases hbc with hbc | ⟨hbc, hkey'⟩
    · exact Or.inl (hab ▸ hbc)
    · exact Or.inr ⟨hab.trans hbc, Nat.le_trans hkey hkey'⟩

theorem before_total (a b : α) : before value key a b || before value key b a := by
  simp only [before, Bool.or_eq_true, Bool.and_eq_true, decide_eq_true_eq]
  rcases lt_trichotomy (value a) (value b) with h | h | h
  · exact Or.inr (Or.inl h)
  · rcases Nat.le_total (key a) (key b) with hkey | hkey
    · exact Or.inl (Or.inr ⟨h, hkey⟩)
    · exact Or.inr (Or.inr ⟨h.symm, hkey⟩)
  · exact Or.inl (Or.inl h)

theorem key_eq_of_before {a b : α} (hab : before value key a b) (hba : before value key b a) :
    key a = key b := by
  simp only [before, Bool.or_eq_true, Bool.and_eq_true, decide_eq_true_eq] at hab hba
  rcases hab with hab | ⟨hab, hkey⟩
  · rcases hba with hba | ⟨hba, -⟩
    · exact absurd (lt_trans hab hba) (lt_irrefl _)
    · exact absurd hab (hba ▸ lt_irrefl _)
  · rcases hba with hba | ⟨-, hkey'⟩
    · exact absurd hba (hab ▸ lt_irrefl _)
    · exact Nat.le_antisymm hkey hkey'

-- What a query answers depends on the rows that it is for only.
theorem Agree.select (h : Agree p key rows rows') (limit : Nat) :
    select p value key limit rows = select p value key limit rows' := by
  have hsorted := List.pairwise_mergeSort before_trans (@before_total α ν value key _)
  have hperm : ((rows.filter p).mergeSort (before value key)).Perm
      ((rows'.filter p).mergeSort (before value key)) :=
    (List.mergeSort_perm _ _).trans (h.perm.trans (List.mergeSort_perm _ _).symm)
  have heq : (rows.filter p).mergeSort (before value key) =
      (rows'.filter p).mergeSort (before value key) := by
    refine List.Perm.eq_of_pairwise ?_ (hsorted _) (hsorted _) hperm
    intro a b ha hb hab hba
    have hb' := hperm.mem_iff.mpr hb
    rw [List.mem_mergeSort] at ha hb'
    exact List.inj_on_of_nodup_map h.keys (List.mem_of_mem_filter ha)
      (List.mem_of_mem_filter hb') (key_eq_of_before hab hba)
  unfold Library.select
  rw [heq]

-- LIMIT 1 answers with the row that has the greatest value, where it is the only one.
theorem select_one_head? {row : α} (hrow : row ∈ rows) (hp : p row)
    (hless : ∀ other ∈ rows, other ≠ row → value other < value row) :
    (select p value key 1 rows).head? = some row := by
  have hsorted := List.pairwise_mergeSort before_trans (@before_total α ν value key _)
    (rows.filter p)
  have hmem : row ∈ (rows.filter p).mergeSort (before value key) :=
    List.mem_mergeSort.mpr (List.mem_filter.mpr ⟨hrow, hp⟩)
  unfold Library.select
  cases hsort : (rows.filter p).mergeSort (before value key) with
  | nil =>
    rw [hsort] at hmem
    cases hmem
  | cons first rest =>
    rw [hsort] at hmem hsorted
    rw [List.take_succ_cons, List.head?_cons, Option.some.injEq]
    by_contra hne
    have hfirst : first ∈ rows := by
      have hin : first ∈ (rows.filter p).mergeSort (before value key) :=
        hsort ▸ List.mem_cons_self
      exact (List.mem_filter.mp (List.mem_mergeSort.mp hin)).1
    have hlt := hless first hfirst hne
    have hbefore := (List.pairwise_cons.mp hsorted).1 row
      ((List.mem_cons.mp hmem).resolve_left (Ne.symm hne))
    simp only [before, Bool.or_eq_true, Bool.and_eq_true, decide_eq_true_eq] at hbefore
    rcases hbefore with hgt | ⟨heq, -⟩
    · exact lt_asymm hlt hgt
    · exact absurd hlt (heq ▸ lt_irrefl _)

end Agreeing

end Selecting

variable {α β ω ω' : Type} [LinearOrder ω] [LinearOrder ω']

-- How many of the list go before the value.
def placesBefore (weight : α → ω) (l : List α) (a : α) : ℕ := l.countP fun b => weight b < weight a

section Places

variable {weight : α → ω} {weight' : α → ω'} {l l' : List α} {a b : α}

theorem placesBefore_perm (h : l.Perm l') : placesBefore weight l a = placesBefore weight l' a :=
  h.countP_eq _

theorem placesBefore_map {f : β → α} {l : List β} {b : β} :
    placesBefore weight (l.map f) (f b) = placesBefore (weight ∘ f) l b := by
  unfold placesBefore
  rw [List.countP_map]
  rfl

theorem placesBefore_le (h : weight a ≤ weight b) :
    placesBefore weight l a ≤ placesBefore weight l b := by
  apply List.countP_mono_left
  intro c _ hc
  rw [decide_eq_true_iff] at hc ⊢
  exact lt_of_lt_of_le hc h

-- The first of the two goes before the second, and not before itself.
theorem placesBefore_lt (ha : a ∈ l) (h : weight a < weight b) :
    placesBefore weight l a < placesBefore weight l b := by
  obtain ⟨front, back, rfl⟩ := List.append_of_mem ha
  have hfront := placesBefore_le (l := front) h.le
  have hback := placesBefore_le (l := back) h.le
  unfold placesBefore at hfront hback ⊢
  rw [List.countP_append, List.countP_append, List.countP_cons_of_neg (by simp),
    List.countP_cons_of_pos (by simpa using h)]
  omega

theorem placesBefore_lt_iff (ha : a ∈ l) :
    placesBefore weight l a < placesBefore weight l b ↔ weight a < weight b := by
  constructor
  · intro h
    by_contra hle
    have := placesBefore_le (l := l) (not_lt.mp hle)
    omega
  · exact placesBefore_lt ha

-- Two orders give everyone the same place just where they order every two alike.
theorem placesBefore_eq_iff :
    (∀ a ∈ l, placesBefore weight l a = placesBefore weight' l a) ↔
      ∀ a ∈ l, ∀ b ∈ l, weight a < weight b ↔ weight' a < weight' b := by
  constructor
  · intro h a ha b hb
    calc weight a < weight b
      _ ↔ placesBefore weight l a < placesBefore weight l b := (placesBefore_lt_iff ha).symm
      _ ↔ placesBefore weight' l a < placesBefore weight' l b := by rw [h a ha, h b hb]
      _ ↔ weight' a < weight' b := placesBefore_lt_iff ha
  · intro h a ha
    apply List.countP_congr
    intro b hb
    rw [decide_eq_true_iff, decide_eq_true_iff]
    exact h b hb a ha

end Places

section Sorting

variable {value : α → ω} {key : α → ℕ} {l : List α} {a : α}

-- ORDER BY value DESC, key ASC
def weight (value : α → ω) (key : α → ℕ) (a : α) : ωᵒᵈ ×ₗ ℕ :=
  toLex (OrderDual.toDual (value a), key a)

theorem before_iff_weight_le {a b : α} :
    before value key a b = true ↔ weight value key a ≤ weight value key b := by
  simp only [before, weight, Bool.or_eq_true, Bool.and_eq_true, decide_eq_true_eq,
    Prod.Lex.toLex_le_toLex, OrderDual.toDual_lt_toDual, OrderDual.toDual_inj]

-- Where a row stands in the sorted table: those that go before it stand in front of it.
theorem idxOf_mergeSort [BEq α] [LawfulBEq α] (hkeys : (l.map key).Nodup) (ha : a ∈ l) :
    (l.mergeSort (before value key)).idxOf a = placesBefore (weight value key) l a := by
  have hperm := List.mergeSort_perm l (before value key)
  have hsorted : (l.mergeSort (before value key)).Pairwise fun a b => before value key a b = true :=
    List.pairwise_mergeSort before_trans before_total l
  have hkeys' : ((l.mergeSort (before value key)).map key).Nodup :=
    (hperm.map key).nodup_iff.mpr hkeys
  rw [← placesBefore_perm hperm]
  obtain ⟨front, back, hsplit⟩ := List.append_of_mem (hperm.mem_iff.mpr ha)
  rw [hsplit] at hsorted hkeys' ⊢
  rw [List.map_append, List.map_cons, List.nodup_append] at hkeys'
  obtain ⟨-, hback, hne⟩ := hkeys'
  obtain ⟨-, hright, hcross⟩ := List.pairwise_append.mp hsorted
  have hfront : ∀ b ∈ front, weight value key b < weight value key a := by
    intro b hb
    refine lt_of_le_of_ne (before_iff_weight_le.mp (hcross b hb a List.mem_cons_self)) ?_
    intro heq
    have hkey : key b = key a := congrArg (fun w : ωᵒᵈ ×ₗ ℕ => (ofLex w).2) heq
    exact hne (key b) (List.mem_map_of_mem hb) (key a) List.mem_cons_self hkey
  have hbehind : ∀ b ∈ back, ¬ weight value key b < weight value key a := by
    intro b hb
    exact not_lt.mpr (before_iff_weight_le.mp ((List.pairwise_cons.mp hright).1 b hb))
  have hnotin : a ∉ front := fun hmem => lt_irrefl _ (hfront a hmem)
  have hcount : placesBefore (weight value key) front a = front.length := by
    unfold placesBefore
    rw [List.countP_eq_length]
    simpa using hfront
  have hnone : placesBefore (weight value key) back a = 0 := by
    unfold placesBefore
    rw [List.countP_eq_zero]
    simpa using hbehind
  rw [List.idxOf_append, if_neg hnotin, List.idxOf_cons_self, Nat.zero_add]
  unfold placesBefore at hcount hnone ⊢
  rw [List.countP_append, List.countP_cons_of_neg (by simp), hcount, hnone, Nat.add_zero]

end Sorting

end BanchoPrism.Library
