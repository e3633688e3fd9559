import Mathlib.Data.List.Basic
import Mathlib.Logic.Function.Basic

namespace BanchoPrism.Library

-- A row of a table of things that open and close, with who opened it and whose
-- closing stamped its end time.
structure Entry (κ : Type) where
  opener : κ
  closer : Option κ
  deriving DecidableEq

-- An insert in the background: its statement has still to run, or the id of the
-- new row is on its way back to whoever asked for it.
inductive Opening
  | idle
  | inserting
  | returning (id : Nat)
  | done
  deriving DecidableEq

def Opening.pending : Opening → Bool
  | .inserting | .returning _ => true
  | .idle | .done => false

-- The table, and for each key its insert and the row its closing has still to stamp.
structure Ledger (κ : Type) where
  rows : List (Entry κ)
  opening : κ → Opening
  closing : κ → Option Nat

-- WHERE ended_at IS NULL: only the first stamp counts.
def Entry.close {κ : Type} (entry : Entry κ) (k : κ) : Entry κ :=
  if entry.closer.isNone then { entry with closer := some k } else entry

namespace Ledger

variable {κ : Type}

def empty : Ledger κ := { rows := [], opening := fun _ => .idle, closing := fun _ => none }

-- Whoever is gone schedules the closing of the row whose id it holds, if it holds one.
def finish (l : Ledger κ) (gone : κ → Bool) (held : κ → Option Nat) : Ledger κ :=
  { l with closing := fun k => if gone k then held k else l.closing k }

section Statements

variable [DecidableEq κ]

def begin_ (l : Ledger κ) (k : κ) : Ledger κ :=
  { l with opening := Function.update l.opening k .inserting }

def insert (l : Ledger κ) (k : κ) : Ledger κ :=
  if l.opening k = .inserting then
    { l with
      rows := l.rows ++ [{ opener := k, closer := none }]
      opening := Function.update l.opening k (.returning l.rows.length) }
  else l

def arrive (l : Ledger κ) (k : κ) : Ledger κ :=
  { l with opening := Function.update l.opening k .done }

def stamp (l : Ledger κ) (k : κ) : Ledger κ :=
  match l.closing k with
  | some id =>
      { l with
        rows := l.rows.modify id fun entry => entry.close k
        closing := Function.update l.closing k none }
  | none => l

end Statements

-- The rows follow the keys that are live and the ids they hold.
structure Tracks (l : Ledger κ) (live : κ → Prop) (held : κ → Option Nat) : Prop where
  fresh : ∀ k, l.opening k = .idle ∨ l.opening k = .inserting → ∀ entry ∈ l.rows, entry.opener ≠ k
  pending : ∀ k, (l.opening k).pending → live k
  returning : ∀ k id, l.opening k = .returning id → l.rows[id]? = some ⟨k, none⟩
  holds : ∀ k, live k → ∀ id, held k = some id → l.opening k = .done ∧ l.rows[id]? = some ⟨k, none⟩
  arrived : ∀ k, live k → l.opening k = .done → (held k).isSome
  closing : ∀ k id, l.closing k = some id → ¬live k ∧ l.rows[id]? = some ⟨k, none⟩
  opened : ∀ id k, l.rows[id]? = some ⟨k, none⟩ →
    l.opening k = .returning id ∨ (live k ∧ held k = some id) ∨ l.closing k = some id
  closed : ∀ (id : Nat) (k j : κ), l.rows[id]? = some ⟨k, some j⟩ → j = k ∧ ¬live k

section Rows

variable [DecidableEq κ] {l : Ledger κ} {id : Nat} {entry : Entry κ}

theorem insert_getElem? (h : l.rows[id]? = some entry) (k : κ) :
    (l.insert k).rows[id]? = some entry := by
  unfold insert
  split
  · dsimp only
    rw [List.getElem?_append_left (List.getElem?_eq_some_iff.mp h).1]
    exact h
  · exact h

-- A second stamp leaves the row as it is.
theorem stamp_getElem? (h : l.rows[id]? = some entry) (hclosed : entry.closer.isSome) (k : κ) :
    (l.stamp k).rows[id]? = some entry := by
  unfold stamp
  split
  · dsimp only
    rw [List.getElem?_modify, h]
    split
    · have hopen : entry.closer ≠ none := Option.isSome_iff_ne_none.mp hclosed
      simp [Entry.close, hopen]
    · rfl
  · exact h

end Rows

namespace Tracks

variable {l : Ledger κ} {live live' : κ → Prop} {held held' : κ → Option Nat} {k : κ}

theorem empty (live : κ → Prop) : (Ledger.empty : Ledger κ).Tracks live fun _ => none where
  fresh _ _ _ h := by cases h
  pending _ h := by cases h
  returning _ _ h := by cases h
  holds _ _ _ h := by cases h
  arrived _ _ h := by cases h
  closing _ _ h := by cases h
  opened _ _ h := by cases h
  closed _ _ _ h := by cases h

theorem not_mem_of_idle (h : l.Tracks live held) (hk : l.opening k = .idle) (id : Nat)
    (closer : Option κ) : l.rows[id]? ≠ some ⟨k, closer⟩ := fun hrow =>
  h.fresh k (Or.inl hk) _ (List.mem_of_getElem? hrow) rfl

-- Whoever goes has had its id back.
theorem finish (h : l.Tracks live held) {gone : κ → Bool}
    (hgone : ∀ j, gone j = true → live j ∧ (l.opening j).pending = false)
    (hlive : ∀ j, live' j ↔ live j ∧ gone j = false)
    (hheld : ∀ j, gone j = false → live j → held' j = held j) :
    (l.finish gone held).Tracks live' held' := by
  have hkept : ∀ j, live' j → held' j = held j := fun j hj =>
    hheld j ((hlive j).mp hj).2 ((hlive j).mp hj).1
  constructor
  case fresh => exact h.fresh
  case pending =>
    intro j hj
    refine (hlive j).mpr ⟨h.pending j hj, ?_⟩
    cases hg : gone j with
    | false => rfl
    | true => exact absurd ((hgone j hg).2.symm.trans hj) (by simp)
  case returning => exact h.returning
  case holds =>
    intro j hj id hid
    exact h.holds j ((hlive j).mp hj).1 id ((hkept j hj).symm.trans hid)
  case arrived =>
    intro j hj hdone
    rw [hkept j hj]
    exact h.arrived j ((hlive j).mp hj).1 hdone
  case closing =>
    intro j id hj
    simp only [Ledger.finish] at hj
    cases hg : gone j with
    | false =>
      rw [if_neg (by simp [hg])] at hj
      obtain ⟨hdead, hrow⟩ := h.closing j id hj
      exact ⟨fun hj' => hdead ((hlive j).mp hj').1, hrow⟩
    | true =>
      rw [if_pos hg] at hj
      refine ⟨fun hj' => ?_, (h.holds j (hgone j hg).1 id hj).2⟩
      exact absurd (((hlive j).mp hj').2.symm.trans hg) (by simp)
  case opened =>
    intro id j hrow
    simp only [Ledger.finish]
    rcases h.opened id j hrow with hj | ⟨hj, hid⟩ | hj
    · exact Or.inl hj
    · cases hg : gone j with
      | false =>
        have hj' := (hlive j).mpr ⟨hj, hg⟩
        exact Or.inr (Or.inl ⟨hj', (hkept j hj').trans hid⟩)
      | true => exact Or.inr (Or.inr (by rw [if_pos rfl]; exact hid))
    · refine Or.inr (Or.inr ?_)
      cases hg : gone j with
      | false => rw [if_neg (by simp)]; exact hj
      | true => exact absurd (hgone j hg).1 (h.closing j id hj).1
  case closed =>
    intro id j i hrow
    obtain ⟨hij, hdead⟩ := h.closed id j i hrow
    exact ⟨hij, fun hj' => hdead ((hlive j).mp hj').1⟩

-- Keys that have opened nothing may come to life.
theorem accept (h : l.Tracks live held) (hold : ∀ j, live j → live' j)
    (hnew : ∀ j, live' j → live j ∨ (l.opening j = .idle ∧ held j = none)) :
    l.Tracks live' held where
  fresh := h.fresh
  pending j hj := hold j (h.pending j hj)
  returning := h.returning
  holds j hj id hid := by
    rcases hnew j hj with hj | ⟨-, hnone⟩
    · exact h.holds j hj id hid
    · rw [hnone] at hid
      cases hid
  arrived j hj hdone := by
    rcases hnew j hj with hj | ⟨hidle, -⟩
    · exact h.arrived j hj hdone
    · rw [hidle] at hdone
      cases hdone
  closing j id hj := by
    obtain ⟨hdead, hrow⟩ := h.closing j id hj
    refine ⟨fun hj' => ?_, hrow⟩
    rcases hnew j hj' with hj' | ⟨hidle, -⟩
    · exact hdead hj'
    · exact h.not_mem_of_idle hidle id none hrow
  opened id j hrow :=
    (h.opened id j hrow).imp_right (Or.imp_left fun hj => ⟨hold j hj.1, hj.2⟩)
  closed id j i hrow := by
    obtain ⟨hij, hdead⟩ := h.closed id j i hrow
    refine ⟨hij, fun hj' => ?_⟩
    rcases hnew j hj' with hj' | ⟨hidle, -⟩
    · exact hdead hj'
    · exact h.not_mem_of_idle hidle id (some i) hrow

variable [DecidableEq κ]

theorem begin_ (h : l.Tracks live held) (hk : l.opening k = .idle)
    (hlive : ∀ j, live' j ↔ live j ∨ j = k) (hheld : ∀ j, j ≠ k → held' j = held j)
    (hnone : held' k = none) : (l.begin_ k).Tracks live' held' where
  fresh j hj entry hentry := by
    by_cases hjk : j = k
    · subst hjk
      exact h.fresh j (Or.inl hk) entry hentry
    · simp only [Ledger.begin_, Function.update_of_ne hjk] at hj
      exact h.fresh j hj entry hentry
  pending j hj := by
    by_cases hjk : j = k
    · exact (hlive j).mpr (Or.inr hjk)
    · simp only [Ledger.begin_, Function.update_of_ne hjk] at hj
      exact (hlive j).mpr (Or.inl (h.pending j hj))
  returning j id hj := by
    by_cases hjk : j = k
    · subst hjk
      simp only [Ledger.begin_, Function.update_self] at hj
      cases hj
    · simp only [Ledger.begin_, Function.update_of_ne hjk] at hj
      exact h.returning j id hj
  holds j hj id hid := by
    have hjk : j ≠ k := by
      rintro rfl
      rw [hnone] at hid
      cases hid
    simp only [Ledger.begin_, Function.update_of_ne hjk]
    exact h.holds j (((hlive j).mp hj).resolve_right hjk) id ((hheld j hjk).symm.trans hid)
  arrived j hj hdone := by
    have hjk : j ≠ k := by
      rintro rfl
      simp only [Ledger.begin_, Function.update_self] at hdone
      cases hdone
    simp only [Ledger.begin_, Function.update_of_ne hjk] at hdone
    rw [hheld j hjk]
    exact h.arrived j (((hlive j).mp hj).resolve_right hjk) hdone
  closing j id hj := by
    obtain ⟨hdead, hrow⟩ := h.closing j id hj
    refine ⟨fun hj' => ?_, hrow⟩
    rcases (hlive j).mp hj' with hj' | rfl
    · exact hdead hj'
    · exact h.not_mem_of_idle hk id none hrow
  opened id j hrow := by
    have hjk : j ≠ k := by
      rintro rfl
      exact h.not_mem_of_idle hk id none hrow
    simp only [Ledger.begin_, Function.update_of_ne hjk, hheld j hjk]
    rcases h.opened id j hrow with hj | ⟨hj, hid⟩ | hj
    · exact Or.inl hj
    · exact Or.inr (Or.inl ⟨(hlive j).mpr (Or.inl hj), hid⟩)
    · exact Or.inr (Or.inr hj)
  closed id j i hrow := by
    obtain ⟨hij, hdead⟩ := h.closed id j i hrow
    refine ⟨hij, fun hj' => ?_⟩
    rcases (hlive j).mp hj' with hj' | rfl
    · exact hdead hj'
    · exact h.not_mem_of_idle hk id (some i) hrow

theorem insert (h : l.Tracks live held) (k : κ) : (l.insert k).Tracks live held := by
  by_cases hk : l.opening k = .inserting
  swap
  · rw [Ledger.insert, if_neg hk]
    exact h
  have hold : ∀ id entry, l.rows[id]? = some entry →
      (l.rows ++ [⟨k, none⟩])[id]? = some entry := fun id entry hrow => by
    rw [List.getElem?_append_left (List.getElem?_eq_some_iff.mp hrow).1]
    exact hrow
  have hnew : (l.rows ++ [(⟨k, none⟩ : Entry κ)])[l.rows.length]? = some ⟨k, none⟩ := by simp
  have hrows : ∀ id entry, (l.rows ++ [⟨k, none⟩])[id]? = some entry →
      l.rows[id]? = some entry ∨ (id = l.rows.length ∧ entry = ⟨k, none⟩) := by
    intro id entry hrow
    rcases Nat.lt_or_ge id l.rows.length with hid | hid
    · exact Or.inl ((List.getElem?_append_left hid).symm.trans hrow)
    · rw [List.getElem?_append_right hid] at hrow
      obtain ⟨hlt, heq⟩ := List.getElem?_eq_some_iff.mp hrow
      simp only [List.length_singleton] at hlt
      refine Or.inr ⟨by omega, ?_⟩
      simpa using heq.symm
  rw [Ledger.insert, if_pos hk]
  constructor
  case fresh =>
    intro j hj entry hentry
    have hjk : j ≠ k := by
      rintro rfl
      simp at hj
    simp only [Function.update_of_ne hjk] at hj
    rcases List.mem_append.mp hentry with hentry | hentry
    · exact h.fresh j hj entry hentry
    · rw [List.mem_singleton.mp hentry]
      exact hjk.symm
  case pending =>
    intro j hj
    by_cases hjk : j = k
    · subst hjk
      exact h.pending j (by rw [hk]; rfl)
    · simp only [Function.update_of_ne hjk] at hj
      exact h.pending j hj
  case returning =>
    intro j id hj
    by_cases hjk : j = k
    · subst hjk
      simp only [Function.update_self, Opening.returning.injEq] at hj
      subst hj
      exact hnew
    · simp only [Function.update_of_ne hjk] at hj
      exact hold id _ (h.returning j id hj)
  case holds =>
    intro j hj id hid
    obtain ⟨hdone, hrow⟩ := h.holds j hj id hid
    have hjk : j ≠ k := by
      rintro rfl
      rw [hk] at hdone
      cases hdone
    simp only [Function.update_of_ne hjk]
    exact ⟨hdone, hold id _ hrow⟩
  case arrived =>
    intro j hj hdone
    have hjk : j ≠ k := by
      rintro rfl
      simp at hdone
    simp only [Function.update_of_ne hjk] at hdone
    exact h.arrived j hj hdone
  case closing =>
    intro j id hj
    obtain ⟨hdead, hrow⟩ := h.closing j id hj
    exact ⟨hdead, hold id _ hrow⟩
  case opened =>
    intro id j hrow
    rcases hrows id _ hrow with hbefore | ⟨rfl, hentry⟩
    · have hjk : j ≠ k := by
        rintro rfl
        exact h.fresh j (Or.inr hk) ⟨j, none⟩ (List.mem_of_getElem? hbefore) rfl
      simp only [Function.update_of_ne hjk]
      exact h.opened id j hbefore
    · simp only [Entry.mk.injEq, and_true] at hentry
      subst hentry
      exact Or.inl (Function.update_self _ _ _)
  case closed =>
    intro id j i hrow
    rcases hrows id _ hrow with hrow | ⟨-, hentry⟩
    · exact h.closed id j i hrow
    · cases hentry

-- The callback hands the id to the key's holder.
theorem arrive (h : l.Tracks live held) {id : Nat} (hk : l.opening k = .returning id)
    (hheld : ∀ j, j ≠ k → live j → held' j = held j) (hid : held' k = some id) :
    (l.arrive k).Tracks live held' := by
  have hrow := h.returning k id hk
  constructor
  case fresh =>
    intro j hj entry hentry
    by_cases hjk : j = k
    · subst hjk
      simp [Ledger.arrive] at hj
    · simp only [Ledger.arrive, Function.update_of_ne hjk] at hj
      exact h.fresh j hj entry hentry
  case pending =>
    intro j hj
    by_cases hjk : j = k
    · subst hjk
      simp [Ledger.arrive, Opening.pending] at hj
    · simp only [Ledger.arrive, Function.update_of_ne hjk] at hj
      exact h.pending j hj
  case returning =>
    intro j i hj
    by_cases hjk : j = k
    · subst hjk
      simp [Ledger.arrive] at hj
    · simp only [Ledger.arrive, Function.update_of_ne hjk] at hj
      exact h.returning j i hj
  case holds =>
    intro j hj i hi
    by_cases hjk : j = k
    · subst hjk
      obtain rfl : id = i := Option.some.inj (hid.symm.trans hi)
      exact ⟨Function.update_self _ _ _, hrow⟩
    · simp only [Ledger.arrive, Function.update_of_ne hjk]
      exact h.holds j hj i ((hheld j hjk hj).symm.trans hi)
  case arrived =>
    intro j hj hdone
    by_cases hjk : j = k
    · subst hjk
      rw [hid]
      rfl
    · simp only [Ledger.arrive, Function.update_of_ne hjk] at hdone
      rw [hheld j hjk hj]
      exact h.arrived j hj hdone
  case closing => exact h.closing
  case opened =>
    intro i j hrow'
    by_cases hjk : j = k
    · subst hjk
      have hlive : live j := h.pending j (by rw [hk]; rfl)
      rcases h.opened i j hrow' with hj | ⟨hj, hi⟩ | hj
      · rw [hk, Opening.returning.injEq] at hj
        exact Or.inr (Or.inl ⟨hlive, hj ▸ hid⟩)
      · have hdone := (h.holds j hj i hi).1
        rw [hk] at hdone
        cases hdone
      · exact absurd hlive (h.closing j i hj).1
    · simp only [Ledger.arrive, Function.update_of_ne hjk]
      rcases h.opened i j hrow' with hj | ⟨hj, hi⟩ | hj
      · exact Or.inl hj
      · exact Or.inr (Or.inl ⟨hj, (hheld j hjk hj).trans hi⟩)
      · exact Or.inr (Or.inr hj)
  case closed => exact h.closed

theorem stamp (h : l.Tracks live held) (k : κ) : (l.stamp k).Tracks live held := by
  rcases hk : l.closing k with _ | id
  · simp only [Ledger.stamp, hk]
    exact h
  obtain ⟨hdead, hrow⟩ := h.closing k id hk
  -- only the row that k opened changes
  have hrows : ∀ i, (l.rows.modify id fun entry => entry.close k)[i]? =
      if i = id then some ⟨k, some k⟩ else l.rows[i]? := by
    intro i
    rw [List.getElem?_modify]
    by_cases hi : id = i
    · subst hi
      simp [hrow, Entry.close]
    · simp [hi, Ne.symm hi]
  have hother : ∀ (i : Nat) (j : κ), j ≠ k → l.rows[i]? = some ⟨j, none⟩ →
      (l.rows.modify id fun entry => entry.close k)[i]? = some ⟨j, none⟩ := by
    intro i j hjk hi
    have hne : i ≠ id := by
      rintro rfl
      rw [hrow, Option.some.injEq, Entry.mk.injEq] at hi
      exact hjk hi.1.symm
    rw [hrows, if_neg hne, hi]
  simp only [Ledger.stamp, hk]
  constructor
  case fresh =>
    intro j hj entry hentry
    obtain ⟨i, hi⟩ := List.getElem?_of_mem hentry
    rw [hrows] at hi
    split at hi
    · rw [← Option.some.inj hi]
      exact h.fresh j hj ⟨k, none⟩ (List.mem_of_getElem? hrow)
    · exact h.fresh j hj entry (List.mem_of_getElem? hi)
  case pending => exact h.pending
  case returning =>
    intro j i hj
    have hlive : live j := h.pending j (by rw [hj]; rfl)
    exact hother i j (fun hjk => hdead (hjk ▸ hlive)) (h.returning j i hj)
  case holds =>
    intro j hj i hi
    obtain ⟨hdone, hold⟩ := h.holds j hj i hi
    exact ⟨hdone, hother i j (fun hjk => hdead (hjk ▸ hj)) hold⟩
  case arrived => exact h.arrived
  case closing =>
    intro j i hj
    have hjk : j ≠ k := by
      rintro rfl
      simp at hj
    simp only [Function.update_of_ne hjk] at hj
    exact ⟨(h.closing j i hj).1, hother i j hjk (h.closing j i hj).2⟩
  case opened =>
    intro i j hi
    rw [hrows] at hi
    split at hi
    · cases hi
    rename_i hne
    rcases h.opened i j hi with hj | hj | hj
    · exact Or.inl hj
    · exact Or.inr (Or.inl hj)
    · refine Or.inr (Or.inr ?_)
      have hjk : j ≠ k := by
        rintro rfl
        exact hne (Option.some.inj (hj.symm.trans hk))
      simp only [Function.update_of_ne hjk]
      exact hj
  case closed =>
    intro i j c hi
    rw [hrows] at hi
    split at hi
    · rw [Option.some.injEq, Entry.mk.injEq, Option.some.injEq] at hi
      obtain ⟨rfl, rfl⟩ := hi
      exact ⟨rfl, hdead⟩
    · exact h.closed i j c hi

end Tracks

end Ledger

end BanchoPrism.Library
