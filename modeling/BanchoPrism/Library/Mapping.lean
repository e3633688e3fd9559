import Mathlib.Data.List.Forall2
import Mathlib.Data.List.Nodup

namespace BanchoPrism.Library

variable {ε α β γ : Type} {l : List α} {bs : List β}

section Raising

variable {f : α → Except ε β} {e : ε}

-- What a list is made into when nothing is raised.
theorem forall₂_of_mapM (h : l.mapM f = .ok bs) :
    List.Forall₂ (fun a b => f a = .ok b) l bs := by
  induction l generalizing bs with
  | nil =>
    cases h
    exact .nil
  | cons a rest ih =>
    rw [List.mapM_cons] at h
    cases ha : f a with
    | error e =>
      rw [ha] at h
      cases h
    | ok b =>
      rw [ha] at h
      cases hrest : rest.mapM f with
      | error e =>
        change (rest.mapM f >>= fun bs => pure (b :: bs)) = _ at h
        rw [hrest] at h
        cases h
      | ok bs' =>
        change (rest.mapM f >>= fun bs => pure (b :: bs)) = _ at h
        rw [hrest] at h
        cases h
        exact .cons ha (ih hrest)

theorem mapM_of_forall {g : α → β} (h : ∀ a ∈ l, f a = .ok (g a)) :
    l.mapM f = .ok (l.map g) := by
  induction l with
  | nil => rfl
  | cons a rest ih =>
    rw [List.mapM_cons, h a List.mem_cons_self, ih fun b hb => h b (List.mem_cons_of_mem a hb)]
    rfl

theorem exists_mapM_of_forall (h : ∀ a ∈ l, ∃ b, f a = .ok b) : ∃ bs, l.mapM f = .ok bs := by
  induction l with
  | nil => exact ⟨[], rfl⟩
  | cons a rest ih =>
    obtain ⟨b, hb⟩ := h a List.mem_cons_self
    obtain ⟨bs, hbs⟩ := ih fun a' ha' => h a' (List.mem_cons_of_mem a ha')
    refine ⟨b :: bs, ?_⟩
    rw [List.mapM_cons, hb]
    show (rest.mapM f >>= fun bs => pure (b :: bs)) = _
    rw [hbs]
    rfl

theorem exists_of_mapM_error (h : l.mapM f = .error e) : ∃ a ∈ l, f a = .error e := by
  induction l with
  | nil => cases h
  | cons a rest ih =>
    rw [List.mapM_cons] at h
    cases ha : f a with
    | error other =>
      rw [ha] at h
      cases h
      exact ⟨a, List.mem_cons_self, ha⟩
    | ok b =>
      rw [ha] at h
      change (rest.mapM f >>= fun bs => pure (b :: bs)) = _ at h
      cases hrest : rest.mapM f with
      | error other =>
        rw [hrest] at h
        cases h
        obtain ⟨x, hx, hfx⟩ := ih hrest
        exact ⟨x, List.mem_cons_of_mem a hx, hfx⟩
      | ok bs =>
        rw [hrest] at h
        cases h

end Raising

section Optional

variable {f : α → Option β}

theorem forall₂_of_mapM_some (h : l.mapM f = some bs) :
    List.Forall₂ (fun a b => f a = some b) l bs := by
  induction l generalizing bs with
  | nil =>
    cases h
    exact .nil
  | cons a rest ih =>
    simp only [List.mapM_cons, Option.bind_eq_bind, Option.bind_eq_some_iff] at h
    obtain ⟨b, hb, bs', hrest, hbs⟩ := h
    cases hbs
    exact .cons hb (ih hrest)

theorem exists_mapM_some (h : ∀ a ∈ l, ∃ b, f a = some b) : ∃ bs, l.mapM f = some bs := by
  induction l with
  | nil => exact ⟨[], rfl⟩
  | cons a rest ih =>
    obtain ⟨b, hb⟩ := h a List.mem_cons_self
    obtain ⟨bs, hbs⟩ := ih fun a' ha' => h a' (List.mem_cons_of_mem a ha')
    refine ⟨b :: bs, ?_⟩
    rw [List.mapM_cons, hb, hbs]
    rfl

theorem mapM_of_map_eq (h : l.map f = bs.map some) : l.mapM f = some bs := by
  induction l generalizing bs with
  | nil =>
    cases bs with
    | nil => rfl
    | cons b rest => cases h
  | cons a rest ih =>
    cases bs with
    | nil => cases h
    | cons b rest =>
      obtain ⟨ha, hrest⟩ := List.cons.inj h
      rw [List.mapM_cons, ha, ih hrest]
      rfl

-- What is found under a key, in a table that is made of all the keys there are.
theorem lookup_of_mapM [BEq α] [LawfulBEq α] {row : List (α × β)} {a : α}
    (h : l.mapM (fun a => (f a).map (Prod.mk a)) = some row) (ha : a ∈ l) :
    ∃ b, f a = some b ∧ row.lookup a = some b := by
  have hpairs := forall₂_of_mapM_some h
  clear h
  induction hpairs with
  | nil => cases ha
  | @cons first pair rest others hfirst hothers ih =>
    obtain ⟨b, hb, rfl⟩ := Option.map_eq_some_iff.mp hfirst
    by_cases heq : a = first
    · subst heq
      exact ⟨b, hb, List.lookup_cons_self⟩
    · obtain ⟨found, hfound, hlookup⟩ := ih ((List.mem_cons.mp ha).resolve_left heq)
      refine ⟨found, hfound, ?_⟩
      rw [List.lookup_cons, beq_false_of_ne heq]
      exact hlookup

end Optional

section Pairs

variable {r : α → β → Prop}

theorem map_eq_of_forall₂ {f : α → γ} {g : β → γ} (h : List.Forall₂ r l bs)
    (hr : ∀ a b, r a b → f a = g b) : l.map f = bs.map g := by
  induction h with
  | nil => rfl
  | cons hab _ ih => rw [List.map_cons, List.map_cons, hr _ _ hab, ih]

theorem exists_of_mem_forall₂ (h : List.Forall₂ r l bs) {b : β} (hb : b ∈ bs) :
    ∃ a ∈ l, r a b := by
  induction h with
  | nil => cases hb
  | @cons a c rest bs hac _ ih =>
    rcases List.mem_cons.mp hb with rfl | hrest
    · exact ⟨a, List.mem_cons_self, hac⟩
    · obtain ⟨a', ha', hr⟩ := ih hrest
      exact ⟨a', List.mem_cons_of_mem a ha', hr⟩

end Pairs

section Counting

variable {f : α → List β} {p : β → Bool}

theorem countP_flatMap_zero (h : ∀ a ∈ l, ∀ b ∈ f a, p b = false) : (l.flatMap f).countP p = 0 := by
  rw [List.countP_eq_zero]
  intro b hb
  obtain ⟨a, ha, hb⟩ := List.mem_flatMap.mp hb
  simp [h a ha b hb]

-- What is counted comes from one of the list.
theorem countP_flatMap_one {a : α} (hnodup : l.Nodup) (ha : a ∈ l)
    (h : ∀ other ∈ l, other ≠ a → ∀ b ∈ f other, p b = false) :
    (l.flatMap f).countP p = (f a).countP p := by
  obtain ⟨front, back, rfl⟩ := List.append_of_mem ha
  obtain ⟨-, hback, hne⟩ := List.nodup_append.mp hnodup
  have hfront : (front.flatMap f).countP p = 0 := by
    apply countP_flatMap_zero
    intro other hother
    exact h other (List.mem_append_left _ hother) (hne other hother a List.mem_cons_self)
  have hbehind : (back.flatMap f).countP p = 0 := by
    apply countP_flatMap_zero
    intro other hother
    refine h other (List.mem_append_right _ (List.mem_cons_of_mem _ hother)) ?_
    rintro rfl
    exact (List.nodup_cons.mp hback).1 hother
  rw [List.flatMap_append, List.flatMap_cons, List.countP_append, List.countP_append, hfront,
    hbehind, Nat.zero_add, Nat.add_zero]

end Counting

end BanchoPrism.Library
