import BanchoPrism.Library.Prog
import Mathlib.Data.List.Infix

namespace BanchoPrism.Library

-- Programs that read a list from its front; the state is what they have not
-- read yet.
abbrev Cursor (β ε α : Type) : Type := Prog (List β) ε α

namespace Cursor

variable {β ε α γ : Type}

def Advances (view left : List β) : Prop := left <:+ view

instance : Std.Refl (Advances (β := β)) := ⟨fun _ => List.suffix_rfl⟩

instance : IsTrans (List β) (Advances (β := β)) := ⟨fun _ _ _ h k => k.trans h⟩

-- val = view[:n]; view = view[n:], which is short where the view is
def take (n : Nat) : Cursor β ε (List β) := fun view => (.ok (view.take n), view.drop n)

-- val = view[0]; view = view[1:]
def head (e : ε) : Cursor β ε β
  | [] => (.error e, [])
  | b :: view => (.ok b, view)

-- Exactly n elements, or nothing is read at all.
def exactly (n : Nat) (e : ε) : Cursor β ε (List β) := fun view =>
  if view.length < n then (.error e, view) else (.ok (view.take n), view.drop n)

def times (n : Nat) (r : Cursor β ε α) : Cursor β ε (List α) :=
  match n with
  | 0 => pure []
  | n + 1 => do
      let a ← r
      let rest ← times n r
      return a :: rest

theorem exactly_short {n : Nat} (e : ε) {view : List β} (h : view.length < n) :
    (exactly n e : Cursor β ε (List β)) view = (.error e, view) := if_pos h

theorem exactly_enough {n : Nat} (e : ε) {view : List β} (h : n ≤ view.length) :
    (exactly n e : Cursor β ε (List β)) view = (.ok (view.take n), view.drop n) :=
  if_neg (by omega)

theorem Advances.length_le {view left : List β} (h : Advances view left) :
    left.length ≤ view.length := List.IsSuffix.length_le h

@[simp] theorem advances_take (n : Nat) : Prog.Within Advances (take n : Cursor β ε (List β)) :=
  fun view => List.drop_suffix n view

@[simp] theorem advances_head (e : ε) : Prog.Within Advances (head e : Cursor β ε β) := by
  intro view
  cases view with
  | nil => exact List.suffix_rfl
  | cons b view => exact List.suffix_cons b view

@[simp] theorem advances_exactly (n : Nat) (e : ε) :
    Prog.Within Advances (exactly n e : Cursor β ε (List β)) := by
  intro view
  unfold Prog.Moves exactly
  split
  · exact List.suffix_rfl
  · exact List.drop_suffix n view

@[simp] theorem advances_times {r : Cursor β ε α} (h : Prog.Within Advances r) (n : Nat) :
    Prog.Within Advances (times n r) := by
  induction n with
  | zero => exact Prog.Within.pure []
  | succ n ih =>
      apply Prog.Within.bind h
      intro a
      apply Prog.Within.bind ih
      intro rest
      exact Prog.Within.pure (a :: rest)

@[simp] theorem advances_pure (a : α) : Prog.Within Advances (pure a : Cursor β ε α) :=
  Prog.Within.pure a

@[simp] theorem advances_lift (x : Except ε α) :
    Prog.Within Advances (Prog.lift x : Cursor β ε α) := Prog.Within.lift x

@[simp] theorem advances_drop (n : Nat) :
    Prog.Within Advances (Prog.update fun view => view.drop n : Cursor β ε Unit) :=
  Prog.Within.update fun view => List.drop_suffix n view

@[simp] theorem advances_bind {x : Cursor β ε α} {f : α → Cursor β ε γ}
    (hx : Prog.Within Advances x) (hf : ∀ a, Prog.Within Advances (f a)) :
    Prog.Within Advances (x >>= f) := Prog.Within.bind hx hf

@[simp] theorem advances_read_bind {f : List β → Cursor β ε γ}
    (hf : ∀ view, Prog.Within Advances (f view)) : Prog.Within Advances (Prog.read >>= f) :=
  Prog.Within.read_bind fun view => hf view view

section Reads

variable {r : Cursor β ε α} {bytes more : List β} {a : α}

-- r reads these elements as a, whatever follows them, and nothing of what follows.
def Reads (r : Cursor β ε α) (bytes : List β) (a : α) : Prop :=
  ∀ rest, r (bytes ++ rest) = (.ok a, rest)

-- What was written goes through, and r reads it as a.
def Undoes (r : Cursor β ε α) (written : Except ε (List β)) (a : α) : Prop :=
  ∃ bytes, written = .ok bytes ∧ Reads r bytes a

theorem Reads.pure (a : α) : Reads (Pure.pure a : Cursor β ε α) [] a := fun _ => rfl

theorem Reads.bind {f : α → Cursor β ε γ} {c : γ} (h : Reads r bytes a)
    (hf : Reads (f a) more c) : Reads (r >>= f) (bytes ++ more) c := by
  intro rest
  rw [List.append_assoc, Prog.bind_run_ok (h _)]
  exact hf rest

-- A last step that only makes a value of what was read.
theorem Reads.map {f : α → Cursor β ε γ} {c : γ} (h : Reads r bytes a)
    (hf : Reads (f a) [] c) : Reads (r >>= f) bytes c := by
  have hboth := h.bind hf
  rwa [List.append_nil] at hboth

theorem Reads.take (bytes : List β) : Reads (take bytes.length : Cursor β ε (List β)) bytes bytes := by
  intro rest
  unfold Cursor.take
  rw [List.take_left, List.drop_left]

theorem Reads.exactly (e : ε) (bytes : List β) :
    Reads (exactly bytes.length e : Cursor β ε (List β)) bytes bytes := by
  intro rest
  rw [exactly_enough e (by simp), List.take_left, List.drop_left]

theorem Reads.head (e : ε) (b : β) : Reads (head e : Cursor β ε β) [b] b := fun _ => rfl

theorem Reads.times {write : γ → List β} {value : γ → α} {items : List γ}
    (h : ∀ item ∈ items, Reads r (write item) (value item)) :
    Reads (times items.length r) (items.flatMap write) (items.map value) := by
  induction items with
  | nil => exact Reads.pure _
  | cons item rest ih =>
    have hfirst := h item List.mem_cons_self
    have hrest := ih fun other hother => h other (List.mem_cons_of_mem item hother)
    rw [List.flatMap_cons, List.map_cons]
    exact hfirst.bind (hrest.map (Reads.pure _))

theorem Reads.unique {a' : α} (h : Reads r bytes a) (h' : Reads r bytes a') : a = a' := by
  have hsame := (h []).symm.trans (h' [])
  cases hsame
  rfl

-- A reader that only wraps what another one reads.
theorem undoes_wrap_iff {wrap : α → γ} (hwrap : Function.Injective wrap)
    {written : Except ε (List β)} :
    Undoes (do let read ← r; return wrap read) written (wrap a) ↔ Undoes r written a := by
  constructor
  · rintro ⟨bytes, hwritten, hreads⟩
    refine ⟨bytes, hwritten, ?_⟩
    intro rest
    obtain ⟨read, view, hread, hrest⟩ := Prog.bind_eq_ok (hreads rest)
    obtain ⟨hvalue, hview⟩ := Prod.mk.inj hrest
    rw [hread, hwrap (Except.ok.inj hvalue), hview]
  · rintro ⟨bytes, hwritten, hreads⟩
    exact ⟨bytes, hwritten, hreads.map (Reads.pure _)⟩

theorem Undoes.reads {a : α} (h : Undoes r (.ok bytes) a) : Reads r bytes a := by
  obtain ⟨written, hwritten, hreads⟩ := h
  cases hwritten
  exact hreads

end Reads

end Cursor

end BanchoPrism.Library
