import BanchoPrism.Library.Prog

namespace BanchoPrism.Library.Prog

variable {σ ε α β : Type} {P : β → Prop} {Q : α → Prop}

-- Whatever x returns has the property P.
def Yields (P : β → Prop) (x : Prog σ ε β) : Prop := ∀ s b t, x s = (.ok b, t) → P b

theorem Yields.pure {b : β} (h : P b) : Yields P (Pure.pure b : Prog σ ε β) := by
  intro s c t hrun
  cases hrun
  exact h

theorem Yields.raise (e : ε) : Yields P (raise e : Prog σ ε β) := by
  intro s b t hrun
  cases hrun

theorem Yields.bind {x : Prog σ ε α} {f : α → Prog σ ε β} (hx : Yields Q x)
    (hf : ∀ a, Q a → Yields P (f a)) : Yields P (x >>= f) := by
  intro s b u hrun
  obtain ⟨a, t, ha, hb⟩ := bind_eq_ok hrun
  exact hf a (hx s a t ha) t b u hb

-- Where nothing is known of what x returns.
theorem Yields.after {x : Prog σ ε α} {f : α → Prog σ ε β} (hf : ∀ a, Yields P (f a)) :
    Yields P (x >>= f) := by
  intro s b u hrun
  obtain ⟨a, t, -, hb⟩ := bind_eq_ok hrun
  exact hf a t b u hb

theorem Yields.ite {c : Prop} [Decidable c] {x y : Prog σ ε β} (hx : Yields P x)
    (hy : Yields P y) : Yields P (if c then x else y) := by
  split
  · exact hx
  · exact hy

theorem Yields.attempt {body : Prog σ ε β} {handler : ε → Prog σ ε β} (hb : Yields P body)
    (hh : ∀ e, Yields P (handler e)) : Yields P (attempt body handler) := by
  intro s b t hrun
  unfold Prog.attempt at hrun
  rcases h : body s with ⟨e | a, u⟩
  · rw [h] at hrun
    exact hh e u b t hrun
  · rw [h] at hrun
    obtain ⟨rfl, -⟩ : a = b ∧ u = t := by simpa using hrun
    exact hb s a u h

section Avoids

variable {e : ε} {s : σ}

-- Started in s, x does not end with the exception e.
def Avoids (e : ε) (s : σ) (x : Prog σ ε α) : Prop := (x s).1 ≠ .error e

theorem Avoids.ret (a : α) : Avoids e s (ret a : Prog σ ε α) := by
  intro h
  cases h

theorem Avoids.read_bind {f : σ → Prog σ ε β} (h : Avoids e s (f s)) : Avoids e s (read >>= f) := h

theorem Avoids.update_bind {f : σ → σ} {g : Unit → Prog σ ε β} (h : Avoids e (f s) (g ())) :
    Avoids e s (update f >>= g) := h

theorem Avoids.lift {x : Except ε α} (h : x ≠ .error e) : Avoids e s (lift x) := by
  cases x with
  | ok a => exact Avoids.ret a
  | error e' => exact h

theorem Avoids.bind {x : Prog σ ε α} {f : α → Prog σ ε β} (hx : Avoids e s x)
    (hf : ∀ a t, x s = (.ok a, t) → Avoids e t (f a)) : Avoids e s (x >>= f) := by
  unfold Avoids at hx ⊢
  rcases hrun : x s with ⟨e' | a, t⟩
  · rw [hrun] at hx
    rw [bind_run_error hrun]
    intro h
    exact hx (congrArg Except.error (Except.error.inj h))
  · rw [bind_run_ok hrun]
    exact hf a t hrun

theorem Avoids.ite {c : Prop} [Decidable c] {x y : Prog σ ε α} (hx : c → Avoids e s x)
    (hy : ¬c → Avoids e s y) : Avoids e s (if c then x else y) := by
  split
  · exact hx ‹_›
  · exact hy ‹_›

theorem Avoids.onlyIf {c : Prop} [Decidable c] {body : Prog σ ε Unit}
    (h : c → Avoids e s body) : Avoids e s (onlyIf c body) := Avoids.ite h fun _ => Avoids.ret ()

theorem Avoids.handle {ε' : Type} {e' : ε'} {body : Prog σ ε α} {handler : ε → Prog σ ε' α}
    (h : ∀ e t, body s = (.error e, t) → Avoids e' t (handler e)) :
    Avoids e' s (handle body handler) := by
  unfold Avoids Prog.handle
  rcases hrun : body s with ⟨e | a, t⟩
  · exact h e t hrun
  · intro hraised
    cases hraised

end Avoids

end BanchoPrism.Library.Prog
