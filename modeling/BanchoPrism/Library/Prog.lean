import Mathlib.Order.Defs.Unbundled

namespace BanchoPrism.Library

theorem of_bind_ok {ε α β : Type} {x : Except ε α} {f : α → Except ε β} {b : β}
    (h : (x >>= f) = .ok b) : ∃ a, x = .ok a ∧ f a = .ok b := by
  cases x with
  | error e => cases h
  | ok a => exact ⟨a, rfl, h⟩

theorem of_map_ok {ε α β : Type} {x : Except ε α} {f : α → β} {b : β} (h : x.map f = .ok b) :
    ∃ a, x = .ok a ∧ f a = b := by
  cases x with
  | error e => cases h
  | ok a => exact ⟨a, rfl, Except.ok.inj h⟩

-- A computation over a state that may raise. The updates made before an
-- exception stay, as they do when a Python function raises half way.
def Prog (σ ε α : Type) : Type := σ → Except ε α × σ

namespace Prog

variable {σ ε α β : Type}

def ret (a : α) : Prog σ ε α := fun s => (.ok a, s)

def andThen (x : Prog σ ε α) (f : α → Prog σ ε β) : Prog σ ε β := fun s =>
  match x s with
  | (.ok a, t) => f a t
  | (.error e, t) => (.error e, t)

instance : Monad (Prog σ ε) where
  pure := ret
  bind := andThen

def read : Prog σ ε σ := fun s => (.ok s, s)

def reads (f : σ → α) : Prog σ ε α := fun s => (.ok (f s), s)

def update (f : σ → σ) : Prog σ ε Unit := fun s => (.ok (), f s)

def raise (e : ε) : Prog σ ε α := fun s => (.error e, s)

def lift : Except ε α → Prog σ ε α
  | .ok a => ret a
  | .error e => raise e

-- try: body / except: handler, for a handler that sees the exception.
def attempt (body : Prog σ ε α) (handler : ε → Prog σ ε α) : Prog σ ε α := fun s =>
  match body s with
  | (.ok a, t) => (.ok a, t)
  | (.error e, t) => handler e t

-- The same for a handler whose own exceptions are of another kind.
def handle {ε' : Type} (body : Prog σ ε α) (handler : ε → Prog σ ε' α) : Prog σ ε' α := fun s =>
  match body s with
  | (.ok a, t) => (.ok a, t)
  | (.error e, t) => handler e t

def each (f : α → Prog σ ε Unit) : List α → Prog σ ε Unit
  | [] => ret ()
  | a :: rest => andThen (f a) fun _ => each f rest

-- if c: body
def onlyIf (c : Prop) [Decidable c] (body : Prog σ ε Unit) : Prog σ ε Unit :=
  if c then body else ret ()

@[simp] theorem pure_run (a : α) (s : σ) : (pure a : Prog σ ε α) s = (.ok a, s) := rfl

@[simp] theorem read_run (s : σ) : (read : Prog σ ε σ) s = (.ok s, s) := rfl

@[simp] theorem reads_run (f : σ → α) (s : σ) : (reads f : Prog σ ε α) s = (.ok (f s), s) := rfl

@[simp] theorem update_run (f : σ → σ) (s : σ) :
    (update f : Prog σ ε Unit) s = (.ok (), f s) := rfl

@[simp] theorem raise_run (e : ε) (s : σ) : (raise e : Prog σ ε α) s = (.error e, s) := rfl

@[simp] theorem lift_ok_run (a : α) (s : σ) :
    (lift (.ok a) : Prog σ ε α) s = (.ok a, s) := rfl

@[simp] theorem lift_error_run (e : ε) (s : σ) :
    (lift (.error e) : Prog σ ε α) s = (.error e, s) := rfl

theorem bind_run (x : Prog σ ε α) (f : α → Prog σ ε β) (s : σ) :
    (x >>= f) s = match x s with
      | (.ok a, t) => f a t
      | (.error e, t) => (.error e, t) := rfl

@[simp] theorem read_bind_run (f : σ → Prog σ ε β) (s : σ) : (read >>= f) s = f s s := rfl

@[simp] theorem update_bind_run (f : σ → σ) (g : Unit → Prog σ ε β) (s : σ) :
    (update f >>= g) s = g () (f s) := rfl

theorem bind_run_ok {x : Prog σ ε α} {f : α → Prog σ ε β} {s t : σ} {a : α}
    (h : x s = (.ok a, t)) : (x >>= f) s = f a t := by
  rw [bind_run, h]

theorem bind_run_error {x : Prog σ ε α} {f : α → Prog σ ε β} {s t : σ} {e : ε}
    (h : x s = (.error e, t)) : (x >>= f) s = (.error e, t) := by
  rw [bind_run, h]

-- A program that returned did so through both of its halves.
theorem bind_eq_ok {x : Prog σ ε α} {f : α → Prog σ ε β} {s u : σ} {b : β}
    (h : (x >>= f) s = (.ok b, u)) : ∃ a t, x s = (.ok a, t) ∧ f a t = (.ok b, u) := by
  rw [bind_run] at h
  rcases hx : x s with ⟨e | a, t⟩
  · rw [hx] at h
    cases h
  · rw [hx] at h
    exact ⟨a, t, rfl, h⟩

theorem handle_run_error {ε' : Type} {body : Prog σ ε α} {handler : ε → Prog σ ε' α} {s t : σ}
    {e : ε} (h : body s = (.error e, t)) : handle body handler s = handler e t := by
  unfold handle
  rw [h]

-- Started in s, x moves the state along R, whether it returns or raises.
def Moves (R : σ → σ → Prop) (s : σ) (x : Prog σ ε α) : Prop := R s (x s).2

section Moves

variable {R : σ → σ → Prop} {s : σ}

theorem Moves.pure [Std.Refl R] (a : α) : Moves R s (Pure.pure a : Prog σ ε α) := refl_of R s

theorem Moves.read [Std.Refl R] : Moves R s (read : Prog σ ε σ) := refl_of R s

theorem Moves.update {f : σ → σ} (h : R s (f s)) :
    Moves R s (Prog.update f : Prog σ ε Unit) := h

theorem Moves.raise [Std.Refl R] (e : ε) : Moves R s (raise e : Prog σ ε α) := refl_of R s

theorem Moves.lift [Std.Refl R] (x : Except ε α) : Moves R s (lift x : Prog σ ε α) := by
  cases x <;> exact refl_of R s

theorem Moves.read_bind {f : σ → Prog σ ε β} (h : Moves R s (f s)) :
    Moves R s (Prog.read >>= f) := h

theorem Moves.lift_bind [Std.Refl R] {x : Except ε α} {f : α → Prog σ ε β}
    (h : ∀ a, x = .ok a → Moves R s (f a)) : Moves R s (Prog.lift x >>= f) := by
  cases x with
  | ok a => exact h a rfl
  | error e => exact refl_of R s

theorem Moves.update_bind [IsTrans σ R] {f : σ → σ} {g : Unit → Prog σ ε β}
    (hf : R s (f s)) (hg : Moves R (f s) (g ())) : Moves R s (Prog.update f >>= g) :=
  trans_of R hf hg

-- A program along S that goes on along R, where S then R is R.
theorem Moves.bind_right {S : σ → σ → Prop} (hSR : ∀ {s t u}, S s t → R t u → R s u)
    (hS : ∀ {s t}, S s t → R s t) {x : Prog σ ε α} {f : α → Prog σ ε β} (hx : Moves S s x)
    (hf : ∀ a t, x s = (.ok a, t) → Moves R t (f a)) : Moves R s (x >>= f) := by
  unfold Moves at hx ⊢
  rw [bind_run]
  rcases h : x s with ⟨e | a, t⟩
  · exact hS (by simpa [h] using hx)
  · exact hSR (by simpa [h] using hx) (hf a t h)

-- A program along R that goes on along S, where R then S is R.
theorem Moves.bind_left {S : σ → σ → Prop} (hRS : ∀ {s t u}, R s t → S t u → R s u)
    {x : Prog σ ε α} {f : α → Prog σ ε β} (hx : Moves R s x)
    (hf : ∀ a t, x s = (.ok a, t) → Moves S t (f a)) : Moves R s (x >>= f) := by
  unfold Moves at hx ⊢
  rw [bind_run]
  rcases h : x s with ⟨e | a, t⟩
  · simpa [h] using hx
  · exact hRS (by simpa [h] using hx) (hf a t h)

theorem Moves.bind [IsTrans σ R] {x : Prog σ ε α} {f : α → Prog σ ε β}
    (hx : Moves R s x) (hf : ∀ a t, x s = (.ok a, t) → Moves R t (f a)) :
    Moves R s (x >>= f) :=
  Moves.bind_left (S := R) (trans_of R) hx hf

-- Two updates that only together stay within R.
theorem Moves.update_update_bind [IsTrans σ R] {f g : σ → σ} {k : Unit → Prog σ ε β}
    (h : R s (g (f s))) (hk : Moves R (g (f s)) (k ())) :
    Moves R s (Prog.update f >>= fun _ => Prog.update g >>= k) :=
  trans_of R h hk

theorem Moves.ite {c : Prop} [Decidable c] {x y : Prog σ ε α}
    (hx : c → Moves R s x) (hy : ¬c → Moves R s y) : Moves R s (if c then x else y) := by
  split
  · exact hx ‹_›
  · exact hy ‹_›

theorem Moves.onlyIf [Std.Refl R] {c : Prop} [Decidable c] {body : Prog σ ε Unit}
    (h : c → Moves R s body) : Moves R s (onlyIf c body) :=
  Moves.ite h fun _ => Moves.pure ()

theorem Moves.attempt [IsTrans σ R] {body : Prog σ ε α} {handler : ε → Prog σ ε α}
    (hb : Moves R s body) (hh : ∀ e t, body s = (.error e, t) → Moves R t (handler e)) :
    Moves R s (attempt body handler) := by
  unfold Moves at hb ⊢
  unfold Prog.attempt
  rcases h : body s with ⟨e | a, t⟩
  · exact trans_of R (by simpa [h] using hb) (hh e t h)
  · simpa [h] using hb

end Moves

-- x moves every state along R.
def Within (R : σ → σ → Prop) (x : Prog σ ε α) : Prop := ∀ s, Moves R s x

section Within

variable {R : σ → σ → Prop}

theorem Within.moves {x : Prog σ ε α} (h : Within R x) {s : σ} : Moves R s x := h s

theorem Within.run {x : Prog σ ε α} (h : Within R x) {s t : σ} {result : Except ε α}
    (hrun : x s = (result, t)) : R s t := by
  have hmoves := h s
  unfold Moves at hmoves
  rwa [hrun] at hmoves

theorem Within.update {f : σ → σ} (h : ∀ s, R s (f s)) :
    Within R (update f : Prog σ ε Unit) := h

theorem Within.pure [Std.Refl R] (a : α) : Within R (Pure.pure a : Prog σ ε α) :=
  fun _ => Moves.pure a

theorem Within.raise [Std.Refl R] (e : ε) : Within R (raise e : Prog σ ε α) :=
  fun _ => Moves.raise e

theorem Within.lift [Std.Refl R] (x : Except ε α) : Within R (lift x : Prog σ ε α) :=
  fun _ => Moves.lift x

theorem Within.bind [IsTrans σ R] {x : Prog σ ε α} {f : α → Prog σ ε β}
    (hx : Within R x) (hf : ∀ a, Within R (f a)) : Within R (x >>= f) :=
  fun s => Moves.bind (hx s) fun a t _ => hf a t

theorem Within.read_bind {f : σ → Prog σ ε β} (h : ∀ s, Moves R s (f s)) :
    Within R (Prog.read >>= f) := h

theorem Within.ite {c : Prop} [Decidable c] {x y : Prog σ ε α}
    (hx : Within R x) (hy : Within R y) : Within R (if c then x else y) :=
  fun s => Moves.ite (fun _ => hx s) (fun _ => hy s)

theorem Within.onlyIf [Std.Refl R] {c : Prop} [Decidable c] {body : Prog σ ε Unit}
    (h : Within R body) : Within R (onlyIf c body) := fun s => Moves.onlyIf fun _ => h s

theorem Within.each [Std.Refl R] [IsTrans σ R] {f : α → Prog σ ε Unit}
    (hf : ∀ a, Within R (f a)) (xs : List α) : Within R (each f xs) := by
  induction xs with
  | nil => exact Within.pure ()
  | cons a rest ih => exact Within.bind (hf a) fun _ => ih

theorem Within.attempt [IsTrans σ R] {body : Prog σ ε α} {handler : ε → Prog σ ε α}
    (hb : Within R body) (hh : ∀ e, Within R (handler e)) : Within R (attempt body handler) :=
  fun s => Moves.attempt (hb s) fun e t _ => hh e t

theorem Within.mono {R' : σ → σ → Prop} {x : Prog σ ε α} (hR : ∀ s t, R s t → R' s t)
    (hx : Within R x) : Within R' x := fun s => hR _ _ (hx s)

end Within

end Prog

end BanchoPrism.Library
