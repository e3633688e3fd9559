import BanchoPrism.Library.Prog

namespace BanchoPrism.Library

-- A computation that gives way at every command it sends: what the command does to the
-- shared state, and how to go on from the state the command found.
inductive Coro (σ ε α : Type) : Type
  | ret (a : α)
  | raise (e : ε)
  | call (act : σ → σ) (next : σ → Coro σ ε α)

namespace Coro

variable {σ ε α β : Type}

def andThen : Coro σ ε α → (α → Coro σ ε β) → Coro σ ε β
  | ret a, f => f a
  | raise e, _ => raise e
  | call act next, f => call act fun s => andThen (next s) f

instance : Monad (Coro σ ε) where
  pure := ret
  bind := andThen

-- One command that may fail.
def command (c : Prog σ ε α) : Coro σ ε α :=
  call (fun s => (c s).2) fun s =>
    match (c s).1 with
    | .ok a => ret a
    | .error e => raise e

-- Two kinds of commands that cannot fail.
def update (f : σ → σ) : Coro σ ε Unit := call f fun _ => ret ()

def query (f : σ → α) : Coro σ ε α := call id fun s => ret (f s)

-- try: body / except: handler
def attempt : Coro σ ε α → (ε → Coro σ ε α) → Coro σ ε α
  | ret a, _ => ret a
  | raise e, handler => handler e
  | call act next, handler => call act fun s => attempt (next s) handler

def each (f : α → Coro σ ε Unit) : List α → Coro σ ε Unit
  | [] => ret ()
  | a :: rest => andThen (f a) fun _ => each f rest

-- The loop of a body that collects what it yields.
def collect (f : α → Coro σ ε β) : List α → Coro σ ε (List β)
  | [] => ret []
  | a :: rest => andThen (f a) fun b => andThen (collect f rest) fun bs => ret (b :: bs)

-- Nothing else runs between the commands.
def run : Coro σ ε α → Prog σ ε α
  | ret a, s => (.ok a, s)
  | raise e, s => (.error e, s)
  | call act next, s => run (next s) (act s)

@[simp] theorem run_pure (a : α) (s : σ) : (pure a : Coro σ ε α).run s = (.ok a, s) := rfl

@[simp] theorem run_raise (e : ε) (s : σ) : (raise e : Coro σ ε α).run s = (.error e, s) := rfl

@[simp] theorem run_update (f : σ → σ) (s : σ) :
    (update f : Coro σ ε Unit).run s = (.ok (), f s) := rfl

@[simp] theorem run_query (f : σ → α) (s : σ) :
    (query f : Coro σ ε α).run s = (.ok (f s), s) := rfl

theorem run_command (c : Prog σ ε α) (s : σ) : (command c).run s = c s := by
  change ((match (c s).1 with
    | .ok a => ret a
    | .error e => raise e : Coro σ ε α)).run (c s).2 = c s
  rcases c s with ⟨e | a, t⟩ <;> rfl

-- Alone, what follows runs in the state that the first part leaves.
theorem run_bind (x : Coro σ ε α) (f : α → Coro σ ε β) (s : σ) :
    (x >>= f).run s = (x.run >>= fun a => (f a).run) s := by
  induction x generalizing s with
  | ret a => rfl
  | raise e => rfl
  | call act next ih => exact ih s (act s)

theorem run_bind_ok {x : Coro σ ε α} {f : α → Coro σ ε β} {s t : σ} {a : α}
    (h : x.run s = (.ok a, t)) : (x >>= f).run s = (f a).run t := by
  rw [run_bind, Prog.bind_run_ok h]

theorem run_attempt (body : Coro σ ε α) (handler : ε → Coro σ ε α) (s : σ) :
    (attempt body handler).run s = Prog.attempt body.run (fun e => (handler e).run) s := by
  induction body generalizing s with
  | ret a => rfl
  | raise e => rfl
  | call act next ih => exact ih s (act s)

theorem run_collect_query (f : α → σ → β) (l : List α) (s : σ) :
    (collect (fun a => query (f a)) l : Coro σ ε (List β)).run s =
      (.ok (l.map fun a => f a s), s) := by
  induction l with
  | nil => rfl
  | cons a rest ih =>
    change ((collect (fun a => query (f a)) rest >>= fun bs => pure (f a s :: bs) :
      Coro σ ε (List β))).run s = _
    rw [run_bind_ok ih]
    rfl

end Coro

end BanchoPrism.Library
