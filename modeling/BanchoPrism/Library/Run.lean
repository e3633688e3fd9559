namespace BanchoPrism.Library

variable {σ α : Type}

def runFrom (step : σ → α → σ) : σ → List α → σ
  | s, [] => s
  | s, a :: rest => runFrom step (step s a) rest

-- Every step of the run meets the guard in the state it is taken in.
def Guarded (step : σ → α → σ) (guard : σ → α → Prop) : σ → List α → Prop
  | _, [] => True
  | s, a :: rest => guard s a ∧ Guarded step guard (step s a) rest

instance Guarded.decidable (step : σ → α → σ) (guard : σ → α → Prop)
    [hd : ∀ s a, Decidable (guard s a)] (s : σ) (run : List α) :
    Decidable (Guarded step guard s run) :=
  match run with
  | [] => isTrue trivial
  | a :: rest =>
      have := Guarded.decidable step guard (step s a) rest
      inferInstanceAs (Decidable (guard s a ∧ Guarded step guard (step s a) rest))

theorem runFrom_append (step : σ → α → σ) (s : σ) (first second : List α) :
    runFrom step s (first ++ second) = runFrom step (runFrom step s first) second := by
  induction first generalizing s with
  | nil => rfl
  | cons a rest ih => exact ih (step s a)

-- The induction behind every result about runs: what the first state has and
-- a guarded step keeps, every state of a guarded run has.
theorem Guarded.invariant {step : σ → α → σ} {guard : σ → α → Prop} (inv : σ → Prop)
    (hstep : ∀ s a, inv s → guard s a → inv (step s a))
    {s : σ} {run : List α} (hs : inv s) (hg : Guarded step guard s run) :
    inv (runFrom step s run) := by
  induction run generalizing s with
  | nil => exact hs
  | cons a rest ih => exact ih (hstep s a hs hg.1) hg.2

-- Where a step that leads to what is safe has met the guard, a run is guarded exactly if all of its
-- states are safe.
theorem Guarded.iff_take {step : σ → α → σ} {guard : σ → α → Prop} {safe : σ → Prop}
    (inv : σ → Prop) (hsafe : ∀ s, inv s → safe s)
    (hstep : ∀ s a, inv s → guard s a → inv (step s a))
    (hguard : ∀ s a, inv s → safe (step s a) → guard s a) {s : σ} {run : List α} (hs : inv s) :
    (∀ n, safe (runFrom step s (run.take n))) ↔ Guarded step guard s run := by
  induction run generalizing s with
  | nil =>
    constructor
    · exact fun _ => trivial
    · intro _ n
      rw [List.take_nil]
      exact hsafe s hs
  | cons a rest ih =>
    constructor
    · intro h
      have hg := hguard s a hs (h 1)
      exact ⟨hg, (ih (hstep s a hs hg)).mp fun n => h (n + 1)⟩
    · intro hg n
      cases n with
      | zero => exact hsafe s hs
      | succ n => exact (ih (hstep s a hs hg.1)).mpr hg.2 n

-- A guard that looks at nothing but the item.
theorem Guarded.of_forall {step : σ → α → σ} {guard : α → Prop} {s : σ} {run : List α}
    (h : ∀ a ∈ run, guard a) : Guarded step (fun _ a => guard a) s run := by
  induction run generalizing s with
  | nil => trivial
  | cons a rest ih =>
    exact ⟨h a List.mem_cons_self, ih fun b hb => h b (List.mem_cons_of_mem a hb)⟩

theorem Guarded.mono {step : σ → α → σ} {guard weaker : σ → α → Prop}
    (h : ∀ s a, guard s a → weaker s a) {s : σ} {run : List α}
    (hg : Guarded step guard s run) : Guarded step weaker s run := by
  induction run generalizing s with
  | nil => trivial
  | cons a rest ih => exact ⟨h s a hg.1, ih hg.2⟩

-- What the invariant and the guard give of a step, every step of a guarded run has.
theorem Guarded.strengthen {step : σ → α → σ} {guard next : σ → α → Prop} (inv : σ → Prop)
    (hstep : ∀ s a, inv s → guard s a → inv (step s a))
    (hnext : ∀ s a, inv s → guard s a → next s a)
    {s : σ} {run : List α} (hs : inv s) (hg : Guarded step guard s run) :
    Guarded step next s run := by
  induction run generalizing s with
  | nil => trivial
  | cons a rest ih => exact ⟨hnext s a hs hg.1, ih (hstep s a hs hg.1) hg.2⟩

end BanchoPrism.Library
