import BanchoPrism.Library.Tasks

namespace BanchoPrism.Library

namespace Tasks

variable {σ ι ο : Type}

-- A line that was run: the task it is of, and the world that it found.
structure Ran (σ ι : Type) where
  task : Nat
  world : σ
  line : ι

def ranBy (t : Tasks σ ι) : Event ο → List (Ran σ ι)
  | .begin _ => []
  | .resume i =>
      match next t.running i with
      | some (line, _) => [{ task := i, world := t.world, line := line }]
      | none => []

-- What a run runs, in its order.
def ran (step : Tasks σ ι → Event ο → Tasks σ ι) : Tasks σ ι → List (Event ο) → List (Ran σ ι)
  | _, [] => []
  | t, e :: rest => ranBy t e ++ ran step (step t e) rest

-- The operations that a run begins.
def begun (run : List (Event ο)) : List ο :=
  run.filterMap fun e =>
    match e with
    | .begin op => some op
    | .resume _ => none

-- What one task has run.
def own (i : Nat) (trace : List (Ran σ ι)) : List (σ × ι) :=
  trace.filterMap fun r => if r.task = i then some (r.world, r.line) else none

section Traces

variable {lines : ο → List ι} {perform : ι → σ → σ × List ι} {t : Tasks σ ι}

theorem own_append (i : Nat) (first second : List (Ran σ ι)) :
    own i (first ++ second) = own i first ++ own i second := List.filterMap_append

theorem ranBy_of_next {i : Nat} {line : ι} {rest : List ι}
    (hnext : next t.running i = some (line, rest)) :
    ranBy t (.resume i : Event ο) = [{ task := i, world := t.world, line := line }] := by
  simp only [ranBy, hnext]

theorem ranBy_of_none {i : Nat} (hnext : next t.running i = none) :
    ranBy t (.resume i : Event ο) = [] := by
  simp only [ranBy, hnext]

theorem own_singleton (i : Nat) (r : Ran σ ι) :
    own i [r] = if r.task = i then [(r.world, r.line)] else [] := by
  simp only [own, List.filterMap_cons, List.filterMap_nil]
  split
  · rename_i hnone
    split at hnone
    · cases hnone
    · rename_i hne
      rw [if_neg hne]
  · rename_i hsome
    split at hsome
    · rename_i heq
      cases hsome
      rw [if_pos heq]
    · cases hsome

-- The induction behind results about what has been run: what nothing run has, and a step adds
-- to, every run has.
theorem trace_invariant {step : Tasks σ ι → Event ο → Tasks σ ι}
    {guard : Tasks σ ι → Event ο → Prop}
    (inv : Tasks σ ι → List ο → List (Ran σ ι) → Prop)
    (hstep : ∀ t ops trace e, inv t ops trace → guard t e →
      inv (step t e) (ops ++ begun [e]) (trace ++ ranBy t e))
    {run : List (Event ο)} {ops : List ο} {trace : List (Ran σ ι)} (h : inv t ops trace)
    (hg : Guarded step guard t run) :
    inv (runFrom step t run) (ops ++ begun run) (trace ++ ran step t run) := by
  induction run generalizing t ops trace with
  | nil => simpa [begun, ran, runFrom] using h
  | cons e rest ih =>
    have hrest := ih (hstep t ops trace e h hg.1) hg.2
    have hbegun : begun (e :: rest) = begun [e] ++ begun rest := by
      rw [begun, ← List.singleton_append, List.filterMap_append]
      rfl
    rw [hbegun, ran, ← List.append_assoc, ← List.append_assoc]
    exact hrest

-- What an operation that begins keeps and a line that is run, every run keeps of where it is, of
-- what it has begun and of what it has run.
theorem history_invariant {cond : ι → σ → List (List ι) → Prop}
    (inv : Tasks σ ι → List ο → List (Ran σ ι) → Prop)
    (hbegin : ∀ t ops trace op, inv t ops trace →
      inv { t with running := t.running ++ [lines op] } (ops ++ [op]) trace)
    (hresume : ∀ t ops trace i line rest, inv t ops trace →
      next t.running i = some (line, rest) → cond line t.world (t.running.set i rest) →
        inv
          { world := (perform line t.world).1
            running := t.running.set i ((perform line t.world).2 ++ rest) }
          ops (trace ++ [{ task := i, world := t.world, line := line }]))
    {run : List (Event ο)} {ops : List ο} {trace : List (Ran σ ι)} (h : inv t ops trace)
    (hg : Guarded (step lines perform) (Meets cond) t run) :
    inv (runFrom (step lines perform) t run) (ops ++ begun run)
      (trace ++ ran (step lines perform) t run) := by
  refine trace_invariant inv (fun t ops trace e h hmeets => ?_) h hg
  cases e with
  | begin op =>
    have hbegun : begun [(.begin op : Event ο)] = [op] := rfl
    rw [hbegun, ranBy, List.append_nil]
    exact hbegin t ops trace op h
  | resume i =>
    have hbegun : begun [(.resume i : Event ο)] = [] := rfl
    rw [hbegun, List.append_nil]
    change inv (t.resume perform i) ops _
    cases hnext : next t.running i with
    | none =>
      rw [resume_of_none hnext, ranBy_of_none hnext, List.append_nil]
      exact h
    | some found =>
      obtain ⟨line, rest⟩ := found
      rw [resume_of_next hnext, ranBy_of_next hnext]
      exact hresume t ops trace i line rest h hnext (hmeets line rest hnext)

-- The same of where a run is and what it has run.
theorem ran_invariant {cond : ι → σ → List (List ι) → Prop}
    (inv : Tasks σ ι → List (Ran σ ι) → Prop)
    (hbegin : ∀ t trace op, inv t trace → inv { t with running := t.running ++ [lines op] } trace)
    (hresume : ∀ t trace i line rest, inv t trace → next t.running i = some (line, rest) →
      cond line t.world (t.running.set i rest) →
        inv
          { world := (perform line t.world).1
            running := t.running.set i ((perform line t.world).2 ++ rest) }
          (trace ++ [{ task := i, world := t.world, line := line }]))
    {run : List (Event ο)} {trace : List (Ran σ ι)} (h : inv t trace)
    (hg : Guarded (step lines perform) (Meets cond) t run) :
    inv (runFrom (step lines perform) t run) (trace ++ ran (step lines perform) t run) := by
  have hrun := @history_invariant _ _ _ lines perform t cond (fun t _ trace => inv t trace)
    (fun t _ trace op h => hbegin t trace op h)
    (fun t _ trace i line rest h => hresume t trace i line rest h) run [] trace h hg
  exact hrun

theorem gather_begin (running : List (List ι)) (task : List ι) :
    (gather some (running ++ [task])).Perm (task ++ gather some running) := by
  rw [gather, gather, List.flatMap_append, List.flatMap_singleton, List.filterMap_some]
  exact List.perm_append_comm

-- The rule of an invariant that does not ask which task a line is of: what is left to run counts,
-- in any order, for the condition on a line too.
theorem left_guarded {cond : ι → σ → List ι → Prop} (inv : List ο → σ → List ι → Prop)
    (hperm : ∀ ops w left other, left.Perm other → inv ops w left → inv ops w other)
    (hbegin : ∀ ops w left op, inv ops w left → inv (ops ++ [op]) w (lines op ++ left))
    (hresume : ∀ ops w line others, inv ops w (line :: others) → cond line w others →
      inv ops (perform line w).1 ((perform line w).2 ++ others))
    {run : List (Event ο)} {ops : List ο} (h : inv ops t.world (gather some t.running))
    (hg : Guarded (step lines perform)
      (Meets fun line w running => cond line w (gather some running)) t run) :
    inv (ops ++ begun run) (runFrom (step lines perform) t run).world
      (gather some (runFrom (step lines perform) t run).running) := by
  refine @history_invariant _ _ _ lines perform t
    (fun line w running => cond line w (gather some running))
    (fun t ops _ => inv ops t.world (gather some t.running)) (fun t ops _ op h => ?_)
    (fun t ops _ i line rest h hnext hcond => ?_) run ops [] h hg
  · exact hperm _ _ _ _ (gather_begin t.running _).symm (hbegin ops t.world _ op h)
  · have hnew := @gather_extend _ _ i rest _ some (lt_of_next hnext) (perform line t.world).2
    rw [List.filterMap_some] at hnew
    exact hperm _ _ _ _ hnew.symm
      (hresume ops t.world line _ (hperm _ _ _ _ (gather_next some hnext) h) hcond)

theorem left_invariant (inv : List ο → σ → List ι → Prop)
    (hperm : ∀ ops w left other, left.Perm other → inv ops w left → inv ops w other)
    (hbegin : ∀ ops w left op, inv ops w left → inv (ops ++ [op]) w (lines op ++ left))
    (hresume : ∀ ops w line others, inv ops w (line :: others) →
      inv ops (perform line w).1 ((perform line w).2 ++ others))
    {run : List (Event ο)} {ops : List ο} (h : inv ops t.world (gather some t.running)) :
    inv (ops ++ begun run) (runFrom (step lines perform) t run).world
      (gather some (runFrom (step lines perform) t run).running) := by
  have hg : Guarded (step lines perform) (Meets fun _ _ _ => True) t run :=
    Guarded.mono (fun t e _ => Meets.of_forall (fun _ _ _ => trivial) t e)
      (Guarded.of_forall fun _ _ => trivial)
  exact @left_guarded _ _ _ lines perform t (fun _ _ _ => True) inv hperm hbegin
    (fun ops w line others h _ => hresume ops w line others h) run ops h hg

-- How far each task has come: what holds of the world, the operation, what is left of it, and
-- what it has run.
structure Stages (stage : σ → ο → List ι → List (σ × ι) → Prop) (t : Tasks σ ι) (ops : List ο)
    (trace : List (Ran σ ι)) : Prop where
  length : ops.length = t.running.length
  stage : ∀ i op task, ops[i]? = some op → t.running[i]? = some task →
    stage t.world op task (own i trace)
  fresh : ∀ i, t.running.length ≤ i → own i trace = []

variable {stage : σ → ο → List ι → List (σ × ι) → Prop} {ops : List ο} {trace : List (Ran σ ι)}

theorem Stages.begin (h : Stages stage t ops trace) (op : ο)
    (hbegin : stage t.world op (lines op) []) :
    Stages stage { t with running := t.running ++ [lines op] } (ops ++ [op]) trace := by
  refine ⟨?_, fun i op' task hop htask => ?_, fun i hi => ?_⟩
  · simp [h.length]
  · rcases Nat.lt_or_ge i t.running.length with hi | hi
    · rw [List.getElem?_append_left (h.length ▸ hi)] at hop
      dsimp only at htask
      rw [List.getElem?_append_left hi] at htask
      exact h.stage i op' task hop htask
    · rw [List.getElem?_append_right (h.length ▸ hi)] at hop
      dsimp only at htask
      rw [List.getElem?_append_right hi] at htask
      rw [h.length] at hop
      have hzero : i - t.running.length = 0 := by
        have hlt := (List.getElem?_eq_some_iff.mp htask).1
        rw [List.length_singleton] at hlt
        omega
      rw [hzero] at hop htask
      cases hop
      cases htask
      rw [h.fresh i hi]
      exact hbegin
  · rw [List.length_append] at hi
    exact h.fresh i (by omega)

-- A task that goes on: its own stage, and those of the others.
theorem Stages.resume (h : Stages stage t ops trace) {i : Nat} {line : ι} {rest : List ι}
    (hnext : next t.running i = some (line, rest))
    (hown : ∀ op past, stage t.world op (line :: rest) past →
      stage (perform line t.world).1 op ((perform line t.world).2 ++ rest)
        (past ++ [(t.world, line)]))
    (hother : ∀ op task past, task ∈ t.running.set i rest → stage t.world op task past →
      stage (perform line t.world).1 op task past) :
    Stages stage
      { world := (perform line t.world).1
        running := t.running.set i ((perform line t.world).2 ++ rest) }
      ops (trace ++ [{ task := i, world := t.world, line := line }]) := by
  have hi := lt_of_next hnext
  refine ⟨?_, fun j op task hop htask => ?_, fun j hj => ?_⟩
  · rw [List.length_set]
    exact h.length
  · dsimp only at htask
    rw [own_append, own_singleton]
    by_cases hij : i = j
    · subst hij
      rw [List.getElem?_set_self hi] at htask
      cases htask
      rw [if_pos rfl]
      exact hown op _ (h.stage i op _ hop (next_eq_some.mp hnext))
    · rw [List.getElem?_set_ne hij] at htask
      rw [if_neg hij, List.append_nil]
      refine hother op task _ ?_ (h.stage j op task hop htask)
      refine List.mem_of_getElem? (i := j) ?_
      rw [List.getElem?_set_ne hij]
      exact htask
  · rw [List.length_set] at hj
    rw [own_append, own_singleton, if_neg (by dsimp only; omega), List.append_nil]
    exact h.fresh j hj

-- The rule of the stages: where a task begins, what its own lines make of it, and that the lines
-- of the others leave it where it is.
theorem Stages.invariant {cond : ι → σ → List (List ι) → Prop}
    (hbegin : ∀ w op, stage w op (lines op) [])
    (hown : ∀ w op line rest past, stage w op (line :: rest) past →
      stage (perform line w).1 op ((perform line w).2 ++ rest) (past ++ [(w, line)]))
    (hother : ∀ w op task past line others, cond line w others → task ∈ others →
      stage w op task past → stage (perform line w).1 op task past)
    (hidle : t.running = []) {run : List (Event ο)}
    (hg : Guarded (step lines perform) (Meets cond) t run) :
    Stages stage (runFrom (step lines perform) t run) (begun run)
      (ran (step lines perform) t run) := by
  have hstart : Stages stage t [] [] :=
    ⟨by rw [hidle]; rfl, fun i op task hop => by simp at hop, fun _ _ => rfl⟩
  have hrun := @history_invariant _ _ _ lines perform t cond (Stages stage)
    (fun t ops trace op h => h.begin op (hbegin t.world op))
    (fun t ops trace i line rest h hnext hcond =>
      h.resume hnext (fun op past => hown _ op line rest past) fun op task past htask =>
        hother _ op task past line _ hcond htask) run [] [] hstart hg
  simpa using hrun

end Traces

end Tasks

end BanchoPrism.Library
