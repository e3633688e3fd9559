import BanchoPrism.Library.Run

namespace BanchoPrism.Library

-- A world that coroutines share, and the lines that each of them has yet to run.
-- Between two lines of one of them any other may go on.
structure Tasks (σ ι : Type) where
  world : σ
  running : List (List ι)

namespace Tasks

variable {σ ι : Type}

inductive Event (ο : Type)
  | begin (op : ο)
  | resume (i : Nat)

-- The line that a task goes on with, and what it has to run after it.
def next (running : List (List ι)) (i : Nat) : Option (ι × List ι) :=
  match running[i]? with
  | some (line :: rest) => some (line, rest)
  | _ => none

-- A line changes the world, and may turn into more lines.
def resume (perform : ι → σ → σ × List ι) (t : Tasks σ ι) (i : Nat) : Tasks σ ι :=
  match next t.running i with
  | none => t
  | some (line, rest) =>
      let (world, lines) := perform line t.world
      { world := world, running := t.running.set i (lines ++ rest) }

def step {ο : Type} (lines : ο → List ι) (perform : ι → σ → σ × List ι) (t : Tasks σ ι) :
    Event ο → Tasks σ ι
  | .begin op => { t with running := t.running ++ [lines op] }
  | .resume i => t.resume perform i

def Idle (running : List (List ι)) : Prop := ∀ task ∈ running, task = []

-- Some task has yet to run a line of a kind.
def Owed (kind : ι → Bool) (running : List (List ι)) : Prop :=
  ∃ task ∈ running, ∃ line ∈ task, kind line

-- A condition on the lines that are run: on the line, the world, and what the tasks
-- have to run after it.
def Meets {ο : Type} (cond : ι → σ → List (List ι) → Prop) (t : Tasks σ ι) : Event ο → Prop
  | .begin _ => True
  | .resume i =>
      ∀ line rest, next t.running i = some (line, rest) →
        cond line t.world (t.running.set i rest)

section Running

variable {running : List (List ι)} {i : Nat} {line : ι} {rest lines : List ι}

instance : Decidable (Idle running) :=
  decidable_of_iff (running.all List.isEmpty) (by simp [Idle])

instance (kind : ι → Bool) : Decidable (Owed kind running) :=
  decidable_of_iff (running.any fun task => task.any kind) (by simp [Owed])

theorem next_eq_some : next running i = some (line, rest) ↔ running[i]? = some (line :: rest) := by
  unfold next
  constructor
  · intro h
    split at h
    · cases h
      assumption
    · cases h
  · intro h
    rw [h]

theorem Idle.not_owed {kind : ι → Bool} (h : Idle running) : ¬Owed kind running := by
  rintro ⟨task, htask, line, hline, -⟩
  rw [h task htask] at hline
  exact absurd hline List.not_mem_nil

-- What is owed is the line that is run, or owed after it.
theorem Owed.of_next {kind : ι → Bool} (h : Owed kind running)
    (hnext : next running i = some (line, rest)) :
    kind line ∨ Owed kind (running.set i rest) := by
  rw [next_eq_some] at hnext
  obtain ⟨task, htask, other, hother, hkind⟩ := h
  obtain ⟨j, hj⟩ := List.getElem?_of_mem htask
  by_cases hij : i = j
  · subst hij
    rw [hnext] at hj
    cases hj
    rcases List.mem_cons.mp hother with rfl | hrest
    · exact Or.inl hkind
    · have hi : i < running.length := (List.getElem?_eq_some_iff.mp hnext).1
      exact Or.inr ⟨rest, List.mem_set hi rest, other, hrest, hkind⟩
  · refine Or.inr ⟨task, ?_, other, hother, hkind⟩
    refine List.mem_of_getElem? (i := j) ?_
    rw [List.getElem?_set_ne hij]
    exact hj

-- More lines in front of the rest take nothing back.
theorem Owed.extend {kind : ι → Bool} (h : Owed kind (running.set i rest)) (lines : List ι) :
    Owed kind (running.set i (lines ++ rest)) := by
  obtain ⟨task, htask, other, hother, hkind⟩ := h
  rcases Nat.lt_or_ge i running.length with hi | hi
  · obtain ⟨j, hj⟩ := List.getElem?_of_mem htask
    by_cases hij : i = j
    · subst hij
      rw [List.getElem?_set_self hi] at hj
      cases hj
      exact ⟨lines ++ rest, List.mem_set hi _, other, List.mem_append_right lines hother, hkind⟩
    · refine ⟨task, List.mem_of_getElem? (i := j) ?_, other, hother, hkind⟩
      rw [List.getElem?_set_ne hij] at hj ⊢
      exact hj
  · rw [List.set_eq_of_length_le hi] at htask ⊢
    exact ⟨task, htask, other, hother, hkind⟩

theorem Owed.of_lines {kind : ι → Bool} (hnext : next running i = some (line, rest))
    {other : ι} (hother : other ∈ lines ++ rest) (hkind : kind other) :
    Owed kind (running.set i (lines ++ rest)) := by
  have hi := (List.getElem?_eq_some_iff.mp (next_eq_some.mp hnext)).1
  exact ⟨lines ++ rest, List.mem_set hi _, other, hother, hkind⟩

theorem Owed.append {kind : ι → Bool} (h : Owed kind running) (task : List ι) :
    Owed kind (running ++ [task]) := by
  obtain ⟨other, hother, hline⟩ := h
  exact ⟨other, List.mem_append_left _ hother, hline⟩

instance {ο : Type} (cond : ι → σ → List (List ι) → Prop)
    [hd : ∀ line s others, Decidable (cond line s others)] (t : Tasks σ ι) (e : Event ο) :
    Decidable (Meets cond t e) :=
  match e with
  | .begin _ => isTrue trivial
  | .resume i =>
      match h : next t.running i with
      | none => isTrue fun line rest hnext => by rw [h] at hnext; cases hnext
      | some (line, rest) =>
          decidable_of_iff (cond line t.world (t.running.set i rest))
            ⟨fun hcond line' rest' hnext => by rw [h] at hnext; cases hnext; exact hcond,
              fun hmeets => hmeets line rest h⟩

-- What the lines that are yet to be run carry of a kind.
def gather {α : Type} (f : ι → Option α) (running : List (List ι)) : List α :=
  running.flatMap fun task => task.filterMap f

theorem gather_next {α : Type} (f : ι → Option α) (hnext : next running i = some (line, rest)) :
    (gather f running).Perm ((f line).toList ++ gather f (running.set i rest)) := by
  rw [next_eq_some] at hnext
  obtain ⟨hi, hget⟩ := List.getElem?_eq_some_iff.mp hnext
  have hsplit : running = running.take i ++ (line :: rest) :: running.drop (i + 1) := by
    rw [← hget, List.getElem_cons_drop, List.take_append_drop]
  have hline : (line :: rest).filterMap f = (f line).toList ++ rest.filterMap f := by
    rw [List.filterMap_cons]
    cases f line <;> rfl
  rw [List.set_eq_take_append_cons_drop, if_pos hi]
  have hgather : gather f running =
      gather f (running.take i ++ (line :: rest) :: running.drop (i + 1)) := congrArg _ hsplit
  rw [hgather]
  simp only [gather, List.flatMap_append, List.flatMap_cons, hline, ← List.append_assoc]
  refine List.Perm.append_right _ (List.Perm.append_right _ ?_)
  exact List.perm_append_comm

theorem gather_extend {α : Type} (f : ι → Option α) (hi : i < running.length) (lines : List ι) :
    (gather f (running.set i (lines ++ rest))).Perm
      (lines.filterMap f ++ gather f (running.set i rest)) := by
  rw [List.set_eq_take_append_cons_drop, List.set_eq_take_append_cons_drop, if_pos hi, if_pos hi]
  simp only [gather, List.flatMap_append, List.flatMap_cons, List.filterMap_append,
    ← List.append_assoc]
  refine List.Perm.append_right _ (List.Perm.append_right _ ?_)
  exact List.perm_append_comm

-- A task of a list that is set at one place is what is set there, or at another place.
theorem mem_set_cases {task new : List ι} (h : task ∈ running.set i new) :
    task = new ∨ task ∈ running ∧ ∀ other, task ∈ running.set i other := by
  obtain ⟨j, hj⟩ := List.getElem?_of_mem h
  by_cases hij : i = j
  · subst hij
    have hi : i < running.length := by
      have hlt := (List.getElem?_eq_some_iff.mp hj).1
      rwa [List.length_set] at hlt
    rw [List.getElem?_set_self hi] at hj
    cases hj
    exact Or.inl rfl
  · rw [List.getElem?_set_ne hij] at hj
    refine Or.inr ⟨List.mem_of_getElem? hj, fun other => List.mem_of_getElem? (i := j) ?_⟩
    rw [List.getElem?_set_ne hij]
    exact hj

theorem lt_of_next (hnext : next running i = some (line, rest)) : i < running.length :=
  (List.getElem?_eq_some_iff.mp (next_eq_some.mp hnext)).1

theorem mem_of_next (hnext : next running i = some (line, rest)) : line :: rest ∈ running :=
  List.mem_of_getElem? (next_eq_some.mp hnext)

-- After a line is run, what is left to run is what it has turned into, and what was left.
theorem mem_lines_set (hnext : next running i = some (line, rest)) {task : List ι} {other : ι}
    (htask : task ∈ running.set i (lines ++ rest)) (hother : other ∈ task) :
    other ∈ lines ∨ ∃ task ∈ running.set i rest, other ∈ task := by
  rcases mem_set_cases htask with rfl | ⟨-, hset⟩
  · rcases List.mem_append.mp hother with hnew | hrest
    · exact Or.inl hnew
    · exact Or.inr ⟨rest, List.mem_set (lt_of_next hnext) rest, hrest⟩
  · exact Or.inr ⟨task, hset rest, hother⟩

theorem mem_lines_of_rest (hnext : next running i = some (line, rest)) {task : List ι} {other : ι}
    (htask : task ∈ running.set i rest) (hother : other ∈ task) :
    ∃ task ∈ running, other ∈ task := by
  rcases mem_set_cases htask with rfl | ⟨hmem, -⟩
  · exact ⟨line :: task, mem_of_next hnext, List.mem_cons_of_mem line hother⟩
  · exact ⟨task, hmem, hother⟩

-- The same for the task of a given place.
theorem getElem?_lines_set (hnext : next running i = some (line, rest)) {j : Nat} {task : List ι}
    {other : ι} (htask : (running.set i (lines ++ rest))[j]? = some task) (hother : other ∈ task) :
    j = i ∧ other ∈ lines ∨ ∃ old, running[j]? = some old ∧ other ∈ old := by
  by_cases heq : j = i
  · subst heq
    rw [List.getElem?_set_self (lt_of_next hnext)] at htask
    cases htask
    rcases List.mem_append.mp hother with hnew | hrest
    · exact Or.inl ⟨rfl, hnew⟩
    · exact Or.inr ⟨_, next_eq_some.mp hnext, List.mem_cons_of_mem line hrest⟩
  · rw [List.getElem?_set_ne (Ne.symm heq)] at htask
    exact Or.inr ⟨task, htask, hother⟩

end Running

theorem Meets.of_forall {ο : Type} {cond : ι → σ → List (List ι) → Prop}
    (h : ∀ line w others, cond line w others) (t : Tasks σ ι) (e : Event ο) : Meets cond t e := by
  cases e with
  | begin op => trivial
  | resume i => exact fun line rest _ => h line t.world _

section Steps

variable {ο : Type} {lines : ο → List ι} {perform : ι → σ → σ × List ι} {t : Tasks σ ι}

theorem resume_of_none {i : Nat} (hnext : next t.running i = none) : t.resume perform i = t := by
  simp only [resume, hnext]

theorem resume_of_next {i : Nat} {line : ι} {rest : List ι}
    (hnext : next t.running i = some (line, rest)) :
    t.resume perform i =
      { world := (perform line t.world).1
        running := t.running.set i ((perform line t.world).2 ++ rest) } := by
  simp only [resume, hnext]

-- What a task that goes on keeps: it has a line to run, or nothing happens.
theorem resume_keeps {inv : Tasks σ ι → Prop} (h : inv t) (i : Nat)
    (hline : ∀ line rest, next t.running i = some (line, rest) →
      inv
        { world := (perform line t.world).1
          running := t.running.set i ((perform line t.world).2 ++ rest) }) :
    inv (t.resume perform i) := by
  cases hnext : next t.running i with
  | none =>
    rw [resume_of_none hnext]
    exact h
  | some found =>
    obtain ⟨line, rest⟩ := found
    rw [resume_of_next hnext]
    exact hline line rest hnext

-- What a step keeps: an operation that begins, and a line that is run.
theorem step_keeps {inv : Tasks σ ι → Prop} {cond : ι → σ → List (List ι) → Prop} (h : inv t)
    (hbegin : ∀ op, inv { t with running := t.running ++ [lines op] })
    (hresume : ∀ i line rest, next t.running i = some (line, rest) →
      cond line t.world (t.running.set i rest) →
        inv
          { world := (perform line t.world).1
            running := t.running.set i ((perform line t.world).2 ++ rest) })
    (e : Event ο) (hmeets : Meets cond t e) : inv (step lines perform t e) := by
  cases e with
  | begin op => exact hbegin op
  | resume i =>
    refine resume_keeps h i fun line rest hnext => ?_
    exact hresume i line rest hnext (hmeets line rest hnext)

end Steps

end Tasks

namespace Tasks

variable {σ ι : Type}

-- What an event of a run with failures is.
inductive Move (ο : Type)
  | begin (op : ο)
  | resume (i : Nat)
  -- The line that the task is at raises.
  | fail (i : Nat)
  deriving DecidableEq

-- A task that fails has no more lines to run: what it cleans up is all that it still does.
def fail (recover : List ι → σ → σ) (t : Tasks σ ι) (i : Nat) : Tasks σ ι :=
  match next t.running i with
  | none => t
  | some (line, rest) =>
      { world := recover (line :: rest) t.world, running := t.running.set i [] }

def move {ο : Type} (lines : ο → List ι) (perform : ι → σ → σ × List ι)
    (recover : List ι → σ → σ) (t : Tasks σ ι) : Move ο → Tasks σ ι
  | .begin op => { t with running := t.running ++ [lines op] }
  | .resume i => t.resume perform i
  | .fail i => t.fail recover i

section Moves

variable {ο : Type} {lines : ο → List ι} {perform : ι → σ → σ × List ι}
  {recover : List ι → σ → σ} {t : Tasks σ ι}

theorem fail_of_none {i : Nat} (hnext : next t.running i = none) : t.fail recover i = t := by
  simp only [fail, hnext]

theorem fail_of_next {i : Nat} {line : ι} {rest : List ι}
    (hnext : next t.running i = some (line, rest)) :
    t.fail recover i =
      { world := recover (line :: rest) t.world, running := t.running.set i [] } := by
  simp only [fail, hnext]

theorem fail_keeps {inv : Tasks σ ι → Prop} (h : inv t) (i : Nat)
    (hfail : ∀ line rest, next t.running i = some (line, rest) →
      inv { world := recover (line :: rest) t.world, running := t.running.set i [] }) :
    inv (t.fail recover i) := by
  cases hnext : next t.running i with
  | none =>
    rw [fail_of_none hnext]
    exact h
  | some found =>
    obtain ⟨line, rest⟩ := found
    rw [fail_of_next hnext]
    exact hfail line rest hnext

-- What is owed by the tasks that are left is owed when one of them is gone, or by that one.
theorem Owed.of_fail {kind : ι → Bool} {running : List (List ι)} {i : Nat} {line : ι}
    {rest : List ι} (h : Owed kind running) (hnext : next running i = some (line, rest)) :
    (∃ other ∈ line :: rest, kind other) ∨ Owed kind (running.set i []) := by
  obtain ⟨task, htask, other, hother, hkind⟩ := h
  obtain ⟨j, hj⟩ := List.getElem?_of_mem htask
  by_cases hij : i = j
  · subst hij
    rw [next_eq_some.mp hnext] at hj
    cases hj
    exact Or.inl ⟨other, hother, hkind⟩
  · refine Or.inr ⟨task, List.mem_of_getElem? (i := j) ?_, other, hother, hkind⟩
    rw [List.getElem?_set_ne hij]
    exact hj

end Moves

-- What some lines do when no other task comes between.
inductive Alone (perform : ι → σ → σ × List ι) : σ → List ι → σ → Prop
  | nil (w : σ) : Alone perform w [] w
  | cons {w w' : σ} {line : ι} {rest : List ι}
      (h : Alone perform (perform line w).1 ((perform line w).2 ++ rest) w') :
      Alone perform w (line :: rest) w'

-- It, run for a number of lines at most.
def exhaust (perform : ι → σ → σ × List ι) : Nat → σ → List ι → σ × List ι
  | n + 1, w, line :: rest => exhaust perform n (perform line w).1 ((perform line w).2 ++ rest)
  | _, w, task => (w, task)

section Alone

variable {perform : ι → σ → σ × List ι} {w w' w'' : σ} {first second : List ι}

theorem Alone.append (h : Alone perform w first w') (h' : Alone perform w' second w'') :
    Alone perform w (first ++ second) w'' := by
  induction h with
  | nil w => exact h'
  | cons _ ih =>
    refine Alone.cons ?_
    change Alone perform _ (_ ++ (_ ++ second)) w''
    rw [← List.append_assoc]
    exact ih h'

theorem Alone.deterministic (h : Alone perform w first w') (h' : Alone perform w first w'') :
    w' = w'' := by
  induction h with
  | nil w =>
    cases h'
    rfl
  | cons _ ih =>
    cases h' with
    | cons h' => exact ih h'

-- What the start has and each line keeps, the end has.
theorem Alone.keeps {inv : σ → List ι → Prop}
    (hline : ∀ w line rest, inv w (line :: rest) →
      inv (perform line w).1 ((perform line w).2 ++ rest))
    (h : Alone perform w first w') (hinv : inv w first) : inv w' [] := by
  induction h with
  | nil w => exact hinv
  | cons _ ih => exact ih (hline _ _ _ hinv)

-- In a run it is what resuming the task again and again comes to.
theorem Alone.resumes {ε : Type} {step : Tasks σ ι → ε → Tasks σ ι} {i : Nat} {e : ε}
    (hstep : ∀ t, step t e = t.resume perform i) (h : Alone perform w first w')
    {running : List (List ι)} (hi : running[i]? = some first) :
    ∃ n, runFrom step { world := w, running := running } (List.replicate n e) =
      { world := w', running := running.set i [] } := by
  induction h generalizing running with
  | nil w =>
    refine ⟨0, ?_⟩
    obtain ⟨hlt, hget⟩ := List.getElem?_eq_some_iff.mp hi
    rw [← hget, List.set_getElem_self]
    rfl
  | cons h ih =>
    rename_i w w' line rest
    have hlt := (List.getElem?_eq_some_iff.mp hi).1
    have hnext : next running i = some (line, rest) := next_eq_some.mpr hi
    obtain ⟨n, hn⟩ := ih (List.getElem?_set_self hlt)
    refine ⟨n + 1, ?_⟩
    rw [List.replicate_succ, runFrom, hstep, @resume_of_next _ _ perform ⟨w, running⟩ i line rest hnext,
      hn, List.set_set]

-- Resuming a task a number of times is running it for that many lines.
theorem exhaust_resumes {ε : Type} {step : Tasks σ ι → ε → Tasks σ ι} {i : Nat} {e : ε}
    (hstep : ∀ t, step t e = t.resume perform i) (n : Nat) {running : List (List ι)}
    (hi : running[i]? = some first) :
    runFrom step { world := w, running := running } (List.replicate n e) =
      { world := (exhaust perform n w first).1
        running := running.set i (exhaust perform n w first).2 } := by
  obtain ⟨hlt, hget⟩ := List.getElem?_eq_some_iff.mp hi
  induction n generalizing w first running with
  | zero =>
    rw [← hget, exhaust, List.set_getElem_self]
    · rfl
    · exact fun _ _ _ h => by cases h
  | succ n ih =>
    rw [List.replicate_succ, runFrom, hstep]
    cases first with
    | nil =>
      have hnext : next running i = none := by
        unfold next
        rw [hi]
      rw [resume_of_none hnext, ih hi hlt hget]
      cases n <;> rfl
    | cons line rest =>
      have hnext : next running i = some (line, rest) := next_eq_some.mpr hi
      have hlt' : i < (running.set i ((perform line w).2 ++ rest)).length := by
        rwa [List.length_set]
      rw [@resume_of_next _ _ perform ⟨w, running⟩ i line rest hnext,
        ih (List.getElem?_set_self hlt) hlt' (List.getElem_set_self hlt'), List.set_set]
      rfl

-- One operation that is begun and runs to its end before anything else does.
theorem Alone.moves {ο : Type} {lines : ο → List ι} {op : ο} (h : Alone perform w (lines op) w')
    (recover : List ι → σ → σ) (running : List (List ι)) :
    ∃ n, runFrom (move lines perform recover) { world := w, running := running }
        (.begin op :: List.replicate n (.resume running.length)) =
      { world := w', running := running ++ [[]] } := by
  have hi : (running ++ [lines op])[running.length]? = some (lines op) :=
    List.getElem?_concat_length
  obtain ⟨n, hn⟩ := @Alone.resumes σ ι perform w w' (lines op) (Move ο) (move lines perform recover)
    running.length (.resume running.length) (fun _ => rfl) h _ hi
  refine ⟨n, ?_⟩
  change runFrom (move lines perform recover) { world := w, running := running ++ [lines op] } _ = _
  rw [hn, List.set_append_right _ _ (Nat.le_refl _), Nat.sub_self]
  rfl

end Alone

end Tasks

end BanchoPrism.Library
