import BanchoPrism.Library.Traces

namespace BanchoPrism.Requests

namespace Draining

open Library

inductive Service
  | httpClient
  | database
  | redis
  deriving DecidableEq

structure World where
  -- _count and _idle
  count : Int := 0
  idle : Bool := true
  -- the future that drain waits for, once there is one, and whether it is done
  waiting : Bool := false
  woken : Bool := false
  shuttingDown : Bool := false
  clock : Nat := 0
  -- what drain has returned, and after how many seconds
  drained : List (Bool × Nat) := []
  closed : List Service := []
  -- how many requests have found a service closed
  severed : Nat := 0
  deriving DecidableEq

def World.increment (w : World) : World := { w with count := w.count + 1, idle := false }

-- A wait that _idle ends stays ended, whatever clears it afterwards.
def World.decrement (w : World) : World :=
  if w.count - 1 ≤ 0 then { w with count := 0, idle := true, woken := w.woken || w.waiting }
  else { w with count := w.count - 1 }

def World.returns (w : World) (drained : Bool) (since : Nat) : World :=
  { w with drained := w.drained ++ [(drained, w.clock - since)] }

inductive Line
  -- dispatch, and what the request awaits in it
  | dispatch (uses : List Service)
  | callNext (uses : List Service)
  -- lifespan, from the yield on
  | shutDown
  | drain
  | wait (since : Nat)
  | cancelHousekeepingTasks
  | cancelBackgroundTasks
  | close (service : Service)
  | sleep (seconds : Nat)
  deriving DecidableEq

inductive Request
  | http (uses : List Service)
  | shutDown
  | sleep (seconds : Nat)
  deriving DecidableEq

def Request.line : Request → Line
  | http uses => .dispatch uses
  | shutDown => .shutDown
  | sleep seconds => .sleep seconds

-- What comes after the drain.
def teardown : List Line :=
  [.cancelHousekeepingTasks, .cancelBackgroundTasks, .close .httpClient, .close .database,
    .close .redis]

-- Under SHUTDOWN_DRAIN_TIMEOUT
def Line.perform (timeout : Nat) (line : Line) (w : World) : World × List Line :=
  match line with
  | dispatch uses => (w.increment, [callNext uses])
  | callNext [] => (w.decrement, [])
  | callNext (service :: uses) =>
      -- an exception goes through the finally
      if service ∈ w.closed then ({ w with severed := w.severed + 1 }, [callNext []])
      else (w, [callNext uses])
  | shutDown => ({ w with shuttingDown := true }, [drain])
  | drain =>
      if w.count = 0 then (w.returns true w.clock, teardown)
      else ({ w with waiting := !w.idle, woken := w.idle }, [wait w.clock])
  | wait since =>
      if w.woken then (w.returns true since, teardown)
      else if since + timeout ≤ w.clock then (w.returns false since, teardown)
      else (w, [wait since])
  | cancelHousekeepingTasks | cancelBackgroundTasks => (w, [])
  | close service => ({ w with closed := service :: w.closed }, [])
  | sleep seconds => ({ w with clock := w.clock + seconds }, [])

abbrev Traffic := Tasks World Line

abbrev Event := Tasks.Event Request

def Traffic.step (timeout : Nat) (t : Traffic) (e : Event) : Traffic :=
  Tasks.step (fun request : Request => [request.line]) (Line.perform timeout) t e

def served (timeout : Nat) (run : List Event) : Traffic :=
  runFrom (Traffic.step timeout) { world := {}, running := [] } run

def Line.handles : Line → Bool
  | callNext _ => true
  | _ => false

-- The requests that are between the increment and the decrement.
def inFlight (t : Traffic) : Nat := (Tasks.gather some t.running).countP Line.handles

-- A server that shuts down does so once, and accepts no request any more.
def Line.Heeds (line : Line) (w : World) : Prop :=
  match line with
  | dispatch _ | shutDown => w.shuttingDown = false
  | _ => True

instance (line : Line) (w : World) : Decidable (line.Heeds w) :=
  match line with
  | .dispatch _ | .shutDown => inferInstanceAs (Decidable (w.shuttingDown = false))
  | .callNext _ | .drain | .wait _ | .cancelHousekeepingTasks | .cancelBackgroundTasks | .close _
  | .sleep _ => isTrue trivial

structure Counted (w : World) (left : List Line) : Prop where
  count : w.count = left.countP Line.handles
  idle : w.idle = true ↔ w.count = 0

-- The lines of a lifespan that shuts down, before the drain is over and after it.
def Line.drains : Line → Bool
  | drain | wait _ => true
  | _ => false

def Line.tearsDown : Line → Bool
  | cancelHousekeepingTasks | cancelBackgroundTasks | close _ => true
  | _ => false

structure Drains (timeout : Nat) (w : World) (left : List Line) : Prop where
  counted : Counted w left
  draining : ∀ line ∈ left, line.drains → w.shuttingDown
  waits : ∀ since, Line.wait since ∈ left → since ≤ w.clock ∧ (w.woken ∨ w.waiting ∧ w.count ≠ 0)
  woken : w.woken → w.shuttingDown ∧ w.count = 0
  waiting : w.waiting → w.shuttingDown
  drained : ∀ seconds, (true, seconds) ∈ w.drained → w.shuttingDown ∧ w.count = 0
  late : ∀ seconds, (false, seconds) ∈ w.drained → timeout ≤ seconds
  torn : (∃ line ∈ left, line.tearsDown) ∨ w.closed ≠ [] → w.drained ≠ []
  severed : w.severed ≠ 0 → ∃ seconds, (false, seconds) ∈ w.drained

section Drains

variable {timeout since : Nat} {w : World} {line next : Line} {lines left others other : List Line}
  {uses : List Service}

theorem Drains.of_perm (h : Drains timeout w left) (hperm : left.Perm other) :
    Drains timeout w other := by
  refine ⟨⟨?_, h.counted.idle⟩, fun line hline => h.draining line (hperm.mem_iff.mpr hline),
    fun since hmem => h.waits since (hperm.mem_iff.mpr hmem), h.woken, h.waiting, h.drained, h.late,
    fun htorn => h.torn (htorn.imp_left ?_), h.severed⟩
  · rw [h.counted.count, hperm.countP_eq]
  · exact fun ⟨line, hline, htears⟩ => ⟨line, hperm.mem_iff.mpr hline, htears⟩

-- A line that turns into others of its kind, in the same world.
theorem Drains.goes (h : Drains timeout w (line :: others))
    (hcount : lines.countP Line.handles = if line.handles then 1 else 0)
    (hdraining : ∀ next ∈ lines, next.drains → w.shuttingDown)
    (hwaits : ∀ since, Line.wait since ∈ lines →
      since ≤ w.clock ∧ (w.woken ∨ w.waiting ∧ w.count ≠ 0))
    (htorn : ∀ next ∈ lines, next.tearsDown → w.drained ≠ []) :
    Drains timeout w (lines ++ others) := by
  have hsame : (lines ++ others).countP Line.handles = (line :: others).countP Line.handles := by
    rw [List.countP_append, hcount, List.countP_cons, Nat.add_comm]
  refine ⟨⟨?_, h.counted.idle⟩, fun next hnext hdrains => ?_, fun since hmem => ?_, h.woken,
    h.waiting, h.drained, h.late, fun hany => ?_, h.severed⟩
  · rw [hsame]
    exact h.counted.count
  · rcases List.mem_append.mp hnext with hnew | hold
    · exact hdraining next hnew hdrains
    · exact h.draining next (List.mem_cons_of_mem _ hold) hdrains
  · rcases List.mem_append.mp hmem with hnew | hold
    · exact hwaits since hnew
    · exact h.waits since (List.mem_cons_of_mem _ hold)
  · rcases hany with ⟨next, hnext, htears⟩ | hclosed
    · rcases List.mem_append.mp hnext with hnew | hold
      · exact htorn next hnew htears
      · exact h.torn (Or.inl ⟨next, List.mem_cons_of_mem _ hold, htears⟩)
    · exact h.torn (Or.inr hclosed)

theorem Drains.ends (h : Drains timeout w (line :: others)) (hline : line.handles = false) :
    Drains timeout w others := by
  have hcount : ([] : List Line).countP Line.handles = if line.handles then 1 else 0 := by
    rw [hline]
    rfl
  have hgone := h.goes hcount nofun nofun nofun
  exact hgone

theorem Drains.dispatch (h : Drains timeout w (.dispatch uses :: others))
    (hopen : w.shuttingDown = false) :
    Drains timeout w.increment (.callNext uses :: others) := by
  have hnot : ¬w.shuttingDown = true := fun hdown => by
    rw [hopen] at hdown
    cases hdown
  have hothers := h.ends rfl
  have hcount := hothers.counted.count
  refine ⟨⟨?_, ?_⟩, fun next hnext hdrains => ?_, fun since hmem => ?_,
    fun hwoken => absurd (h.woken hwoken).1 hnot, h.waiting,
    fun seconds hmem => absurd (h.drained seconds hmem).1 hnot, h.late, fun hany => ?_, h.severed⟩
  · rw [List.countP_cons]
    simp only [World.increment, Line.handles, if_true]
    omega
  · simp only [World.increment, Bool.false_eq_true, false_iff]
    omega
  · rcases List.mem_cons.mp hnext with rfl | hold
    · cases hdrains
    · exact hothers.draining next hold hdrains
  · rcases List.mem_cons.mp hmem with heq | hold
    · cases heq
    · exact absurd (hothers.draining _ hold rfl) hnot
  · refine hothers.torn (hany.imp_left ?_)
    rintro ⟨next, hnext, htears⟩
    rcases List.mem_cons.mp hnext with rfl | hold
    · cases htears
    · exact ⟨next, hold, htears⟩

-- The last request to leave ends the wait.
theorem Drains.decrement (h : Drains timeout w (.callNext [] :: others)) :
    Drains timeout w.decrement others := by
  have hcount : w.count = others.countP Line.handles + 1 := by
    rw [h.counted.count, List.countP_cons]
    rfl
  have hmem {next : Line} (hnext : next ∈ others) : next ∈ .callNext [] :: others :=
    List.mem_cons_of_mem _ hnext
  have hbusy : w.count ≠ 0 := by omega
  unfold World.decrement
  split
  · refine ⟨⟨by dsimp only; omega, by simp⟩, fun next hnext => h.draining next (hmem hnext),
      fun since hnext => ?_, fun hwoken => ?_, h.waiting,
      fun seconds hdrained => ⟨(h.drained seconds hdrained).1, rfl⟩, h.late,
      fun hany => h.torn (hany.imp_left fun ⟨next, hnext, htears⟩ => ⟨next, hmem hnext, htears⟩),
      h.severed⟩
    · obtain ⟨hsince, hwoken | ⟨hwaiting, -⟩⟩ := h.waits since (hmem hnext)
      · exact ⟨hsince, Or.inl (by dsimp only; rw [hwoken]; rfl)⟩
      · exact ⟨hsince, Or.inl (by dsimp only; rw [hwaiting, Bool.or_true])⟩
    · rcases Bool.or_eq_true_iff.mp hwoken with hold | hwaiting
      · exact ⟨(h.woken hold).1, rfl⟩
      · exact ⟨h.waiting hwaiting, rfl⟩
  · refine ⟨⟨by dsimp only; omega, ?_⟩, fun next hnext => h.draining next (hmem hnext),
      fun since hnext => ?_, fun hwoken => absurd (h.woken hwoken).2 hbusy, h.waiting,
      fun seconds hdrained => absurd (h.drained seconds hdrained).2 hbusy, h.late,
      fun hany => h.torn (hany.imp_left fun ⟨next, hnext, htears⟩ => ⟨next, hmem hnext, htears⟩),
      h.severed⟩
    · dsimp only
      rw [h.counted.idle]
      omega
    · obtain ⟨hsince, hwoken | ⟨hwaiting, -⟩⟩ := h.waits since (hmem hnext)
      · exact absurd (h.woken hwoken).2 hbusy
      · exact ⟨hsince, Or.inr ⟨hwaiting, by dsimp only; omega⟩⟩

theorem Drains.returns {drained : Bool} (h : Drains timeout w (line :: others))
    (hline : line.handles = false) (htrue : drained → w.shuttingDown ∧ w.count = 0)
    (hlate : drained = false → timeout ≤ w.clock - since) :
    Drains timeout (w.returns drained since) (teardown ++ others) := by
  have hreturned : Drains timeout (w.returns drained since) (line :: others) := by
    refine ⟨⟨h.counted.count, h.counted.idle⟩, h.draining, h.waits, h.woken, h.waiting,
      fun seconds hmem => ?_, fun seconds hmem => ?_, fun _ => ?_, fun hsevered => ?_⟩
    · rcases List.mem_append.mp hmem with hold | hnew
      · exact h.drained seconds hold
      · cases List.mem_singleton.mp hnew
        exact htrue rfl
    · rcases List.mem_append.mp hmem with hold | hnew
      · exact h.late seconds hold
      · cases List.mem_singleton.mp hnew
        exact hlate rfl
    · exact List.append_ne_nil_of_right_ne_nil _ (List.cons_ne_nil _ _)
    · obtain ⟨seconds, hmem⟩ := h.severed hsevered
      exact ⟨seconds, List.mem_append_left _ hmem⟩
  refine hreturned.goes ?_ (fun next hnext hdrains => ?_) (fun since hmem => ?_) fun _ _ _ => ?_
  · rw [hline]
    rfl
  · simp only [teardown, List.mem_cons, List.not_mem_nil, or_false] at hnext
    rcases hnext with rfl | rfl | rfl | rfl | rfl <;> cases hdrains
  · simp [teardown] at hmem
  · exact List.append_ne_nil_of_right_ne_nil _ (List.cons_ne_nil _ _)

theorem Drains.turns (h : Drains timeout w (line :: others))
    (hcount : next.handles = line.handles) (hdraining : next.drains → w.shuttingDown)
    (hwaits : ∀ since, next = .wait since →
      since ≤ w.clock ∧ (w.woken ∨ w.waiting ∧ w.count ≠ 0))
    (htorn : next.tearsDown → w.drained ≠ []) : Drains timeout w (next :: others) := by
  change Drains timeout w ([next] ++ others)
  refine h.goes ?_ (fun other hother => ?_) (fun since hmem => ?_) fun other hother => ?_
  · rw [List.countP_singleton, hcount]
  · exact List.mem_singleton.mp hother ▸ hdraining
  · exact hwaits since (List.mem_singleton.mp hmem).symm
  · exact List.mem_singleton.mp hother ▸ htorn

theorem Drains.callNext {service : Service}
    (h : Drains timeout w (.callNext (service :: uses) :: others)) (uses' : List Service) :
    Drains timeout w (.callNext uses' :: others) :=
  h.turns rfl nofun nofun nofun

-- A request that finds a service closed, which the drain has not waited for.
theorem Drains.sever (h : Drains timeout w (line :: others)) (hline : line.handles)
    (hclosed : w.closed ≠ []) : Drains timeout { w with severed := w.severed + 1 }
      (line :: others) := by
  refine { h with counted := ⟨h.counted.count, h.counted.idle⟩, severed := fun _ => ?_ }
  obtain ⟨⟨drained, seconds⟩, hmem⟩ := List.exists_mem_of_ne_nil _ (h.torn (Or.inr hclosed))
  cases drained with
  | false => exact ⟨seconds, hmem⟩
  | true =>
    have hcount := h.counted.count
    have hzero := (h.drained seconds hmem).2
    rw [List.countP_cons, if_pos hline] at hcount
    omega

theorem Drains.shutDown (h : Drains timeout w (.shutDown :: others)) :
    Drains timeout { w with shuttingDown := true } (.drain :: others) := by
  have hdown : Drains timeout { w with shuttingDown := true } (.shutDown :: others) :=
    { h with
      counted := ⟨h.counted.count, h.counted.idle⟩
      draining := fun _ _ _ => rfl
      woken := fun hwoken => ⟨rfl, (h.woken hwoken).2⟩
      waiting := fun _ => rfl
      drained := fun seconds hmem => ⟨rfl, (h.drained seconds hmem).2⟩ }
  exact hdown.turns rfl (fun _ => rfl) nofun nofun

theorem Drains.wait (h : Drains timeout w (.drain :: others)) (hbusy : w.count ≠ 0) :
    Drains timeout { w with waiting := !w.idle, woken := w.idle } (.wait w.clock :: others) := by
  have hdown : w.shuttingDown := h.draining _ List.mem_cons_self rfl
  have hidle : w.idle = false := Bool.eq_false_iff.mpr fun hidle => hbusy (h.counted.idle.mp hidle)
  have hwaits : Drains timeout { w with waiting := !w.idle, woken := w.idle }
      (.drain :: others) := by
    rw [hidle]
    exact
      { h with
        counted := ⟨h.counted.count, by rw [← hidle]; exact h.counted.idle⟩
        waits := fun since hmem => ⟨(h.waits since hmem).1, Or.inr ⟨rfl, hbusy⟩⟩
        woken := nofun
        waiting := fun _ => hdown }
  refine hwaits.turns rfl (fun _ => hdown) (fun since heq => ?_) nofun
  cases heq
  refine ⟨Nat.le_refl _, Or.inr ⟨?_, hbusy⟩⟩
  dsimp only
  rw [hidle]
  rfl

theorem Drains.perform (h : Drains timeout w (line :: others)) (hheeds : line.Heeds w) :
    Drains timeout (line.perform timeout w).1 ((line.perform timeout w).2 ++ others) := by
  cases line with
  | dispatch uses => exact h.dispatch hheeds
  | callNext uses =>
    cases uses with
    | nil => exact h.decrement
    | cons service uses =>
      simp only [Line.perform]
      split
      · rename_i hclosed
        exact (h.callNext []).sever rfl (List.ne_nil_of_mem hclosed)
      · exact h.callNext uses
  | shutDown => exact h.shutDown
  | drain =>
    have hdown : w.shuttingDown := h.draining _ List.mem_cons_self rfl
    simp only [Line.perform]
    split
    · rename_i hzero
      exact h.returns rfl (fun _ => ⟨hdown, hzero⟩) nofun
    · rename_i hbusy
      exact h.wait hbusy
  | wait since =>
    have hdown : w.shuttingDown := h.draining _ List.mem_cons_self rfl
    simp only [Line.perform]
    split
    · rename_i hwoken
      exact h.returns rfl (fun _ => h.woken hwoken) nofun
    · split
      · rename_i hlate
        exact h.returns rfl nofun fun _ => by omega
      · exact h
  | cancelHousekeepingTasks => exact h.ends rfl
  | cancelBackgroundTasks => exact h.ends rfl
  | close service =>
    have hdrained := h.torn (Or.inl ⟨_, List.mem_cons_self, rfl⟩)
    have hends := h.ends rfl
    exact { hends with
      counted := ⟨hends.counted.count, hends.counted.idle⟩
      torn := fun _ => hdrained }
  | sleep seconds =>
    have hends := h.ends rfl
    exact { hends with
      counted := ⟨hends.counted.count, hends.counted.idle⟩
      waits := fun since hmem =>
        ⟨Nat.le_add_right_of_le (hends.waits since hmem).1, (hends.waits since hmem).2⟩ }

theorem Drains.joins (h : Drains timeout w left) (hhandles : line.handles = false)
    (hdrains : line.drains = false) (htears : line.tearsDown = false) :
    Drains timeout w (line :: left) := by
  refine { h with
    counted := ⟨?_, h.counted.idle⟩
    draining := fun next hnext hnew => ?_
    waits := fun since hmem => ?_
    torn := fun hany => h.torn (hany.imp_left ?_) }
  · rw [List.countP_cons, hhandles]
    exact h.counted.count
  · rcases List.mem_cons.mp hnext with rfl | hold
    · rw [hdrains] at hnew
      cases hnew
    · exact h.draining next hold hnew
  · rcases List.mem_cons.mp hmem with rfl | hold
    · cases hdrains
    · exact h.waits since hold
  · rintro ⟨next, hnext, hnew⟩
    rcases List.mem_cons.mp hnext with rfl | hold
    · rw [htears] at hnew
      cases hnew
    · exact ⟨next, hold, hnew⟩

theorem Drains.begin (h : Drains timeout w left) (request : Request) :
    Drains timeout w (request.line :: left) := by
  cases request <;> exact h.joins rfl rfl rfl

end Drains

-- What is counted are the requests in flight, and a drain is over once there are none. A service is
-- closed under a request only where the drain has waited for as long as it may.
theorem drains_of_heeds (timeout : Nat) (run : List Event)
    (hrun : Guarded (Traffic.step timeout) (Tasks.Meets fun line w _ => line.Heeds w)
      { world := {}, running := [] } run) :
    (served timeout run).world.count = inFlight (served timeout run) ∧
      (∀ task ∈ (served timeout run).running, ∀ since, Line.wait since ∈ task →
        inFlight (served timeout run) = 0 → (served timeout run).world.woken) ∧
      ((served timeout run).world.closed ≠ [] → inFlight (served timeout run) ≠ 0 →
        ∃ seconds, (false, seconds) ∈ (served timeout run).world.drained ∧ timeout ≤ seconds) ∧
      ((served timeout run).world.severed ≠ 0 →
        ∃ seconds, (false, seconds) ∈ (served timeout run).world.drained ∧ timeout ≤ seconds) := by
  have hstart : Drains timeout {} [] :=
    ⟨⟨rfl, by decide⟩, nofun, nofun, nofun, nofun, nofun, nofun, by simp, by simp⟩
  have hdrains := @Tasks.left_guarded _ _ _ (fun request : Request => [request.line])
    (Line.perform timeout) { world := {}, running := [] } (fun line w _ => line.Heeds w)
    (fun _ w left => Drains timeout w left) (fun _ _ _ _ hperm h => h.of_perm hperm)
    (fun _ _ _ request h => h.begin request) (fun _ _ _ _ h hheeds => h.perform hheeds) run []
    hstart hrun
  have hcount : (served timeout run).world.count = inFlight (served timeout run) :=
    hdrains.counted.count
  refine ⟨hcount, fun task htask since hmem hnone => ?_, fun hclosed hbusy => ?_,
    fun hsevered => ?_⟩
  · have hleft : Line.wait since ∈ Tasks.gather some (served timeout run).running :=
      List.mem_flatMap.mpr ⟨task, htask, by rwa [List.filterMap_some]⟩
    refine (hdrains.waits since hleft).2.resolve_right fun hwaits => hwaits.2 ?_
    exact hcount.trans (congrArg _ hnone)
  · obtain ⟨⟨drained, seconds⟩, hmem⟩ :=
      List.exists_mem_of_ne_nil _ (hdrains.torn (Or.inr hclosed))
    cases drained with
    | false => exact ⟨seconds, hmem, hdrains.late seconds hmem⟩
    | true =>
      have hzero := hcount.symm.trans (hdrains.drained seconds hmem).2
      omega
  · obtain ⟨seconds, hmem⟩ := hdrains.severed hsevered
    exact ⟨seconds, hmem, hdrains.late seconds hmem⟩

-- A request is at work when the server goes down, and has done with the database by then.
def finishing : List Event :=
  [.begin (.http [.redis, .database]), .resume 0, .begin .shutDown, .resume 1, .resume 1, .resume 0,
    .resume 1, .begin (.sleep 3), .resume 2, .resume 0, .resume 0, .resume 1, .resume 1, .resume 1,
    .resume 1, .resume 1, .resume 1]

theorem drains_of_heeds_finishing :
    (served 15 finishing).world.closed = [.redis, .database, .httpClient] ∧
      (served 15 finishing).world.severed = 0 := by
  refine ⟨by decide, Decidable.byContradiction fun hsevered => ?_⟩
  obtain ⟨seconds, hmem, -⟩ := (drains_of_heeds 15 finishing (by decide)).2.2.2 hsevered
  rw [show (served 15 finishing).world.drained = [(true, 3)] from by decide] at hmem
  cases List.mem_singleton.mp hmem

-- A request that comes while the drain has been told that all are done is not waited for.
example : (served 15 [.begin (.http []), .resume 0, .begin .shutDown, .resume 1, .resume 1,
    .resume 0, .begin (.http [.database]), .resume 2, .resume 1, .resume 1, .resume 1, .resume 1,
    .resume 1, .resume 1, .resume 2]).world.severed = 1 := by
  decide

end Draining

end BanchoPrism.Requests
