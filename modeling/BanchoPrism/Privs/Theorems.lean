import BanchoPrism.Library.Run
import BanchoPrism.Library.Writes
import BanchoPrism.Privs.Account
import Mathlib.Data.List.Induction

namespace BanchoPrism.Privs

open Library Account

-- The value that the last change of a bit gave it.
def lastValue (original : Privileges) (changes : List Change) (bit : Nat) : Bool :=
  match changes.reverse.find? fun change => change.bits.testBit bit with
  | some change => change.value
  | none => original.testBit bit

structure Kept (s : Account) : Prop where
  row : ∀ bit, s.row.priv.testBit bit = lastValue s.original s.changes bit
  sessions : ∀ p ∈ s.sessions, (s.player p).priv = s.row.priv

-- What the changes made so far leave of what the row held at the start.
def Account.latest (s : Account) : Privileges :=
  s.changes.foldl (fun priv change => change.apply priv) s.original

-- A change or a new session starts from the privileges of the account, and a change
-- that changes them leaves no other session with the old ones.
def Stretch.UpToDate (s : Account) : Stretch → Prop
  | .change p made _ => (s.player p).priv = s.latest ∧
      ∀ q ∈ s.sessions, q ≠ p → made.apply s.latest = s.latest
  | .append p => (s.player p).priv = s.latest
  | _ => True

-- The privileges that a task is to write.
def Task.write : Task → Option Privileges
  | .writing _ (.priv value) _ => some value
  | _ => none

-- Nothing is done to an old copy of the privileges, and their UPDATEs execute in the
-- order in which they were issued.
def Event.UpToDate (s : Account) : Event → Prop
  | .command cmd => ∀ op ∈ cmd.operation, (s.fromCacheOrSql op).UpToDate s
  | .execute i => ∀ task ∈ s.tasks[i]?, task.write.isSome →
      ∀ older ∈ s.tasks.take i, older.write = none
  | .resume i _ => ∀ next ∈ s.tasks[i]?.bind s.next, next.2.UpToDate next.1
  | _ => True

instance (s : Account) (stretch : Stretch) : Decidable (stretch.UpToDate s) := by
  unfold Stretch.UpToDate
  split <;> infer_instance

instance (s : Account) (event : Event) : Decidable (event.UpToDate s) := by
  unfold Event.UpToDate
  split <;> infer_instance

section Bits

theorem Change.apply_testBit (change : Change) (priv : Privileges) (bit : Nat) :
    (change.apply priv).testBit bit =
      if change.bits.testBit bit then change.value else priv.testBit bit := by
  cases change with
  | add bits =>
    simp only [Change.apply, Change.bits, Change.value, Nat.testBit_or]
    rcases Bool.eq_false_or_eq_true (bits.testBit bit) with hb | hb <;> simp [hb]
  | remove bits =>
    simp only [Change.apply, Change.bits, Change.value, Nat.testBit_xor, Nat.testBit_and]
    rcases Bool.eq_false_or_eq_true (bits.testBit bit) with hb | hb <;> simp [hb]

theorem lastValue_append (original : Privileges) (changes : List Change) (change : Change)
    (bit : Nat) : lastValue original (changes ++ [change]) bit =
      if change.bits.testBit bit then change.value else lastValue original changes bit := by
  unfold lastValue
  rw [List.reverse_append, List.reverse_singleton, List.singleton_append, List.find?_cons]
  cases change.bits.testBit bit <;> rfl

-- By induction on the changes, the last one first.
theorem foldl_testBit (original : Privileges) (changes : List Change) (bit : Nat) :
    (changes.foldl (fun priv change => change.apply priv) original).testBit bit =
      lastValue original changes bit := by
  induction changes using List.reverseRecOn with
  | nil => rfl
  | append_singleton changes change ih =>
    rw [List.foldl_concat, Change.apply_testBit, lastValue_append, ih]

theorem Account.latest_testBit (s : Account) (bit : Nat) :
    s.latest.testBit bit = lastValue s.original s.changes bit :=
  foldl_testBit s.original s.changes bit

end Bits

section Players

variable {s : Account} {p : PlayerRef} {n : Nat}

-- The Players of tasks and stretches have been built.
def Task.Built (n : Nat) : Task → Prop
  | .submitting p => p < n
  | .writing p _ _ => p < n
  | .written p _ => p < n
  | _ => True

def Stretch.Built (n : Nat) : Stretch → Prop
  | .change p _ _ => p < n
  | .setDonorEnd p _ _ => p < n
  | .append p => p < n
  | .wait task => task.Built n ∧ task.write = none
  | _ => True

theorem Task.Built.mono {task : Task} (h : task.Built n) : task.Built (n + 1) := by
  cases task with
  | submitting p => exact Nat.lt_succ_of_lt h
  | writing p statement rest => exact Nat.lt_succ_of_lt h
  | written p rest => exact Nat.lt_succ_of_lt h
  | selecting op => trivial
  | selected op row => trivial
  | expired => trivial
  | entering row => trivial

theorem act_built (s : Account) (hp : p < n) (op : Operation) : (s.act p op).Built n := by
  cases op with
  | restrict developer =>
    dsimp only [act]
    split
    · trivial
    · split <;> trivial
  | unrestrict developer =>
    dsimp only [act]
    split
    · trivial
    · split <;> trivial
  | addpriv bits =>
    dsimp only [act]
    split <;> trivial
  | rmpriv bits => exact hp
  | givedonator timespan now =>
    rcases timespan with _ | timespan
    · trivial
    · dsimp only [act]
      split
      · trivial
      · split <;> trivial
  | expire => exact hp
  | missingReplay =>
    dsimp only [act]
    split <;> trivial

theorem welcome_built (s : Account) (hp : p < n) : (s.welcome p).Built n := by
  unfold welcome
  split
  · exact hp
  · split <;> exact hp

theorem goOn_built (s : Account) (hp : p < n) (rest : Rest) : (s.goOn p rest).Built n := by
  cases rest with
  | finish => trivial
  | logout => trivial
  | resetDonor => exact hp
  | addSupporter => exact hp
  | verified =>
    dsimp only [goOn]
    split <;> exact hp
  | welcomed => exact hp

theorem fromCacheOrSql_built (hcached : ∀ p ∈ s.cached, p < n) (op : Operation) :
    (s.fromCacheOrSql op).Built n := by
  unfold fromCacheOrSql
  split
  · rename_i p hp
    exact act_built s (hcached p hp) op
  · exact ⟨trivial, rfl⟩

end Players

section Steps

variable {s : Account} {i : Nat}

-- The row holds the privileges of the account once the UPDATEs under way have
-- executed, and each session holds them now.
structure Current (s : Account) : Prop where
  row : settled s.row.priv (s.tasks.filterMap Task.write) = s.latest
  sessions : ∀ p ∈ s.sessions, (s.player p).priv = s.latest
  listed : ∀ p ∈ s.sessions, p < s.nextPlayer
  cached : ∀ p ∈ s.cached, p < s.nextPlayer
  tasks : ∀ task ∈ s.tasks, task.Built s.nextPlayer

theorem Current.eraseIdx (h : Current s) {task : Task} (htask : s.tasks[i]? = some task)
    (hnone : task.write = none) : Current { s with tasks := s.tasks.eraseIdx i } :=
  { h with
    row := by
      dsimp only
      rw [filterMap_eraseIdx htask hnone]
      exact h.row
    tasks := fun t ht => h.tasks t ((List.eraseIdx_sublist s.tasks i).subset ht) }

theorem Current.wait (h : Current s) {task : Task} (hbuilt : task.Built s.nextPlayer)
    (hnone : task.write = none) : Current { s with tasks := s.tasks ++ [task] } :=
  { h with
    row := by
      dsimp only
      rw [List.filterMap_append, List.filterMap_cons_none hnone, List.filterMap_nil,
        List.append_nil]
      exact h.row
    tasks := fun t ht => (List.mem_append.mp ht).elim (h.tasks t) fun ht =>
      List.mem_singleton.mp ht ▸ hbuilt }

-- A new Player is none of the sessions.
theorem Current.build (h : Current s) (row : Holding) : Current (s.build row) where
  row := h.row
  sessions p hp := by
    have hne : p ≠ s.nextPlayer := Nat.ne_of_lt (h.listed p hp)
    dsimp only [Account.build]
    rw [Function.update_of_ne hne]
    exact h.sessions p hp
  listed p hp := Nat.lt_succ_of_lt (h.listed p hp)
  cached p hp := Nat.lt_succ_of_lt (h.cached p hp)
  tasks task htask := (h.tasks task htask).mono

theorem Current.remove (h : Current s) (p : PlayerRef) : Current (s.remove p) := by
  unfold Account.remove
  split
  · exact { h with
      sessions := fun q hq => h.sessions q (List.mem_of_mem_erase hq)
      listed := fun q hq => h.listed q (List.mem_of_mem_erase hq)
      cached := fun q hq => by cases hq }
  · exact h

theorem Current.logout (h : Current s) (p : PlayerRef) (leaves : Bool) :
    Current (s.logout p leaves) := by
  unfold Account.logout
  split
  · exact h.remove p
  · exact h

theorem Current.append (h : Current s) {p : PlayerRef} (hp : p < s.nextPlayer)
    (hlatest : (s.player p).priv = s.latest) : Current (s.append p) := by
  unfold Account.append
  split
  · exact h
  · have hsplit : ∀ q ∈ s.sessions ++ [p], q ∈ s.sessions ∨ q = p := fun q hq =>
      (List.mem_append.mp hq).imp_right List.mem_singleton.mp
    exact { h with
      sessions := fun q hq => (hsplit q hq).elim (h.sessions q) fun hq => hq ▸ hlatest
      listed := fun q hq => (hsplit q hq).elim (h.listed q) fun hq => hq ▸ hp
      cached := fun q hq => by
        obtain rfl : p = q := Option.some.inj hq
        exact hp }

theorem Current.setDonorEnd (h : Current s) {p : PlayerRef} (hp : p < s.nextPlayer)
    (donorEnd : Int) (rest : Rest) (leaves : Bool) :
    Current (s.perform leaves (.setDonorEnd p donorEnd rest)) := by
  have hwait := @Current.wait _ h (.writing p (.donorEnd donorEnd) rest) hp rfl
  refine { hwait with sessions := fun q hq => ?_ }
  dsimp only [Account.perform, Account.modify]
  by_cases hqp : q = p
  · subst hqp
    rw [Function.update_self]
    exact h.sessions q hq
  · rw [Function.update_of_ne hqp]
    exact h.sessions q hq

theorem Current.change (h : Current s) {p : PlayerRef} {change : Change} {rest : Rest}
    (hp : p < s.nextPlayer) (hup : (Stretch.change p change rest).UpToDate s) (leaves : Bool) :
    Current (s.perform leaves (.change p change rest)) := by
  obtain ⟨hself, hothers⟩ := hup
  have hlatest : (s.perform leaves (.change p change rest)).latest = change.apply s.latest :=
    List.foldl_concat _ _ _ _
  constructor
  case row =>
    rw [hlatest, ← hself]
    dsimp only [Account.perform]
    rw [List.filterMap_append]
    exact settled.issue _ _ _
  case sessions =>
    intro q hq
    rw [hlatest]
    dsimp only [Account.perform, Account.modify]
    by_cases hqp : q = p
    · subst hqp
      rw [Function.update_self, hself]
    · rw [Function.update_of_ne hqp, h.sessions q hq]
      exact (hothers q hq hqp).symm
  case listed => exact h.listed
  case cached => exact h.cached
  case tasks =>
    intro task htask
    rcases List.mem_append.mp htask with htask | htask
    · exact h.tasks task htask
    · rw [List.mem_singleton.mp htask]
      exact hp

theorem Current.perform (h : Current s) {stretch : Stretch}
    (hbuilt : stretch.Built s.nextPlayer) (hup : stretch.UpToDate s) (leaves : Bool) :
    Current (s.perform leaves stretch) := by
  cases stretch with
  | finish => exact h
  | change p change rest => exact h.change hbuilt hup leaves
  | setDonorEnd p donorEnd rest => exact h.setDonorEnd hbuilt donorEnd rest leaves
  | append p => exact h.append hbuilt hup
  | logout p => exact h.logout p leaves
  | wait task => exact h.wait hbuilt.1 hbuilt.2

-- A task that goes on was not waiting for a statement, and its Player is there.
theorem Current.next (h : Current s) {task : Task} (hbuilt : task.Built s.nextPlayer)
    {next : Account × Stretch} (hnext : s.next task = some next) :
    task.write = none ∧ Current next.1 ∧ next.1.tasks = s.tasks ∧
      next.2.Built next.1.nextPlayer := by
  cases task with
  | selecting op => cases hnext
  | selected op row =>
    obtain rfl := Option.some.inj hnext
    exact ⟨rfl, h.build row, rfl, act_built _ (Nat.lt_succ_self _) op⟩
  | expired =>
    obtain rfl := Option.some.inj hnext
    exact ⟨rfl, h, rfl, fromCacheOrSql_built h.cached _⟩
  | submitting p =>
    obtain rfl := Option.some.inj hnext
    exact ⟨rfl, h, rfl, act_built s hbuilt .missingReplay⟩
  | entering row =>
    obtain rfl := Option.some.inj hnext
    exact ⟨rfl, h.build row, rfl, welcome_built _ (Nat.lt_succ_self _)⟩
  | writing p statement rest => cases hnext
  | written p rest =>
    obtain rfl := Option.some.inj hnext
    exact ⟨rfl, h, rfl, goOn_built _ hbuilt rest⟩

theorem Current.resume (h : Current s) {leaves : Bool}
    (hup : (Event.resume i leaves).UpToDate s) : Current (s.resume i leaves) := by
  unfold Account.resume
  split
  · exact h
  rename_i t stretch hnext
  obtain ⟨task, htask, hrun⟩ := Option.bind_eq_some_iff.mp hnext
  obtain ⟨hnone, hcurrent, htasks, hbuilt⟩ :=
    h.next (h.tasks task (List.mem_of_getElem? htask)) hrun
  dsimp only at hcurrent htasks hbuilt
  rw [← htasks] at htask ⊢
  exact (hcurrent.eraseIdx htask hnone).perform hbuilt (hup _ hnext) leaves

theorem Current.execute (h : Current s) (hup : (Event.execute i).UpToDate s) :
    Current (s.execute i) := by
  have hset : ∀ {task task' : Task}, s.tasks[i]? = some task → task'.Built s.nextPlayer →
      ∀ t ∈ s.tasks.set i task', t.Built s.nextPlayer := fun _ hbuilt t ht =>
    (List.mem_or_eq_of_mem_set ht).elim (h.tasks t) fun ht => ht ▸ hbuilt
  unfold Account.execute
  split
  · rename_i op htask
    refine { h with row := ?_, tasks := hset htask trivial }
    dsimp only
    rw [filterMap_set htask rfl rfl]
    exact h.row
  · rename_i p statement rest htask
    have hp : p < s.nextPlayer := h.tasks _ (List.mem_of_getElem? htask)
    refine { h with row := ?_, tasks := hset htask hp }
    dsimp only
    cases statement with
    | priv value =>
      have hrow := h.row
      have hfirst := @filterMap_first _ _ value Task.write _ _ (.written p rest) _ htask rfl rfl
        (hup _ htask rfl)
      rw [hfirst, ← settled.land] at hrow
      exact hrow
    | donorEnd value =>
      rw [filterMap_set htask rfl rfl]
      exact h.row
  · exact h

theorem Current.refuse (h : Current s) (i : Nat) : Current (s.refuse i) := by
  unfold Account.refuse
  split
  · rename_i row htask
    exact h.eraseIdx htask rfl
  · exact h

theorem Current.step (h : Current s) {event : Event} (hup : event.UpToDate s) :
    Current (s.step event) := by
  cases event with
  | command command =>
    dsimp only [Account.step]
    split
    · exact h
    · rename_i op hop
      exact h.perform (fromCacheOrSql_built h.cached op) (hup op hop) true
  | sweep now =>
    dsimp only [Account.step]
    split
    · exact h.wait trivial rfl
    · exact h
  | submit =>
    dsimp only [Account.step]
    split
    · exact h
    · rename_i p hp
      exact h.wait (h.cached p hp) rfl
  | authenticate tourney =>
    dsimp only [Account.step]
    split
    · exact h
    · exact h.wait trivial rfl
  | refuse i => exact h.refuse i
  | execute i => exact h.execute hup
  | resume i leaves => exact h.resume hup
  | logout p leaves => exact h.logout p leaves

theorem Current.start (id : Nat) (row : Holding) : Current (Account.start id row) where
  row := rfl
  sessions p hp := by cases hp
  listed p hp := by cases hp
  cached p hp := by cases hp
  tasks task htask := by cases htask

-- With no UPDATE under way the row has the privileges of the account.
theorem Current.kept (h : Current s) (hdone : s.tasks = []) : Kept s := by
  have hrow : s.row.priv = s.latest := by
    have hsettled := h.row
    rwa [hdone] at hsettled
  constructor
  · intro bit
    rw [hrow]
    exact s.latest_testBit bit
  · intro p hp
    rw [hrow]
    exact h.sessions p hp

end Steps

section Runs

-- When no operation or login goes on with old privileges and the UPDATEs execute in
-- order, no change is lost once all have finished.
theorem kept_of_upToDate (id : Nat) (row : Holding) (run : List Event)
    (h : Guarded step (fun s event => event.UpToDate s) (start id row) run)
    (hdone : (runFrom step (start id row) run).tasks = []) :
    Kept (runFrom step (start id row) run) := by
  have hcurrent := Guarded.invariant Current (fun _ _ hs hup => hs.step hup)
    (Current.start id row) h
  exact hcurrent.kept hdone

-- The first login of a new account.
def firstLogin : List Event :=
  [.authenticate false, .resume 0 true, .execute 0, .resume 0 true]

-- A user logs in for the first time, is restricted while online, loses a role that they
-- do not have and logs in again.
theorem kept_of_upToDate_restricted :
    Kept (runFrom step (start 7 { priv := 1, donorEnd := 0 })
      (firstLogin ++ ([.command (.restrict false), .execute 0, .resume 0 true,
        .command (.rmpriv ["alumni", "mod"]), .execute 0, .resume 0 true, .execute 0,
        .resume 0 true, .authenticate false, .resume 0 true] : List Event))) :=
  kept_of_upToDate 7 { priv := 1, donorEnd := 0 } _ (by decide) (by rfl)

-- An account is restricted while its first login has read the row: the login writes
-- the old privileges back.
theorem kept_restrictedAtLogin :
    ¬∀ run : List Event, (runFrom step (start 7 { priv := 1, donorEnd := 0 }) run).tasks = [] →
      Kept (runFrom step (start 7 { priv := 1, donorEnd := 0 }) run) := by
  intro h
  have hkept := h [.authenticate false, .command (.restrict false), .execute 1, .resume 1 true,
    .execute 1, .resume 1 true, .resume 0 true, .execute 0, .resume 0 true] (by rfl)
  have hbit := hkept.row 0
  revert hbit
  decide

end Runs

end BanchoPrism.Privs
