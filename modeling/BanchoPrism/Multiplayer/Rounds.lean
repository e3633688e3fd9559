import BanchoPrism.Multiplayer.Awards

namespace BanchoPrism

open Library Prog Relation

variable {σ : Type}

-- The scrim of its match that an update was started in, and the round.
structure Stamp where
  scrim : Nat
  round : Nat
  deriving DecidableEq

-- What an update did to a scrim, into being the scrim that was on.
structure Change where
  target : MatchRef
  stamp : Stamp
  into : Option Nat

-- The server with its pending updates. The scrims and rounds of each match are numbered and the
-- changes noted down for the statements; nothing of this is in the code.
structure Arena (σ : Type) where
  world : World
  updates : List (Update σ × Stamp) := []
  scrims : MatchRef → Nat := fun _ => 0
  rounds : MatchRef → Nat := fun _ => 0
  changes : List Change := []

inductive Happening (σ : Type)
  | event (event : Event)
  | resume (i : Nat) (seen : Sighting σ)

section Steps

-- was_playing: the players who are in no slot that is not complete
def Server.wasPlaying (s : Server) (m : Match) : List (Fin 16) :=
  let notPlaying := (List.finRange 16).filterMap fun j =>
    if (m.slots j).status ≠ .complete then (m.slots j).player.map fun q => (s.player q).id
    else none
  (List.finRange 16).filter fun j =>
    (m.slots j).player.any fun q => !notPlaying.contains (s.player q).id

-- MatchComplete, if it comes to its end, starts an update for a round of a scrim.
def spawned (s : Server) (p : PlayerRef) : Option (MatchRef × List (Fin 16)) := do
  let r ← (s.player p).matchRef
  let i ← (s.matchAt r).getSlotId p
  let m := (s.modifySlot r i fun slot => { slot with status := .complete }).matchAt r
  match matchComplete p s with
  | (.error _, _) => none
  | (.ok (), t) =>
      if m.anySlot (fun slot => decide (slot.status = .playing)) ∨ !(t.matchAt r).isScrimming then
        none
      else some (r, s.wasPlaying m)

def Event.spawned (w : World) : Event → Option (MatchRef × List (Fin 16))
  | .packet p .complete _ =>
      if p < w.server.nextPlayer then BanchoPrism.spawned w.server p else none
  | _ => none

namespace Arena

def matchAt (a : Arena σ) (r : MatchRef) : Match := a.world.server.matchAt r

def spawn (a : Arena σ) (r : MatchRef) (wasPlaying : List (Fin 16)) : Arena σ :=
  let round := a.rounds r + 1
  { a with
    updates := a.updates ++
      [({ target := r, wasPlaying := wasPlaying }, { scrim := a.scrims r, round := round })]
    rounds := Function.update a.rounds r round }

-- A scrim that is on now and was not before is a new one.
def happen (a : Arena σ) (event : Event) : Arena σ :=
  let world := a.world.step event
  let b := { a with
    world := world
    scrims := fun r =>
      if (world.server.matchAt r).isScrimming ∧ !(a.matchAt r).isScrimming then a.scrims r + 1
      else a.scrims r }
  match event.spawned a.world with
  | some (r, wasPlaying) => b.spawn r wasPlaying
  | none => b

def into (a : Arena σ) (r : MatchRef) : Option Nat :=
  if (a.matchAt r).isScrimming then some (a.scrims r) else none

def resume (num : Numbers σ) (a : Arena σ) (i : Nat) (seen : Sighting σ) (u : Update σ)
    (stamp : Stamp) : Arena σ :=
  let outcome := u.resume num seen a.world.server
  { a with
    world := { a.world with server := outcome.2 }
    updates :=
      match outcome.1 with
      | .ok (some next) => a.updates.set i (next, stamp)
      | _ => a.updates.eraseIdx i
    changes :=
      if (outcome.2.matchAt u.target).scrim = (a.matchAt u.target).scrim then a.changes
      else a.changes ++ [{ target := u.target, stamp := stamp, into := a.into u.target }] }

def step (num : Numbers σ) (a : Arena σ) : Happening σ → Arena σ
  | .event event => a.happen event
  | .resume i seen =>
      match a.updates[i]? with
      | some (u, stamp) => a.resume num i seen u stamp
      | none => a

def start (setup : Setup) : Arena σ := { world := setup.start }

-- What a change of this stamp has to find: its own scrim, and no later round in it.
structure Current (a : Arena σ) (r : MatchRef) (stamp : Stamp) : Prop where
  scrim : a.into r = some stamp.scrim
  round : ∀ change ∈ a.changes, change.target = r → change.stamp.scrim = stamp.scrim →
    change.stamp.round < stamp.round

theorem current_iff {a : Arena σ} {r : MatchRef} {stamp : Stamp} : a.Current r stamp ↔
    a.into r = some stamp.scrim ∧ ∀ change ∈ a.changes, change.target = r →
      change.stamp.scrim = stamp.scrim → change.stamp.round < stamp.round :=
  ⟨fun h => ⟨h.scrim, h.round⟩, fun h => ⟨h.1, h.2⟩⟩

instance Current.decidable (a : Arena σ) (r : MatchRef) (stamp : Stamp) :
    Decidable (a.Current r stamp) := decidable_of_iff _ current_iff.symm

-- An update that counts somebody goes on in its own scrim, ahead of the later rounds, and in a
-- match whose team type has such contestants.
def Timely (num : Numbers σ) (a : Arena σ) : Happening σ → Prop
  | .event _ => True
  | .resume i seen => ∀ pending ∈ a.updates[i]?,
      ∀ k ∈ pending.1.contestants num (a.matchAt pending.1.target) seen,
        a.Current pending.1.target pending.2 ∧ k.Suits (a.matchAt pending.1.target).teamType

instance Timely.decidable (num : Numbers σ) (a : Arena σ) (happening : Happening σ) :
    Decidable (a.Timely num happening) :=
  match happening with
  | .event _ => isTrue trivial
  | .resume i _ => inferInstanceAs (Decidable (∀ pending ∈ a.updates[i]?, _))

-- Every scrim is sound, and each change was made to the scrim it is for, round after round.
structure Fair (a : Arena σ) : Prop where
  sound : ∀ r, (a.matchAt r).scrim.Sound
  own : ∀ change ∈ a.changes, change.into = some change.stamp.scrim
  order : a.changes.Pairwise fun first second => first.target = second.target →
    first.stamp.scrim = second.stamp.scrim → first.stamp.round < second.stamp.round

end Arena

end Steps

section Runs

variable {num : Numbers σ} {a : Arena σ}

theorem happen_matchAt (event : Event) (r : MatchRef) :
    (a.happen event).matchAt r = (a.world.step event).server.matchAt r := by
  unfold Arena.happen
  dsimp only
  split <;> rfl

theorem happen_changes (event : Event) : (a.happen event).changes = a.changes := by
  unfold Arena.happen
  dsimp only
  split <;> rfl

theorem happen_fair (event : Event) (h : a.Fair) : (a.happen event).Fair := by
  refine ⟨fun r => ?_, ?_, ?_⟩
  · rw [happen_matchAt]
    exact Scrim.sound_of_steps (step_scrims a.world event r) (h.sound r)
  · rw [happen_changes]
    exact h.own
  · rw [happen_changes]
    exact h.order

theorem current_on {r : MatchRef} {stamp : Stamp} (h : a.Current r stamp) :
    (a.matchAt r).isScrimming := by
  have hinto := h.scrim
  unfold Arena.into at hinto
  split at hinto
  · assumption
  · cases hinto

theorem resume_fair {i : Nat} {seen : Sighting σ} {u : Update σ} {stamp : Stamp}
    (hcounts : ∀ k ∈ u.contestants num (a.matchAt u.target) seen,
      a.Current u.target stamp ∧ k.Suits (a.matchAt u.target).teamType) (h : a.Fair) :
    (a.resume num i seen u stamp).Fair := by
  have halters := @Update.resume_outcome σ num seen a.world.server u fun k hk => (hcounts k hk).2
  have hsame : u.contestants num (a.matchAt u.target) seen = [] →
      ((u.resume num seen a.world.server).2.matchAt u.target).scrim = (a.matchAt u.target).scrim :=
    halters.scrim.2
  have hcurrent : ((u.resume num seen a.world.server).2.matchAt u.target).scrim ≠
      (a.matchAt u.target).scrim → a.Current u.target stamp := by
    intro hchanged
    obtain ⟨k, hk⟩ := List.exists_mem_of_ne_nil _ fun hnobody => hchanged (hsame hnobody)
    exact (hcounts k hk).1
  refine ⟨fun r => ?_, ?_, ?_⟩
  · show ((u.resume num seen a.world.server).2.matchAt r).scrim.Sound
    by_cases hr : r = u.target
    · subst hr
      by_cases hchanged : ((u.resume num seen a.world.server).2.matchAt u.target).scrim =
          (a.matchAt u.target).scrim
      · rw [hchanged]
        exact h.sound u.target
      · exact halters.scrim.1.sound (current_on (hcurrent hchanged)) (h.sound u.target)
    · rw [halters.others r hr]
      exact h.sound r
  · unfold Arena.resume
    dsimp only
    split
    · exact h.own
    · rename_i hchanged
      intro change hmem
      rcases List.mem_append.mp hmem with hold | hnew
      · exact h.own change hold
      · obtain rfl := List.mem_singleton.mp hnew
        exact (hcurrent hchanged).scrim
  · unfold Arena.resume
    dsimp only
    split
    · exact h.order
    · rename_i hchanged
      refine List.pairwise_append.mpr ⟨h.order, List.pairwise_singleton _ _, ?_⟩
      intro first hfirst second hsecond htarget hscrim
      obtain rfl := List.mem_singleton.mp hsecond
      exact (hcurrent hchanged).round first hfirst htarget hscrim

theorem step_fair {happening : Happening σ} (htimely : a.Timely num happening) (h : a.Fair) :
    (a.step num happening).Fair := by
  cases happening with
  | event event => exact happen_fair event h
  | resume i seen =>
    unfold Arena.step
    dsimp only
    split
    · rename_i u stamp hpending
      exact resume_fair (htimely (u, stamp) hpending) h
    · exact h

theorem start_fair (setup : Setup) : (Arena.start setup : Arena σ).Fair := by
  refine ⟨fun r => ?_, fun change hmem => absurd hmem List.not_mem_nil, List.Pairwise.nil⟩
  show (setup.start.server.matchAt r).scrim.Sound
  rw [(start_matches setup).2]
  exact Scrim.Sound.blank

-- The points of a scrim along every run whose updates come in time.
theorem scrims_fair (num : Numbers σ) (setup : Setup) (run : List (Happening σ))
    (h : Guarded (Arena.step num) (Arena.Timely num) (Arena.start setup) run) :
    (runFrom (Arena.step num) (Arena.start setup) run).Fair :=
  Guarded.invariant Arena.Fair (fun _ _ hfair htimely => step_fair htimely hfair)
    (start_fair setup) h

def counting : Numbers Nat where
  zero := 0
  add := (· + ·)
  less a b := decide (a < b)
  equal a b := decide (a = b)
  truthy n := decide (n ≠ 0)
  average ns := ns.sum / ns.length
  str := toString
  fixed n := toString n ++ ".00"

def refereed : Setup :=
  { decimal := fun text => if text = "3" then some 3 else if text = "1" then some 1 else none }

def said (p : PlayerRef) (text : String) (args : List String) : Happening Nat :=
  let message := Packet.sendMessage ("!mp " ++ text) "#multiplayer" (some (text, args))
  .event (.packet p message { now := 10 })

-- What is there of player 1 once the score is in.
def sighting (submitted : Bool) : Sighting Nat where
  totalLength := some 100
  recentScore p :=
    if submitted ∧ p = 1 then
      some { mapMd5 := some "", serverTime := 0, score := 7, acc := 98, maxCombo := 5, pp := 40 }
    else none
  now := 0

-- Player 1 alone in a scrim to two points; the first round is over and the update waits.
def firstRound : List (Happening Nat) :=
  [.event (visit 11), .event (.packet 1 (.createMatch (plainMatch 11)) { now := 10 }),
    said 1 "scrim" ["3"], .event (.packet 1 .start { now := 10 }),
    .event (.packet 1 .complete { now := 10 }), .resume 0 (sighting false),
    .resume 0 (sighting false)]

theorem scrims_fair_firstRound :
    let a := runFrom (Arena.step counting) (Arena.start refereed)
      (firstRound ++ [.resume 0 (sighting true)])
    a.Fair ∧ (a.matchAt 0).scrim.winners = [some (.player 1)] := by
  intro a
  exact ⟨scrims_fair counting refereed _ (by decide +kernel), by decide +kernel⟩

-- The scrim is ended while the update waits; its point is there when the next scrim starts,
-- which is to one point.
theorem not_scrims_fair :
    ¬(runFrom (Arena.step counting) (Arena.start refereed)
      (firstRound ++ [said 1 "endscrim" [], .resume 0 (sighting true),
        said 1 "scrim" ["1"]])).Fair := by
  intro hfair
  have hbelow := (hfair.sound 0).below (by decide +kernel) (.player 1)
  revert hbelow
  decide +kernel

end Runs

end BanchoPrism
