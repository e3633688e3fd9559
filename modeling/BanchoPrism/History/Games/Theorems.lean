import BanchoPrism.History.Games.Rounds
import BanchoPrism.Multiplayer.SeatsAgree

namespace BanchoPrism.History

open Library

namespace Games

variable {s : Games} {event : BanchoPrism.Event}

section Recording

-- Whoever was playing is in a slot that is complete.
theorem mem_wasPlaying {t : Server} {m : Match} {q : PlayerRef} {slot : Slot}
    (h : (q, slot) ∈ wasPlaying t m) :
    ∃ i, m.slots i = slot ∧ slot.player = some q ∧ slot.status = .complete := by
  obtain ⟨i, -, hi⟩ := List.mem_filterMap.mp h
  obtain ⟨q', hq, hi⟩ := Option.bind_eq_some_iff.mp hi
  split at hi
  · cases hi
  rename_i hnot
  cases hi
  refine ⟨i, rfl, hq, ?_⟩
  by_contra hstatus
  refine hnot (List.mem_filterMap.mpr ⟨i, List.mem_finRange i, ?_⟩)
  rw [if_pos hstatus, hq]
  rfl

-- When somebody who takes part completes a game, all that are complete took part
-- and have what they sent.
theorem wasPlaying_told {t : Server} {round : Round} {m : Match} {i : Fin 16}
    (h : Told round m.game) (hfair : Play.Fair round m.game (.complete i)) {q : PlayerRef}
    {slot : Slot} (hq : (q, slot) ∈ wasPlaying t (completing m i)) :
    q ∈ round.started ∧ slot.lastScoreFrame = round.frame q ∧ slot.passed = !round.failed q := by
  obtain ⟨hin, p, hp, hstart⟩ := hfair
  obtain ⟨j, hslot, hplayer, hstatus⟩ := mem_wasPlaying hq
  have hseat : slot.player = (m.slots j).player ∧ slot.lastScoreFrame = (m.slots j).lastScoreFrame ∧
      slot.passed = (m.slots j).passed ∧ (j = i ∨ (m.slots j).status = .complete) := by
    subst hslot
    unfold completing at hstatus ⊢
    dsimp only at hstatus ⊢
    by_cases hj : j = i
    · subst hj
      simp
    · rw [Function.update_of_ne hj] at hstatus ⊢
      exact ⟨rfl, rfl, rfl, Or.inr hstatus⟩
  obtain ⟨hsame, hframe, hpassed, hj⟩ := hseat
  have hqj : (m.game.seats j).player = some q := hsame.symm.trans hplayer
  have hstarted : q ∈ round.started := by
    rcases hj with rfl | hcomplete
    · obtain rfl : p = q := Option.some.inj (Option.mem_def.mp hp ▸ hqj)
      exact hstart
    · refine (h.seat j).started hin q hqj ?_
      have hphase : (m.game.seats j).phase = .complete := (complete_iff _).mp hcomplete
      rw [hphase]
      exact Phase.noConfusion
  have hsent := (h.seat j).sent hin q hqj hstarted
  exact ⟨hstarted, hframe.trans hsent.1, hpassed.trans hsent.2⟩

theorem record_faithful {r : MatchRef} {i : Fin 16} {g : Recorded}
    (h : Told (s.rounds r) (s.server.game r))
    (hfair : Play.Fair (s.rounds r) (s.server.game r) (.complete i)) (hg : s.record r i = some g) :
    g.Faithful := by
  obtain ⟨matchDbId, -, rfl⟩ := Option.map_eq_some_iff.mp hg
  have htold : ∀ entry ∈ wasPlaying s.server (completing (s.server.matchAt r) i),
      entry.1 ∈ (s.rounds r).started ∧ entry.2.lastScoreFrame = (s.rounds r).frame entry.1 ∧
        entry.2.passed = !(s.rounds r).failed entry.1 := fun entry hentry =>
    wasPlaying_told h hfair hentry
  constructor
  · exact hfair.1
  · intro p hp
    obtain ⟨entry, hentry, rfl⟩ := List.mem_map.mp hp
    exact (htold entry hentry).1
  · simp only [completedGame, List.map_map]
    rfl
  · simp only [completedGame, List.map_filterMap, List.filterMap_map]
    refine List.filterMap_congr fun entry hentry => ?_
    obtain ⟨-, hframe, hpassed⟩ := htold entry hentry
    simp only [scoreFrame, Function.comp_apply, ← hframe, ← hpassed, Option.map_map]
    rfl

theorem ends_eq_some {t : Server} {p : PlayerRef} {r : MatchRef} {i : Fin 16}
    (h : ends t p = some (r, i)) :
    ownPlay t p .complete = some (r, .complete i) ∧
      ¬(completing (t.matchAt r) i).anySlot fun slot => decide (slot.status = .playing) := by
  unfold ends at h
  obtain ⟨r', hr, h⟩ := Option.bind_eq_some_iff.mp h
  obtain ⟨i', hi, h⟩ := Option.bind_eq_some_iff.mp h
  split at h
  · cases h
  rename_i hplaying
  split at h
  · cases h
    refine ⟨?_, hplaying⟩
    unfold ownPlay
    rw [hr, Option.bind_some, hi]
    rfl
  · cases h

-- A recorded game is one that a MATCH_COMPLETE has ended.
theorem recorded_eq_some {g : Recorded} (h : s.recorded event = some g) :
    ∃ r i, sends event = false ∧ eventPlay s.matches_.world event = some (r, .complete i) ∧
      ¬((s.server.game r).modifySeat i fun seat => { seat with phase := .complete }).Playing ∧
      s.record r i = some g := by
  unfold recorded at h
  split at h
  swap
  · cases h
  split at h
  swap
  · cases h
  rename_i p clock hp
  obtain ⟨⟨r, i⟩, hends, hrecord⟩ := Option.bind_eq_some_iff.mp h
  obtain ⟨hplay, hplaying⟩ := ends_eq_some hends
  refine ⟨r, i, rfl, (if_pos hp).trans hplay, ?_, hrecord⟩
  rw [anySlot_playing] at hplaying
  have hgame : (completing (s.server.matchAt r) i).game =
      (s.server.game r).modifySeat i fun seat => { seat with phase := .complete } :=
    modifySlot_game (s.server.matchAt r) i fun slot => { slot with status := .complete }
  rwa [hgame] at hplaying

end Recording

section Runs

theorem Kept.live (h : s.Kept) (hfair : Event.Fair s (.world event)) :
    (s.step (.world event)).Kept := by
  have hold : ∀ g ∈ s.games, g.round.number ≤ (s.heard event g.matchRef).number ∧
      (g.round.number = (s.heard event g.matchRef).number →
        ((s.matches_.world.step event).server.game g.matchRef).inProgress = false) := fun g hg =>
    spent_step (h.spent g hg).1 (h.spent g hg).2
  have hnew : ∀ g ∈ s.recorded event, g.Faithful ∧
      (∀ old ∈ s.games, (old.matchRef, old.round.number) ≠ (g.matchRef, g.round.number)) ∧
      g.round.number ≤ (s.heard event g.matchRef).number ∧
      ((s.matches_.world.step event).server.game g.matchRef).inProgress = false := by
    intro g hg
    obtain ⟨r, i, hsends, hplay, hplaying, hrecord⟩ := recorded_eq_some hg
    have hcomplete : Play.Fair (s.rounds r) (s.server.game r) (.complete i) := hfair.1 _ hplay
    have hfaithful := record_faithful (h.told r) hcomplete hrecord
    obtain ⟨matchDbId, -, rfl⟩ := Option.map_eq_some_iff.mp hrecord
    refine ⟨hfaithful, ?_, heard_number s event r, ?_⟩
    · intro old hmem hsame
      have hr : old.matchRef = r := congrArg Prod.fst hsame
      have hnumber : old.round.number = (s.rounds r).number := congrArg Prod.snd hsame
      have hover := (h.spent old hmem).2 (hr ▸ hnumber)
      rw [hr] at hover
      have hin : (s.server.game r).inProgress = true := hcomplete.1
      rw [hover] at hin
      cases hin
    · cases step_outcome s.matches_.world event with
      | turn hst =>
        rw [hplay] at hst
        rw [Played.game hst, if_pos rfl]
        have hover : (s.server.game r).play (.complete i) =
            ((s.server.game r).modifySeat i fun seat =>
              { seat with phase := .complete }).finish .complete := if_neg hplaying
        exact congrArg Game.inProgress hover
      | joined _ _ hturn => simp [hplay] at hturn
      | left _ _ _ hturn => simp [hplay] at hturn
      | opened _ _ hturn => simp [hplay] at hturn
  constructor
  · exact told_step h hfair
  · exact fun hp => placed_step h hp
  · constructor
    · intro g hg
      rcases List.mem_append.mp hg with hg | hg
      · exact h.faithful.each g hg
      · exact (hnew g (Option.mem_toList.mp hg)).1
    · show ((s.games ++ (s.recorded event).toList).map _).Nodup
      rw [List.map_append]
      refine List.nodup_append.mpr ⟨h.faithful.once, ?_, ?_⟩
      · cases s.recorded event <;> simp
      · intro pair hpair other hother
        obtain ⟨old, hmem, rfl⟩ := List.mem_map.mp hpair
        obtain ⟨g, hg, rfl⟩ := List.mem_map.mp hother
        exact (hnew g (Option.mem_toList.mp hg)).2.1 old hmem
  · intro g hg
    rcases List.mem_append.mp hg with hg | hg
    · exact hold g hg
    · obtain ⟨-, -, hle, hover⟩ := hnew g (Option.mem_toList.mp hg)
      exact ⟨hle, fun _ => hover⟩

theorem Kept.start (setup : Setup) : (start setup).Kept := by
  have hempty : ∀ r, (Games.start setup).server.game r = Game.fresh := by
    intro r
    have hmatch : (Games.start setup).server.matchAt r = default :=
      congrFun (start_matches setup).2 r
    unfold Server.game
    rw [hmatch]
    rfl
  constructor
  · intro r
    rw [hempty]
    exact Told.fresh _
  · intro r i p hp
    rw [hempty] at hp
    cases hp
  · exact ⟨fun g hg => absurd hg List.not_mem_nil, List.nodup_nil⟩
  · intro g hg
    cases hg

theorem Kept.step (h : s.Kept) {event : Matches.Event} (hfair : Event.Fair s event) :
    (s.step event).Kept := by
  have hsame : ∀ {m : Matches}, m.world = s.matches_.world → Kept { s with matches_ := m } := by
    intro m hm
    have hserver : m.world.server = s.server := congrArg World.server hm
    refine ⟨fun r => ?_, fun {r i p} hp => ?_, ⟨h.faithful.each, h.faithful.once⟩, fun g hg => ?_⟩
    · show Told (s.rounds r) (m.world.server.game r)
      rw [hserver]
      exact h.told r
    · show (m.world.server.player p).matchRef = some r
      have hp' : ((m.world.server.game r).seats i).player = some p := hp
      rw [hserver] at hp' ⊢
      exact h.placed hp'
    · show _ ∧ (_ → (m.world.server.game g.matchRef).inProgress = false)
      rw [hserver]
      exact h.spent g hg
  cases event with
  | world event => exact h.live hfair
  | insert r => exact hsame rfl
  | arrive r =>
    refine hsame ?_
    unfold Matches.step Matches.arrive
    dsimp only
    split <;> rfl
  | stamp r => exact hsame rfl

-- Along a run of fair steps every recorded game is what its players sent since its
-- start, and no start has two.
theorem faithful_of_fair (setup : Setup) (run : List Matches.Event)
    (h : Guarded step (fun s event => Event.Fair s event) (start setup) run) :
    (runFrom step (start setup) run).Faithful :=
  (Guarded.invariant Kept (fun _ _ hs hfair => hs.step hfair) (Kept.start setup) h).faithful

-- Players 1 and 2 play in a match whose row has been inserted.
def twoPlay : List Matches.Event :=
  List.append (twoInAMatch.map .world)
    [.insert 0, .arrive 0, .world (.packet 1 .start { now := 10 }),
      .world (.packet 1 (.scoreUpdate (List.replicate 29 0)) { now := 10 })]

-- Player 2 fails, and a game of two with one frame is recorded.
theorem faithful_of_fair_twoPlay :
    (runFrom step (start {}) (twoPlay ++ [.world (.packet 2 .failed { now := 10 }),
      .world (.packet 1 .complete { now := 10 }),
      .world (.packet 2 .complete { now := 10 })])).Faithful :=
  faithful_of_fair {} _ (by decide +kernel)

-- Player 1 moves to another slot and leaves the frame behind.
theorem faithful_changeSlot :
    ¬(runFrom step (start {}) (twoPlay ++ [.world (.packet 1 (.changeSlot 3) { now := 10 }),
      .world (.packet 1 .complete { now := 10 }),
      .world (.packet 2 .complete { now := 10 })])).Faithful := by
  decide +kernel

end Runs

end Games

end BanchoPrism.History
