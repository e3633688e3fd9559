import BanchoPrism.Multiplayer.Outcomes

namespace BanchoPrism

open Library Prog

section Guard

-- Somebody plays who is not in slot i.
def Game.PlayingBut (g : Game) (i : Fin 16) : Prop := ∃ j, j ≠ i ∧ (g.seats j).phase = .playing

instance (g : Game) (i : Fin 16) : Decidable (g.PlayingBut i) := by
  unfold Game.PlayingBut
  infer_instance

-- A game starts with a player who has the map, and a slot gets out of a game in
-- progress while another plays.
def Play.Keeps (g : Game) : Play → Prop
  | .start hasMap => ∃ i, (g.seats i).player.isSome ∧ hasMap i
  | .idle i | .sit _ i | .leave i => g.inProgress → g.PlayingBut i
  -- MATCH_CHANGE_SLOT takes open slots only
  | .move _ j => (g.seats j).phase ≠ .playing
  | .frame _ _ | .fail _ | .complete _ | .abort => True

instance Play.Keeps.decidable (g : Game) (play : Play) : Decidable (play.Keeps g) :=
  match play with
  | .start hasMap => inferInstanceAs (Decidable (∃ i, (g.seats i).player.isSome ∧ hasMap i))
  | .idle i | .sit _ i | .leave i => inferInstanceAs (Decidable (g.inProgress → g.PlayingBut i))
  | .move _ j => inferInstanceAs (Decidable ((g.seats j).phase ≠ .playing))
  | .frame _ _ | .fail _ | .complete _ | .abort => isTrue trivial

def TurnKeeps (s : Server) (turn : Option (MatchRef × Play)) : Prop :=
  ∀ made ∈ turn, made.2.Keeps (s.game made.1)

def JoinKeeps (s : Server) (join : Option Join) : Prop :=
  ∀ asked ∈ join, ∀ i ∈ asked.slot s, (Play.sit asked.player i).Keeps (s.game asked.target)

-- The last player of a game who leaves closes the match.
def LeaveKeeps (s : Server) (leaver : Option PlayerRef) : Prop :=
  ∀ p ∈ leaver, ∀ r ∈ (s.player p).matchRef, ∀ i ∈ (s.matchAt r).getSlotId p,
    (Play.leave i).Keeps (s.game r) ∨ Closes s p r i

def Event.KeepsGame (w : World) (event : Event) : Prop :=
  TurnKeeps w.server (eventPlay w event) ∧ JoinKeeps w.server (eventJoin w event) ∧
    LeaveKeeps w.server (leaver w.server event)

instance (s : Server) (turn : Option (MatchRef × Play)) : Decidable (TurnKeeps s turn) := by
  unfold TurnKeeps
  infer_instance

instance (s : Server) (join : Option Join) : Decidable (JoinKeeps s join) := by
  unfold JoinKeeps
  infer_instance

instance (s : Server) (leaver : Option PlayerRef) : Decidable (LeaveKeeps s leaver) := by
  unfold LeaveKeeps
  infer_instance

instance (w : World) (event : Event) : Decidable (event.KeepsGame w) := by
  unfold Event.KeepsGame
  infer_instance

end Guard

section Games

variable {g : Game}

theorem Game.PlayingBut.modifySeat {i : Fin 16} {f : Seat → Seat} (h : g.PlayingBut i) :
    (g.modifySeat i f).Playing := by
  obtain ⟨j, hj, hphase⟩ := h
  refine ⟨j, ?_⟩
  simp only [Game.modifySeat, Function.update_of_ne hj]
  exact hphase

theorem Game.Playing.modifySeat (h : g.Playing) {i : Fin 16} {f : Seat → Seat}
    (hf : (f (g.seats i)).phase = (g.seats i).phase) : (g.modifySeat i f).Playing := by
  obtain ⟨j, hphase⟩ := h
  refine ⟨j, ?_⟩
  by_cases hj : j = i
  · subst hj
    simp only [Game.modifySeat, Function.update_self]
    exact hf.trans hphase
  · simp only [Game.modifySeat, Function.update_of_ne hj]
    exact hphase

-- Who plays goes on playing in the seat that is moved to.
theorem Game.Playing.move (h : g.Playing) {i j : Fin 16} (hj : (g.seats j).phase ≠ .playing) :
    (g.play (.move i j)).Playing := by
  obtain ⟨k, hphase⟩ := h
  have hkj : k ≠ j := by
    rintro rfl
    exact hj hphase
  by_cases hki : k = i
  · subst hki
    refine ⟨j, ?_⟩
    simp only [Game.play, Game.modifySeat, Function.update_of_ne hkj.symm, Function.update_self]
    exact hphase
  · refine ⟨k, ?_⟩
    simp only [Game.play, Game.modifySeat, Function.update_of_ne hki, Function.update_of_ne hkj]
    exact hphase

theorem Game.play_playing {play : Play} (h : g.inProgress → g.Playing) (hk : play.Keeps g) :
    (g.play play).inProgress → (g.play play).Playing := by
  cases play with
  | start hasMap =>
    intro _
    obtain ⟨i, hi⟩ := hk
    exact ⟨i, if_pos hi⟩
  | idle i =>
    exact fun hin => Game.PlayingBut.modifySeat (f := fun seat => { seat with phase := .idle }) (hk hin)
  | frame i playData =>
    exact fun hin => Game.Playing.modifySeat (f := fun seat => { seat with frame := some playData })
      (h hin) rfl
  | fail i =>
    exact fun hin => Game.Playing.modifySeat (f := fun seat => { seat with passed := false })
      (h hin) rfl
  | complete i =>
    simp only [Game.play]
    split
    · exact fun _ => ‹_›
    · exact fun hin => by cases hin
  | abort => exact fun hin => by cases hin
  | sit p i =>
    exact fun hin => Game.PlayingBut.modifySeat
      (f := fun seat => { seat with player := some p, phase := .idle }) (hk hin)
  | move i j => exact fun hin => (h hin).move hk
  | leave i =>
    exact fun hin => Game.PlayingBut.modifySeat (f := fun _ => Game.emptySeat) (hk hin)

end Games

-- In a registered match in progress somebody plays.
structure Lively (s : Server) : Prop where
  playing : ∀ {k r}, s.matchList k = some r → (s.game r).inProgress → (s.game r).Playing
  bounded : ∀ {k r}, s.matchList k = some r → r < s.nextMatch
  distinct : ∀ {k l r}, s.matchList k = some r → s.matchList l = some r → k = l
  listed : s.Listed

section Relations

variable {s t : Server} {p : PlayerRef} {r : MatchRef} {i : Fin 16}

theorem Lively.steady (h : Lively s) (hst : Steady s t) : Lively t where
  playing {k r} hk := by
    rw [hst.game]
    exact h.playing (hst.matchList ▸ hk)
  bounded {k r} hk := by
    rw [hst.nextMatch]
    exact h.bounded (hst.matchList ▸ hk)
  distinct {k l r} hk hl := h.distinct (hst.matchList ▸ hk) (hst.matchList ▸ hl)
  listed := hst.listed h.listed

-- A play in the game of r, with the list as it was.
theorem Lively.play (h : Lively s) {play : Play}
    (hgame : ∀ r', t.game r' = if r' = r then (s.game r).play play else s.game r')
    (hlist : t.matchList = s.matchList) (hnext : t.nextMatch = s.nextMatch)
    (hlisted : s.Listed → t.Listed) (hk : play.Keeps (s.game r)) : Lively t where
  playing {k r'} hreg := by
    rw [hlist] at hreg
    rw [hgame]
    split
    · rename_i hr
      subst hr
      exact Game.play_playing (h.playing hreg) hk
    · exact h.playing hreg
  bounded {k r'} hreg := by
    rw [hnext]
    exact h.bounded (hlist ▸ hreg)
  distinct {k l r'} hk hl := h.distinct (hlist ▸ hk) (hlist ▸ hl)
  listed := hlisted h.listed

theorem Lively.turn {turn : Option (MatchRef × Play)} (h : Lively s) (hst : Turn turn s t)
    (hk : TurnKeeps s turn) : Lively t := by
  rcases turn with _ | ⟨r, play⟩
  · exact h.steady hst
  · have hplayed : Played r play s t := hst
    exact h.play hplayed.game hplayed.matchList hplayed.nextMatch hplayed.listed (hk _ rfl)

-- A match that is off the list need not be played.
theorem Lively.closed (h : Lively s) {play : Play}
    (hgame : ∀ r', t.game r' = if r' = r then (s.game r).play play else s.game r')
    (hlist : t.matchList = (s.removeMatch r).matchList) (hnext : t.nextMatch = s.nextMatch)
    (hlisted : s.Listed → t.Listed) : Lively t := by
  have hremoved : ∀ k r', t.matchList k = some r' ↔ s.matchList k = some r' ∧ r' ≠ r := by
    intro k r'
    rw [hlist]
    exact removeMatch_matchList r r' k h.distinct
  exact {
    playing := fun {k r'} hreg => by
      obtain ⟨hreg', hr⟩ := (hremoved k r').mp hreg
      rw [hgame, if_neg hr]
      exact h.playing hreg'
    bounded := fun {k r'} hreg => by
      rw [hnext]
      exact h.bounded ((hremoved k r').mp hreg).1
    distinct := fun {k l r'} hk hl =>
      h.distinct ((hremoved k r').mp hk).1 ((hremoved l r').mp hl).1
    listed := hlisted h.listed }

theorem Lively.sat (h : Lively s) (hst : Sat p r i s t) (hk : (Play.sit p i).Keeps (s.game r)) :
    Lively t :=
  h.play hst.game hst.matchList hst.nextMatch hst.listed hk

theorem Lively.opened (h : Lively s) {k : Fin 64} (hst : Opened k s t) : Lively t := by
  have hold : ∀ {l r}, l ≠ k → t.matchList l = some r → s.matchList l = some r := by
    intro l r hl hreg
    rw [hst.matchList, Function.update_of_ne hl] at hreg
    exact hreg
  have hnew : ∀ {r}, t.matchList k = some r → r = s.nextMatch := by
    intro r hreg
    rw [hst.matchList, Function.update_self] at hreg
    exact (Option.some.inj hreg).symm
  have hapart : ∀ {l r}, l ≠ k → t.matchList l = some r → r ≠ s.nextMatch := fun hl hreg =>
    Nat.ne_of_lt (h.bounded (hold hl hreg))
  exact {
    playing := fun {l r} hreg => by
      rw [hst.game]
      by_cases hl : l = k
      · subst hl
        rw [if_pos (hnew hreg)]
        exact fun hin => by cases hin
      · rw [if_neg (hapart hl hreg)]
        exact h.playing (hold hl hreg)
    bounded := fun {l r} hreg => by
      rw [hst.nextMatch]
      by_cases hl : l = k
      · subst hl
        rw [hnew hreg]
        exact Nat.lt_succ_self _
      · exact Nat.lt_succ_of_lt (h.bounded (hold hl hreg))
    distinct := fun {l l' r} hreg hreg' => by
      by_cases hl : l = k
      · subst hl
        by_contra hne
        exact hapart (Ne.symm hne) hreg' (hnew hreg)
      · by_cases hl' : l' = k
        · subst hl'
          exact absurd (hnew hreg') (hapart hl hreg)
        · exact h.distinct (hold hl hreg) (hold hl' hreg')
    listed := hst.listed h.listed }

-- A new match is not in progress when its creator sits down in it.
theorem Lively.outcome {turn : Option (MatchRef × Play)} {join : Option Join}
    {leaver : Option PlayerRef} (h : Lively s) (hst : Outcome s turn join leaver t)
    (hturn : TurnKeeps s turn) (hjoin : JoinKeeps s join) (hleave : LeaveKeeps s leaver) :
    Lively t := by
  cases hst with
  | turn hst => exact h.turn hst hturn
  | joined asked i _ hasked hslot _ hsat => exact h.sat hsat (hjoin asked hasked i hslot)
  | left p r i _ hleaver hr hi hleft hcloses =>
    rcases hleave p hleaver r hr i hi with hkeeps | hempty
    · rcases hleft.matchList with hlist | ⟨-, hlist⟩
      · exact h.play hleft.game hlist hleft.nextMatch hleft.listed hkeeps
      · exact h.closed hleft.game hlist hleft.nextMatch hleft.listed
    · exact h.closed hleft.game (hcloses h.listed hempty) hleft.nextMatch hleft.listed
  | opened k u _ hopened hsat =>
    rcases hsat with hst | ⟨p, i, -, hsat⟩
    · exact (h.opened hopened).steady hst
    · refine (h.opened hopened).sat hsat fun hin => ?_
      rw [hopened.game, if_pos rfl] at hin
      cases hin

end Relations

section Runs

theorem step_lively {w : World} {event : Event} (h : Lively w.server) (hk : event.KeepsGame w) :
    Lively (w.step event).server := by
  obtain ⟨hturn, hjoin, hleave⟩ := hk
  exact h.outcome (step_outcome w event) hturn hjoin hleave

theorem start_lively (setup : Setup) : Lively setup.start.server := by
  have hnone : ∀ {k r}, setup.start.server.matchList k ≠ some r := by
    intro k r h
    rw [(start_matches setup).1] at h
    cases h
  exact {
    playing := fun h => absurd h hnone
    bounded := fun h => absurd h hnone
    distinct := fun h => absurd h hnone
    listed := (start_orderly setup).listed }

theorem lively_of_keepsGame (setup : Setup) {run : List Event}
    (h : Guarded World.step (fun w event => event.KeepsGame w) setup.start run) :
    Lively (runFrom World.step setup.start run).server :=
  Guarded.invariant (fun w => Lively w.server) (fun _ _ => step_lively) (start_lively setup) h

-- In a registered match in progress at least one slot is playing.
def Finishable (s : Server) : Prop :=
  ∀ k, ∀ r ∈ s.matchList k, (s.matchAt r).inProgress →
    ∃ i, ((s.matchAt r).slots i).status = .playing

instance (s : Server) : Decidable (Finishable s) := by
  unfold Finishable
  infer_instance

theorem Lively.finishable {s : Server} (h : Lively s) : Finishable s := by
  intro k r hr hin
  obtain ⟨i, hi⟩ := h.playing hr hin
  exact ⟨i, (playing_iff _).mpr hi⟩

-- Along a run of steps that keep the games no match is stuck in progress.
theorem finishable_of_keepsGame (setup : Setup) (run : List Event)
    (h : Guarded World.step (fun w event => event.KeepsGame w) setup.start run) :
    Finishable (runFrom World.step setup.start run).server :=
  (lively_of_keepsGame setup h).finishable

-- One of two players leaves a game, and the other ends it; another game is
-- started, which the host aborts.
theorem finishable_of_keepsGame_twoInAMatch :
    Finishable (runFrom World.step (Setup.start {}) (twoInAMatch ++
      [.packet 1 .start { now := 10 }, .packet 2 .partMatch { now := 10 },
        .packet 1 .complete { now := 10 }, .packet 1 .start { now := 10 },
        .packet 1 (.changeSlot 3) { now := 10 }])).server :=
  finishable_of_keepsGame {} _ (by decide +kernel)

-- The host starts a game without player 2, who has no beatmap, and leaves.
theorem finishable_lastPlayerLeaves :
    ¬Finishable (runFrom World.step (Setup.start {}) (twoInAMatch ++
      [.packet 2 .noBeatmap { now := 10 }, .packet 1 .start { now := 10 },
        .packet 1 .partMatch { now := 10 }])).server := by
  decide +kernel

end Runs

end BanchoPrism
