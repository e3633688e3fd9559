import BanchoPrism.Multiplayer.Messages

namespace BanchoPrism

open Library Prog

-- p sits down in slot i of r.
structure Sat (p : PlayerRef) (r : MatchRef) (i : Fin 16) (s t : Server) : Prop where
  game : ∀ r', t.game r' = if r' = r then (s.game r).play (.sit p i) else s.game r'
  place : ∀ q, (t.player q).matchRef = if q = p then some r else (s.player q).matchRef
  matchList : t.matchList = s.matchList
  nextMatch : t.nextMatch = s.nextMatch
  listed : s.Listed → t.Listed

-- p gets out of slot i of r, and perhaps no further; a match that nobody else is
-- in goes off the list, or stays.
structure Left (p : PlayerRef) (r : MatchRef) (i : Fin 16) (s t : Server) : Prop where
  game : ∀ r', t.game r' = if r' = r then (s.game r).play (.leave i) else s.game r'
  place : ∀ q, (t.player q).matchRef = (s.player q).matchRef ∨ q = p ∧ (t.player q).matchRef = none
  matchList : t.matchList = s.matchList ∨
    (∀ j ≠ i, ((s.game r).seats j).player = none) ∧ t.matchList = (s.removeMatch r).matchList
  nextMatch : t.nextMatch = s.nextMatch
  listed : s.Listed → t.Listed

-- The game of a match that was just made.
def Game.fresh : Game := { inProgress := false, seats := fun _ => Game.emptySeat }

-- A new match in place k of the list.
structure Opened (k : Fin 64) (s t : Server) : Prop where
  game : ∀ r, t.game r = if r = s.nextMatch then Game.fresh else s.game r
  place : ∀ q, (t.player q).matchRef = (s.player q).matchRef
  free : s.matchList k = none
  matchList : t.matchList = Function.update s.matchList k (some s.nextMatch)
  nextMatch : t.nextMatch = s.nextMatch + 1
  listed : s.Listed → t.Listed

section Joining

variable {s t u : Server} {p : PlayerRef} {r : MatchRef} {i : Fin 16}

theorem Sat.steady (h : Sat p r i s t) (h' : Steady t u) : Sat p r i s u where
  game r' := (h'.game r').trans (h.game r')
  place q := (h'.place q).trans (h.place q)
  matchList := h'.matchList.trans h.matchList
  nextMatch := h'.nextMatch.trans h.nextMatch
  listed hl := h'.listed (h.listed hl)

theorem Steady.sat (h : Steady s t) (h' : Sat p r i t u) : Sat p r i s u where
  game r' := by rw [h'.game, h.game, h.game]
  place q := by rw [h'.place, h.place]
  matchList := h'.matchList.trans h.matchList
  nextMatch := h'.nextMatch.trans h.nextMatch
  listed hl := h'.listed (h.listed hl)

theorem sitDown_sat (s : Server) (p : PlayerRef) (r : MatchRef) (i : Fin 16) :
    Sat p r i s (sitDown s p r i) where
  game r' := by
    let seated := s.modifySlot r i fun slot =>
      { slot with
        team := if (s.matchAt r).teamType.defaultTeam = .red then .red else slot.team
        status := .notReady
        player := some p }
    show seated.game r' = _
    unfold seated Server.modifySlot
    rw [Server.modifyMatch_game]
    split
    · exact modifySlot_game (s.matchAt r) i fun slot =>
        { slot with
          team := if (s.matchAt r).teamType.defaultTeam = .red then .red else slot.team
          status := .notReady
          player := some p }
    · rfl
  place q := sitDown_place s p q r i
  matchList := rfl
  nextMatch := rfl
  listed hl := hl.congr rfl fun q => by
    by_cases hq : q = p
    · subst hq
      simp [sitDown, Server.modifyPlayer, Server.modifySlot, Server.modifyMatch]
    · simp [sitDown, Server.modifyPlayer, Server.modifySlot, Server.modifyMatch, hq]

-- The slot that join_match picks for p.
def picked (s : Server) (p : PlayerRef) (r : MatchRef) (passwd : String) : Option (Fin 16) :=
  (s.players.byId (s.matchAt r).hostId).bind fun host => joinSlot s p (s.matchAt r) passwd host

theorem joinMatch_sat (p : PlayerRef) (r : MatchRef) (passwd : String) (s : Server) :
    Steady s (joinMatch p r passwd s).2 ∨
      ∃ i, (s.player p).matchRef = none ∧ picked s p r passwd = some i ∧
        Sat p r i s (joinMatch p r passwd s).2 := by
  rcases joinMatch_cases p r passwd s with hcalm | ⟨host, i, t, ha, hh, hslot, hwork, hcalm⟩
  · exact Or.inl hcalm.steady
  · refine Or.inr ⟨i, ha.1, ?_, ?_⟩
    · unfold picked
      rw [matchHost_ok.mp hh]
      exact hslot
    · exact hwork.calm.steady.sat ((sitDown_sat t p r i).steady hcalm.steady)

end Joining

section Creating

theorem newMatch_game {data : MultiplayerMatch} {k : Fin 64} {chat : ChannelRef} {m : Match}
    (h : newMatch data k chat = .ok m) : m.game = Game.fresh := by
  have hprogress : m.inProgress = false := by
    unfold newMatch at h
    simp only [bind, Except.bind] at h
    split at h
    · cases h
    split at h
    · cases h
    split at h
    · cases h
    obtain rfl := Except.ok.inj h
    rfl
  obtain ⟨-, -, -, -, -, -, hslots⟩ := newMatch_ok h
  unfold Match.game Game.fresh
  simp only [Game.mk.injEq, hprogress, true_and]
  funext i
  rw [hslots]
  rfl

theorem enrolled_opened {s : Server} {k : Fin 64} {m : Match} (hk : s.matchList k = none)
    (hm : m.game = Game.fresh) : Opened k s (enrolled (withChat s k) k m) where
  game r := by
    unfold Server.game enrolled withChat
    dsimp only
    by_cases hr : r = s.nextMatch
    · subst hr
      rw [Function.update_self, if_pos rfl, hm]
    · rw [Function.update_of_ne hr, if_neg hr]
  place _ := rfl
  free := hk
  matchList := rfl
  nextMatch := rfl
  listed hl := (withChat_work s k).listed hl

-- MATCH_CREATE makes a match or none, and its creator sits down in it or not.
theorem matchCreate_opened (p : PlayerRef) (data : MultiplayerMatch) (now : Int) (s : Server) :
    Steady s (matchCreate p data now s).2 ∨
      ∃ k u, Opened k s u ∧
        (Steady u (matchCreate p data now s).2 ∨
          ∃ i, (s.player p).matchRef = none ∧
            Sat p s.nextMatch i u (matchCreate p data now s).2) := by
  rcases matchCreate_cases p data now s with hcalm | ⟨k, m, -, hk, hm, hcalm⟩
  · exact Or.inl hcalm.steady
  refine Or.inr ⟨k, enrolled (withChat s k) k m,
    enrolled_opened (freeMatchId_free hk) (newMatch_game hm), ?_⟩
  rcases joinMatch_sat p s.nextMatch data.passwd (enrolled (withChat s k) k m) with
    hsteady | ⟨i, hfree, -, hsat⟩
  · exact Or.inl (hsteady.trans hcalm.steady)
  · exact Or.inr ⟨i, hfree, hsat.steady hcalm.steady⟩

theorem login_steady (profile : Profile) : Within Steady (login profile) := by
  intro s
  obtain ⟨players, h⟩ := playersAppend_eq s.nextPlayer (freshSession s profile)
  unfold Moves
  rw [login_run, h]
  exact ⟨fun _ => rfl, fun q => (freshSession_player s profile q).1, rfl, rfl,
    fun hl => hl.congr rfl fun q => (freshSession_player s profile q).2⟩

end Creating

section Leaving

variable {s t u : Server} {p : PlayerRef} {r : MatchRef} {i : Fin 16}

theorem Left.steady (h : Left p r i s t) (h' : Steady t u) : Left p r i s u where
  game r' := (h'.game r').trans (h.game r')
  place q := by
    rw [h'.place]
    exact h.place q
  matchList := by
    rw [h'.matchList]
    exact h.matchList
  nextMatch := h'.nextMatch.trans h.nextMatch
  listed hl := h'.listed (h.listed hl)

theorem vacate_left (s : Server) (p : PlayerRef) (r : MatchRef) (i : Fin 16) :
    Left p r i s (vacate s r i) where
  game r' := by
    unfold vacate Server.modifySlot
    rw [Server.modifyMatch_game]
    split
    · have hphase : (leftStatus ((s.matchAt r).slots i)).phase = .idle := by
        unfold leftStatus
        split <;> rfl
      refine (modifySlot_game (s.matchAt r) i fun slot => Slot.reset (leftStatus slot)).trans ?_
      simp only [Slot.seat, Slot.reset, hphase]
      rfl
    · rfl
  place _ := Or.inl rfl
  matchList := Or.inl rfl
  nextMatch := rfl
  listed hl := hl

theorem Left.standUp (h : Left p r i s t) : Left p r i s (standUp t p) where
  game := h.game
  place q := by
    rw [standUp_player]
    by_cases hq : q = p
    · exact Or.inr ⟨hq, if_pos hq⟩
    · simp only [if_neg hq]
      exact Or.inl ((h.place q).resolve_right fun hp => hq hp.1)
  matchList := h.matchList
  nextMatch := h.nextMatch
  listed hl := (h.listed hl).congr rfl fun q => by rw [standUp_player]

theorem removeMatch_congr (h : t.matchList = s.matchList) :
    (t.removeMatch r).matchList = (s.removeMatch r).matchList := by
  unfold Server.removeMatch Server.setMatch
  rw [h]
  split
  · rfl
  · exact h

theorem Steady.left (h : Steady s t) (h' : Left p r i t u) : Left p r i s u where
  game r' := by rw [h'.game, h.game, h.game]
  place q := by
    rw [← h.place q]
    exact h'.place q
  matchList := by
    rw [← h.matchList, ← removeMatch_congr (r := r) h.matchList, ← h.game]
    exact h'.matchList
  nextMatch := h'.nextMatch.trans h.nextMatch
  listed hl := h'.listed (h.listed hl)

-- The match goes off the list.
theorem Left.removed (h : Left p r i s t) (hl : t.matchList = s.matchList)
    (hothers : ∀ j ≠ i, ((s.game r).seats j).player = none) :
    Left p r i s (t.removeMatch r) := by
  have hlist := removeMatch_congr (r := r) hl
  obtain ⟨matchList, hremove⟩ := removeMatch_eq t r
  rw [hremove] at hlist ⊢
  exact ⟨h.game, h.place, Or.inr ⟨hothers, hlist⟩, h.nextMatch, h.listed⟩

theorem passHost_steady (r : MatchRef) : Within Steady (passHost r) := by
  refine Within.read_bind fun s => ?_
  split
  · exact setHost_steady r _ s
  · exact Moves.pure ()

theorem departMatch_steady (p : PlayerRef) (r : MatchRef) : Within Steady (departMatch p r) := by
  refine Within.read_bind fun s => Moves.lift_bind fun host _ => ?_
  refine Within.moves (Within.bind (Within.onlyIf (passHost_steady r)) fun _ => ?_)
  refine Within.bind (Within.onlyIf (Within.bind ?_ fun _ => (sendBot_work _ _).calm.steady))
    fun _ => (enqueueState_calm r true).steady
  exact Within.update fun s => Steady.of_modifyMatch fun _ => rfl

-- leave_match does nothing, or the player gets out of the slot that holds it.
theorem leaveMatch_left (p : PlayerRef) (s : Server) :
    (((s.player p).matchRef.bind fun r => (s.matchAt r).getSlotId p) = none ∧
        Steady s (leaveMatch p s).2) ∨
      ∃ r i, (s.player p).matchRef = some r ∧ (s.matchAt r).getSlotId p = some i ∧
        Left p r i s (leaveMatch p s).2 := by
  rcases hr : (s.player p).matchRef with _ | r
  · rw [leaveMatch_run_none hr]
    exact Or.inl ⟨rfl, Steady.refl s⟩
  rcases hi : (s.matchAt r).getSlotId p with _ | i
  · rw [leaveMatch_run_unseated hr hi]
    exact Or.inl ⟨hi, Steady.refl s⟩
  refine Or.inr ⟨r, i, rfl, hi, ?_⟩
  have hleave := leaveChannel_work p (s.matchAt r).chat true (vacate s r i)
  rw [leaveMatch_run hr hi]
  rcases hl : leaveChannel p (s.matchAt r).chat true (vacate s r i) with ⟨e | _, t⟩
  · have ht : ChannelWork (vacate s r i) t := by simpa [Moves, hl] using hleave
    rw [bind_run_error hl]
    exact (vacate_left s p r i).steady ht.calm.steady
  have ht : ChannelWork (vacate s r i) t := by simpa [Moves, hl] using hleave
  have hleft : Left p r i s t := (vacate_left s p r i).steady ht.calm.steady
  rw [bind_run_ok hl]
  by_cases he : (t.matchAt r).allEmpty
  · obtain ⟨v, u, hrun, htv, hvu⟩ := closeMatch_run r t
    have hv : v.matchList = s.matchList := htv.matchList.trans ht.matchList
    have hothers : ∀ j ≠ i, ((s.game r).seats j).player = none := by
      intro j hj
      have hnone := (allEmpty_iff _).mp (ht.vacated_allEmpty ▸ he) j
      rwa [vacate_slot_of_ne s r hj] at hnone
    rw [bind_run_ok ((afterLeaving_closed he).trans hrun), update_run]
    exact (((hleft.steady htv.steady).removed hv hothers).steady hvu.steady).standUp
  · have hdepart := departMatch_steady p r t
    rcases hd : departMatch p r t with ⟨e | _, u⟩
    · have hu : Steady t u := by simpa [Moves, hd] using hdepart
      rw [bind_run_error ((afterLeaving_departed he).trans hd)]
      exact hleft.steady hu
    · have hu : Steady t u := by simpa [Moves, hd] using hdepart
      rw [bind_run_ok ((afterLeaving_departed he).trans hd), update_run]
      exact (hleft.steady hu).standUp

-- Nobody else is in the match, and its chat can let the last player go.
def Closes (s : Server) (p : PlayerRef) (r : MatchRef) (i : Fin 16) : Prop :=
  (∀ j ≠ i, ((s.matchAt r).slots j).player = none) ∧ Releases s p (s.matchAt r).chat

instance (s : Server) (p : PlayerRef) (r : MatchRef) (i : Fin 16) : Decidable (Closes s p r i) := by
  unfold Closes
  infer_instance

theorem leaveMatch_closes (hl : s.Listed) (hr : (s.player p).matchRef = some r)
    (hi : (s.matchAt r).getSlotId p = some i) (hc : Closes s p r i) :
    (leaveMatch p s).2.matchList = (s.removeMatch r).matchList := by
  obtain ⟨hothers, hreleases⟩ := hc
  obtain ⟨t, hleave⟩ := leaveChannel_ok (s := vacate s r i) (hl.congr rfl fun _ => rfl)
    hreleases true
  have ht : ChannelWork (vacate s r i) t := by
    simpa [Moves, hleave] using leaveChannel_work p (s.matchAt r).chat true (vacate s r i)
  have he : (t.matchAt r).allEmpty := by
    rw [ht.vacated_allEmpty]
    refine (allEmpty_iff _).mpr fun j => ?_
    by_cases hj : j = i
    · subst hj
      rw [vacate_slot_self]
      rfl
    · rw [vacate_slot_of_ne s r hj]
      exact hothers j hj
  obtain ⟨v, u, hrun, htv, hvu⟩ := closeMatch_run r t
  rw [leaveMatch_run hr hi, bind_run_ok hleave, bind_run_ok ((afterLeaving_closed he).trans hrun),
    update_run]
  exact hvu.matchList.trans (removeMatch_congr (htv.matchList.trans ht.matchList))

end Leaving

end BanchoPrism
