import BanchoPrism.Multiplayer.Movement

namespace BanchoPrism

open Library Prog

-- Players and slots agree on who is where, a slot says it is occupied exactly
-- when it is, and whoever is in a match is in one that is on the list.
structure Orderly (s : Server) : Prop where
  agrees : s.seating.Agrees
  status : ∀ r i, ((s.matchAt r).slots i).status.hasPlayer = ((s.matchAt r).slots i).player.isSome
  listed : s.Listed
  registered : ∀ {p r}, (s.player p).matchRef = some r → ∃ k, s.matchList k = some r
  bounded : ∀ {k r}, s.matchList k = some r → r < s.nextMatch
  distinct : ∀ {k l r}, s.matchList k = some r → s.matchList l = some r → k = l

theorem Orderly.of_seated {s t : Server} (ho : Orderly s) (h : Seated s t) : Orderly t where
  agrees := h.seating_eq ▸ ho.agrees
  status r i := by
    rw [h.seat r i]
    rcases h.status r i with hs | ⟨hp, hs⟩
    · rw [hs, ho.status]
    · rw [hs, hp]
  listed := h.listed ho.listed
  registered {p r} hr := by
    rw [h.matchList]
    exact ho.registered (h.place p ▸ hr)
  bounded {k r} hk := by
    rw [h.nextMatch]
    exact ho.bounded (h.matchList ▸ hk)
  distinct {k l r} hk hl := ho.distinct (h.matchList ▸ hk) (h.matchList ▸ hl)

-- What a step may do: keep the order, and never hand an occupied seat on.
def Proper (s t : Server) : Prop := Orderly s → Orderly t ∧ s.seating.Kept t.seating

theorem Seated.proper {s t : Server} (h : Seated s t) : Proper s t := fun ho =>
  ⟨ho.of_seated h, Seating.Kept.of_seat_eq fun r i => by rw [h.seating_eq]⟩

instance : Std.Refl Proper := ⟨fun s => (Seated.refl s).proper⟩

theorem Proper.trans_seated {s t u : Server} (h : Proper s t) (h' : Seated t u) : Proper s u := by
  intro ho
  obtain ⟨hot, hk⟩ := h ho
  exact ⟨hot.of_seated h', h'.seating_eq ▸ hk⟩

theorem Seated.trans_proper {s t u : Server} (h : Seated s t) (h' : Proper t u) : Proper s u := by
  intro ho
  obtain ⟨hou, hk⟩ := h' (ho.of_seated h)
  exact ⟨hou, h.seating_eq ▸ hk⟩

-- One update that keeps the order, then a program that moves nobody.
theorem Proper.update_bind {α : Type} {f : Server → Server} {k : Unit → Handler α} {s : Server}
    (h : Proper s (f s)) (hk : Within Seated (k ())) : Moves Proper s (Prog.update f >>= k) :=
  h.trans_seated (hk _)

theorem Proper.update_update_bind {α : Type} {f g : Server → Server} {k : Unit → Handler α}
    {s : Server} (h : Proper s (g (f s))) (hk : Within Seated (k ())) :
    Moves Proper s (Prog.update f >>= fun _ => Prog.update g >>= k) :=
  h.trans_seated (hk _)

-- A free slot holds nobody.
theorem Orderly.seat_of_free {s : Server} (ho : Orderly s) {r : MatchRef} {i : Fin 16}
    (hs : ((s.matchAt r).slots i).status.hasPlayer = false) :
    ((s.matchAt r).slots i).player = none := by
  have := ho.status r i
  rw [hs] at this
  simpa using this.symm

theorem Orderly.getSlotId_isSome {s : Server} (ho : Orderly s) {p : PlayerRef} {r : MatchRef}
    (hr : (s.player p).matchRef = some r) : ∃ i, (s.matchAt r).getSlotId p = some i := by
  obtain ⟨i, hi⟩ := ho.agrees.present (g := p) (r := r) hr
  refine Option.isSome_iff_exists.mp (Fin.isSome_find?_of_eq_true (i := i) ?_)
  exact beq_iff_eq.mpr hi

theorem getFree_status {m : Match} {i : Fin 16} (h : m.getFree = some i) :
    (m.slots i).status = .open_ := by
  simpa using Fin.eq_true_of_find?_eq_some h

section SitDown

theorem sitDown_place (s : Server) (p q : PlayerRef) (r : MatchRef) (i : Fin 16) :
    ((sitDown s p r i).player q).matchRef =
      if q = p then some r else (s.player q).matchRef := by
  by_cases hq : q = p
  · subst hq
    simp [sitDown, Server.modifyPlayer]
  · simp [sitDown, Server.modifyPlayer, Server.modifySlot, Server.modifyMatch, hq]

theorem sitDown_slot (s : Server) (p : PlayerRef) (r r' : MatchRef) (i j : Fin 16) :
    (((sitDown s p r i).matchAt r').slots j).player =
        (if r' = r ∧ j = i then some p else ((s.matchAt r').slots j).player) ∧
      (((sitDown s p r i).matchAt r').slots j).status =
        if r' = r ∧ j = i then .notReady else ((s.matchAt r').slots j).status := by
  by_cases hr : r' = r
  · subst hr
    by_cases hj : j = i
    · subst hj
      simp [sitDown, Server.modifyPlayer, Server.modifySlot, Server.modifyMatch]
    · simp [sitDown, Server.modifyPlayer, Server.modifySlot, Server.modifyMatch, hj]
  · simp [sitDown, Server.modifyPlayer, Server.modifySlot, Server.modifyMatch, hr]

theorem sitDown_seating (s : Server) (p : PlayerRef) (r : MatchRef) (i : Fin 16) :
    (sitDown s p r i).seating = s.seating.enter p r i := by
  apply Seating.ext
  · funext q
    rw [Seating.enter, Seating.setPlace_place]
    exact sitDown_place s p q r i
  · funext r' j
    rw [Seating.enter, Seating.setPlace_seat, Seating.setSeat_seat]
    exact (sitDown_slot s p r r' i j).1

theorem sitDown_proper {s : Server} {p : PlayerRef} {r : MatchRef} {i : Fin 16}
    (hp : (s.player p).matchRef = none) (hi : ((s.matchAt r).slots i).player = none)
    (hreg : ∃ k, s.matchList k = some r) : Proper s (sitDown s p r i) := by
  intro ho
  refine ⟨?_, ?_⟩
  · exact {
      agrees := by
        rw [sitDown_seating]
        exact ho.agrees.enter hp hi
      status := fun r' j => by
        obtain ⟨hplayer, hstatus⟩ := sitDown_slot s p r r' i j
        rw [hplayer, hstatus]
        split
        · rfl
        · exact ho.status r' j
      listed := ho.listed.congr rfl fun q => by
        by_cases hq : q = p
        · subst hq
          simp [sitDown, Server.modifyPlayer, Server.modifySlot, Server.modifyMatch]
        · simp [sitDown, Server.modifyPlayer, Server.modifySlot, Server.modifyMatch, hq]
      registered := fun {q r'} hr => by
        rw [sitDown_place] at hr
        split at hr
        · obtain rfl : r = r' := by simpa using hr
          exact hreg
        · exact ho.registered hr
      bounded := ho.bounded
      distinct := ho.distinct }
  · rw [sitDown_seating]
    exact Seating.Kept.enter p hi

end SitDown

-- The joiner is not the one match.host resolves to while slot 0 is taken.
def JoinSafe (s : Server) (p : PlayerRef) (r : MatchRef) : Prop :=
  Admits s p r → s.players.byId (s.matchAt r).hostId = some p →
    ((s.matchAt r).slots createSlot).player = none

instance (s : Server) (p : PlayerRef) (r : MatchRef) : Decidable (JoinSafe s p r) := by
  unfold JoinSafe
  infer_instance

theorem joinMatch_proper {s : Server} {p : PlayerRef} {r : MatchRef} (passwd : String)
    (hreg : ∃ k, s.matchList k = some r) (hsafe : JoinSafe s p r) :
    Proper s (joinMatch p r passwd s).2 := by
  rcases joinMatch_cases p r passwd s with hq | ⟨host, i, t, hm, hh, hj, hst, hq⟩
  · exact hq.toSeated.proper
  · intro ho
    -- the slot picked at the start is free, and work on channels leaves it so
    have hfree : ((s.matchAt r).slots i).player = none := by
      unfold joinSlot at hj
      split at hj
      · split at hj
        · simp at hj
        · exact ho.seat_of_free (by rw [getFree_status hj]; rfl)
      · rename_i hph
        obtain rfl : createSlot = i := by simpa using hj
        rw [not_not] at hph
        exact hsafe hm (hph ▸ matchHost_ok.mp hh)
    have hseated := hst.quiet.toSeated
    have hsit : Proper t (sitDown t p r i) := sitDown_proper ((hseated.place p).trans hm.1)
      ((hseated.seat r i).trans hfree) (by rwa [hseated.matchList])
    exact (hseated.trans_proper hsit).trans_seated hq.toSeated ho

section ChangeSlot

-- The swap of match_change_slot: the slot i is copied to j and reset.
def shift (s : Server) (r : MatchRef) (i j : Fin 16) : Server :=
  (s.modifySlot r j fun slot => slot.copyFrom ((s.matchAt r).slots i)).modifySlot r i fun _ =>
    Slot.reset .open_

theorem shift_slot (s : Server) (r r' : MatchRef) (i j k : Fin 16) :
    (((shift s r i j).matchAt r').slots k).player =
        (if r' = r ∧ k = i then none
          else if r' = r ∧ k = j then ((s.matchAt r).slots i).player
          else ((s.matchAt r').slots k).player) ∧
      (((shift s r i j).matchAt r').slots k).status =
        if r' = r ∧ k = i then .open_
        else if r' = r ∧ k = j then ((s.matchAt r).slots i).status
        else ((s.matchAt r').slots k).status := by
  by_cases hr : r' = r
  · subst hr
    by_cases hk : k = i
    · subst hk
      simp [shift, Server.modifySlot, Server.modifyMatch, Slot.reset]
    · by_cases hkj : k = j
      · subst hkj
        simp [shift, Server.modifySlot, Server.modifyMatch, Slot.copyFrom, hk]
      · simp [shift, Server.modifySlot, Server.modifyMatch, hk, hkj]
  · simp [shift, Server.modifySlot, Server.modifyMatch, hr]

theorem shift_seating (s : Server) (r : MatchRef) (i j : Fin 16) :
    (shift s r i j).seating = s.seating.move r i j := by
  apply Seating.ext
  · rfl
  · funext r' k
    rw [Seating.move_seat]
    exact (shift_slot s r r' i j k).1

theorem shift_proper {s : Server} {r : MatchRef} {i j : Fin 16} {p : PlayerRef}
    (hi : ((s.matchAt r).slots i).player = some p)
    (hj : ((s.matchAt r).slots j).status = .open_) : Proper s (shift s r i j) := by
  intro ho
  have hfree : ((s.matchAt r).slots j).player = none := ho.seat_of_free (by rw [hj]; rfl)
  refine ⟨?_, ?_⟩
  · exact {
      agrees := by
        rw [shift_seating]
        exact ho.agrees.move hi hfree
      status := fun r' k => by
        obtain ⟨hplayer, hstatus⟩ := shift_slot s r r' i j k
        rw [hplayer, hstatus]
        split
        · rfl
        · split
          · exact ho.status r i
          · exact ho.status r' k
      listed := ho.listed.congr rfl fun _ => rfl
      registered := ho.registered
      bounded := ho.bounded
      distinct := ho.distinct }
  · rw [shift_seating]
    exact Seating.Kept.move i hfree

theorem matchChangeSlot_proper (p : PlayerRef) (slotId : Int) :
    Within Proper (matchChangeSlot p slotId) := by
  refine within_inMatch fun r => within_withSlotId fun j => Within.read_bind fun s => ?_
  refine Moves.ite (fun _ => Moves.pure ()) fun hopen => ?_
  split
  · exact Moves.raise _
  · rename_i i hi
    exact Proper.update_update_bind (shift_proper (getSlotId_player hi) (not_not.mp hopen))
      (enqueueState_quiet r true).seated

end ChangeSlot

section Lock

-- Locking spares the slots that somebody else than the host is in.
def LockSafe (s : Server) (p : PlayerRef) (slotId : Int) : Prop :=
  ∀ r ∈ (s.player p).matchRef, s.players.byId (s.matchAt r).hostId = some p →
    ∀ i : Fin 16, (i : Int) = slotId → ((s.matchAt r).slots i).status = .locked ∨
      ((s.matchAt r).slots i).player = none ∨ ((s.matchAt r).slots i).player = some p

instance (s : Server) (p : PlayerRef) (slotId : Int) : Decidable (LockSafe s p slotId) := by
  unfold LockSafe
  infer_instance

theorem setFreeStatus_proper {s : Server} {r : MatchRef} {i : Fin 16} {status : SlotStatus}
    (hs : status.hasPlayer = false) (hp : ((s.matchAt r).slots i).player = none) :
    Proper s (s.modifySlot r i fun slot => { slot with status := status }) := by
  intro ho
  refine Seated.proper (quiet_modifySlot rfl (.inl ?_)).toSeated ho
  rw [ho.status, hp]
  exact hs

theorem matchLock_proper {s : Server} {p : PlayerRef} {slotId : Int}
    (hsafe : LockSafe s p slotId) : Moves Proper s (matchLock p slotId) := by
  unfold matchLock asHost inMatch withSlotId
  refine Moves.read_bind ?_
  cases hr : (s.player p).matchRef with
  | none => exact Moves.pure ()
  | some r =>
    refine Moves.read_bind (Moves.lift_bind fun host hh => Moves.ite (fun hp => ?_) fun _ => Moves.pure ())
    split
    · rename_i hid
      refine Moves.read_bind (Moves.ite (fun hlocked => ?_) fun hlocked => ?_)
      · intro ho
        have hfree := ho.seat_of_free (r := r) (i := ⟨slotId.toNat, by omega⟩) (by rw [hlocked]; rfl)
        exact Proper.update_bind (setFreeStatus_proper rfl hfree) (enqueueState_quiet r true).seated ho
      · refine Moves.ite (fun _ => Moves.pure ()) fun hself => ?_
        have hfree : ((s.matchAt r).slots ⟨slotId.toNat, by omega⟩).player = none := by
          rcases hsafe r hr (hp ▸ matchHost_ok.mp hh) ⟨slotId.toNat, by omega⟩
            (by simp only [Int.toNat_of_nonneg hid.1]) with h | h | h
          · exact absurd h hlocked
          · exact h
          · exact absurd h hself
        exact Proper.update_bind (setFreeStatus_proper rfl hfree) (enqueueState_quiet r true).seated
    · exact Moves.pure ()

end Lock

end BanchoPrism
