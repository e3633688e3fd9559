import BanchoPrism.Multiplayer.Quiet.Commands

namespace BanchoPrism

open Library Prog

section HostAndLocks

theorem Seated.of_slots_eq {s : Server} {r : MatchRef} {f : Match → Match}
    (hs : (f (s.matchAt r)).slots = (s.matchAt r).slots)
    (hi : (f (s.matchAt r)).id = (s.matchAt r).id) : Seated s (s.modifyMatch r f) := by
  have hkept : ∀ r', ((s.modifyMatch r f).matchAt r').slots = (s.matchAt r').slots ∧
      ((s.modifyMatch r f).matchAt r').id = (s.matchAt r').id := by
    intro r'
    by_cases hr : r' = r
    · subst hr
      simpa [Server.modifyMatch] using ⟨hs, hi⟩
    · simp [Server.modifyMatch, hr]
  exact {
    place := fun _ => rfl
    playerId := fun _ => rfl
    seat := fun r' i => by rw [(hkept r').1]
    matchId := fun r' => (hkept r').2
    matchList := rfl
    nextMatch := rfl
    nextPlayer := rfl
    listed := id
    known := id
    status := fun r' i => by rw [(hkept r').1]; exact StatusKept.refl _ }

theorem setHost_seated (r : MatchRef) (p : PlayerRef) : Within Seated (setHost r p) := by
  intro s
  refine Moves.update_bind (Seated.of_slots_eq rfl rfl) (Moves.read_bind ?_)
  exact Moves.lift_bind fun host _ => (send_quiet host _).seated _

theorem matchTransferHost_seated (p : PlayerRef) (slotId : Int) :
    Within Seated (matchTransferHost p slotId) := by
  refine within_asHost fun r => within_withSlotId fun i => Within.read_bind fun s => ?_
  split
  · exact Within.moves (Within.bind (setHost_seated r _) fun _ => (enqueueState_quiet r true).seated)
  · exact Moves.pure ()

theorem mpHost_seated (ctx : Context) (r : MatchRef) : Within Seated (mpHost ctx r) := by
  refine within_oneArg fun arg => within_onlinePlayer fun target => Within.read_bind fun s => ?_
  refine Moves.lift_bind fun host _ => Within.moves (Within.ite (within_answer _) ?_)
  refine Within.ite (Within.bind (setHost_seated r target) fun _ => ?_) (within_answer _)
  exact Within.bind (enqueueState_quiet r true).seated fun _ => within_answer _

theorem Hosted.of_modifySlot {s : Server} {r : MatchRef} {i : Fin 16} {f : Slot → Slot}
    (hp : (f ((s.matchAt r).slots i)).player = ((s.matchAt r).slots i).player) :
    Hosted s (s.modifySlot r i f) := by
  have hkept : ∀ r', (∀ j, (((s.modifySlot r i f).matchAt r').slots j).player =
        ((s.matchAt r').slots j).player) ∧
      ((s.modifySlot r i f).matchAt r').hostId = (s.matchAt r').hostId ∧
      ((s.modifySlot r i f).matchAt r').id = (s.matchAt r').id := by
    intro r'
    by_cases hr : r' = r
    · subst hr
      refine ⟨fun j => ?_, by simp [Server.modifySlot, Server.modifyMatch],
        by simp [Server.modifySlot, Server.modifyMatch]⟩
      by_cases hj : j = i
      · subst hj
        simpa [Server.modifySlot, Server.modifyMatch] using hp
      · simp [Server.modifySlot, Server.modifyMatch, hj]
    · simp [Server.modifySlot, Server.modifyMatch, hr]
  exact {
    place := fun _ => rfl
    playerId := fun _ => rfl
    seat := fun r' j => (hkept r').1 j
    matchId := fun r' => (hkept r').2.2
    matchList := rfl
    nextMatch := rfl
    nextPlayer := rfl
    listed := id
    known := id
    hostId := fun r' => (hkept r').2.1 }

-- Locking or unlocking a slot never moves anybody, occupied or not.
theorem matchLock_hosted (p : PlayerRef) (slotId : Int) : Within Hosted (matchLock p slotId) := by
  refine within_asHost fun r => within_withSlotId fun i => Within.read_bind fun s => ?_
  have hlock : ∀ status, Within Hosted (updateSlot r i fun slot => { slot with status := status }) :=
    fun _ => Within.update fun _ => Hosted.of_modifySlot rfl
  refine Within.moves (Within.ite ?_ (Within.ite (Within.pure ()) ?_))
  · exact Within.bind (hlock .open_) fun _ => (enqueueState_quiet r true).hosted
  · exact Within.bind (hlock .locked) fun _ => (enqueueState_quiet r true).hosted

end HostAndLocks

section Join

theorem refuseJoin_calm (p : PlayerRef) : Within Calm (refuseJoin p) :=
  Within.bind (send_calm p _) fun _ => Within.pure false

-- What join_match and join_channel ask of a player before a slot is looked at.
def Admits (s : Server) (p : PlayerRef) (r : MatchRef) : Prop :=
  (s.player p).matchRef = none ∧ (s.player p).id ∉ (s.matchAt r).tourneyClients ∧
    p ∉ (s.channel (s.matchAt r).chat).players ∧
    (s.channel (s.matchAt r).chat).canRead (s.player p).priv

instance (s : Server) (p : PlayerRef) (r : MatchRef) : Decidable (Admits s p r) := by
  unfold Admits
  infer_instance

theorem joinChannel_true {p : PlayerRef} {c : ChannelRef} {s t : Server}
    (h : joinChannel p c s = (.ok true, t)) :
    p ∉ (s.channel c).players ∧ (s.channel c).canRead (s.player p).priv := by
  unfold joinChannel at h
  rw [read_bind_run] at h
  by_contra hno
  rw [if_pos (by grind)] at h
  cases h

theorem matchHost_ok {s : Server} {m : Match} {host : PlayerRef} :
    matchHost s m = .ok host ↔ s.players.byId m.hostId = some host := by
  unfold matchHost
  split <;> simp_all

-- What follows the choice of the slot, packets included.
theorem sitDown_calm (s : Server) (p : PlayerRef) (r : MatchRef) (i : Fin 16) :
    Calm (sitDown s p r i) ((Prog.update (fun s => sitDown s p r i) >>= fun _ => Prog.read >>= fun s =>
      Prog.lift (writeMatch s (s.matchAt r) true) >>= fun packet =>
      send p (.matchJoinSuccess packet) >>= fun _ => enqueueState r true >>= fun _ =>
      (pure true : Handler Bool)) s).2 := by
  rw [update_bind_run]
  refine Moves.read_bind (Moves.lift_bind fun packet _ => ?_)
  refine Within.moves (Within.bind (send_calm p _) fun _ => ?_)
  exact Within.bind (enqueueState_calm r true) fun _ => Within.pure true

theorem joinMatch_sits {s t u : Server} {p : PlayerRef} {r : MatchRef} {passwd : String}
    {host : PlayerRef} {i : Fin 16} (hm : (s.player p).matchRef = none)
    (ht : (s.player p).id ∉ (s.matchAt r).tourneyClients)
    (hh : s.players.byId (s.matchAt r).hostId = some host)
    (hj : joinSlot s p (s.matchAt r) passwd host = some i)
    (hc : joinChannel p (s.matchAt r).chat s = (.ok true, t)) (hl : leaveLobby p t = (.ok (), u)) :
    Calm (sitDown u p r i) (joinMatch p r passwd s).2 := by
  have hm' : ¬(s.player p).matchRef.isSome := by simp [hm]
  unfold joinMatch
  rw [read_bind_run]
  rw [if_neg hm', if_neg ht, matchHost_ok.mpr hh, bind_run_ok (lift_ok_run host s)]
  rw [hj]
  dsimp only
  rw [bind_run_ok hc]
  simp only [if_true]
  rw [bind_run_ok hl]
  exact sitDown_calm u p r i

-- join_match either moves nobody or, after work on channels only, sits the
-- player down in the slot it picked at the start.
theorem joinMatch_cases (p : PlayerRef) (r : MatchRef) (passwd : String) (s : Server) :
    Calm s (joinMatch p r passwd s).2 ∨
      ∃ host i t, Admits s p r ∧ matchHost s (s.matchAt r) = .ok host ∧
        joinSlot s p (s.matchAt r) passwd host = some i ∧ ChannelWork s t ∧
        Calm (sitDown t p r i) (joinMatch p r passwd s).2 := by
  unfold joinMatch
  rw [read_bind_run]
  by_cases hm : (s.player p).matchRef.isSome
  · left
    rw [if_pos hm]
    exact refuseJoin_calm p s
  by_cases ht : (s.player p).id ∈ (s.matchAt r).tourneyClients
  · left
    rw [if_neg hm, if_pos ht]
    exact refuseJoin_calm p s
  rw [if_neg hm, if_neg ht]
  cases hh : matchHost s (s.matchAt r) with
  | error e => exact .inl (Calm.refl s)
  | ok host =>
    rw [bind_run_ok (lift_ok_run host s)]
    cases hj : joinSlot s p (s.matchAt r) passwd host with
    | none => exact .inl (refuseJoin_calm p s)
    | some i =>
      dsimp only
      have hjoin := joinChannel_work p (s.matchAt r).chat s
      rcases hc : joinChannel p (s.matchAt r).chat s with ⟨e | joined, t⟩
      · left
        rw [bind_run_error hc]
        exact ChannelWork.calm (by simpa [Moves, hc] using hjoin)
      have hst : ChannelWork s t := by simpa [Moves, hc] using hjoin
      rw [bind_run_ok hc]
      cases joined with
      | false => exact .inl hst.calm
      | true =>
        simp only [if_true]
        have hlobby := leaveLobby_work p t
        rcases hl : leaveLobby p t with ⟨e | _, u⟩
        · left
          rw [bind_run_error hl]
          exact ChannelWork.calm (hst.trans (by simpa [Moves, hl] using hlobby))
        · right
          have hfree : (s.player p).matchRef = none := by simpa using hm
          refine ⟨host, i, u, ⟨hfree, ht, joinChannel_true hc⟩, rfl, hj,
            hst.trans (by simpa [Moves, hl] using hlobby), ?_⟩
          rw [bind_run_ok hl]
          exact sitDown_calm u p r i

end Join

section Leave

def vacate (s : Server) (r : MatchRef) (i : Fin 16) : Server :=
  s.modifySlot r i fun slot => Slot.reset (leftStatus slot)

def standUp (s : Server) (p : PlayerRef) : Server :=
  s.modifyPlayer p fun player => { player with matchRef := none }

theorem leaveMatch_run {p : PlayerRef} {r : MatchRef} {i : Fin 16} {s : Server}
    (hr : (s.player p).matchRef = some r) (hi : (s.matchAt r).getSlotId p = some i) :
    leaveMatch p s = (leaveChannel p (s.matchAt r).chat true >>= fun _ =>
      afterLeaving p r >>= fun _ => Prog.update fun t => standUp t p) (vacate s r i) := by
  unfold leaveMatch
  rw [read_bind_run]
  simp only [hr, hi]
  rfl

theorem leaveMatch_run_none {p : PlayerRef} {s : Server} (hr : (s.player p).matchRef = none) :
    leaveMatch p s = (.ok (), s) := by
  unfold leaveMatch
  rw [read_bind_run]
  simp only [hr]
  rfl

theorem leaveMatch_run_unseated {p : PlayerRef} {r : MatchRef} {s : Server}
    (hr : (s.player p).matchRef = some r) (hi : (s.matchAt r).getSlotId p = none) :
    leaveMatch p s = (.error .assertion, s) := by
  unfold leaveMatch
  rw [read_bind_run]
  simp only [hr, hi]
  rfl

theorem passHost_seated (r : MatchRef) : Within Seated (passHost r) := by
  refine Within.read_bind fun s => ?_
  split
  · exact setHost_seated r _ s
  · exact Moves.pure ()

theorem departMatch_seated (p : PlayerRef) (r : MatchRef) : Within Seated (departMatch p r) := by
  refine Within.read_bind fun s => Moves.lift_bind fun host _ => ?_
  refine Within.moves (Within.bind (Within.onlyIf (passHost_seated r)) fun _ => ?_)
  refine Within.bind (Within.onlyIf (Within.bind ?_ fun _ => (sendBot_work _ _).quiet.seated))
    fun _ => (enqueueState_quiet r true).seated
  refine Within.seated ?_
  exact quiet_of_slots_eq (fun _ => rfl) (fun _ => rfl) fun _ => rfl

theorem disposeMatch_calm (r : MatchRef) (s : Server) :
    ∃ t, disposeMatch r s = (.ok (), t) ∧ Calm s t := by
  unfold disposeMatch
  rw [read_bind_run]
  cases s.channelByName "#lobby" with
  | none => exact ⟨s, rfl, Calm.refl s⟩
  | some l => exact ⟨_, rfl, (ChannelWork.enqueueAll s _ _).calm⟩

-- Taking a match off the list never raises; the rest is packets.
theorem closeMatch_run (r : MatchRef) (s : Server) :
    ∃ t u, closeMatch r s = (.ok (), u) ∧ Calm s t ∧ Calm (t.removeMatch r) u := by
  let t := s.modifyMatch r fun m => { m with starting := none }
  have ht : Calm s t := Calm.of_modifyMatch (SlotsKept.of_slots_eq rfl rfl rfl) rfl
  obtain ⟨u, hrun, hu⟩ := disposeMatch_calm r (t.removeMatch r)
  exact ⟨t, u, hrun, ht, hu⟩

end Leave

end BanchoPrism
