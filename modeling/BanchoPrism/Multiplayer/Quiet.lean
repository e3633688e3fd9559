import BanchoPrism.Multiplayer.Seats

namespace BanchoPrism

open Library Prog

section Guards

variable {R : Server → Server → Prop}

theorem updateMatch_bind_run {α : Type} (r : MatchRef) (f : Match → Match) (g : Unit → Handler α)
    (s : Server) : (updateMatch r f >>= g) s = g () (s.modifyMatch r f) := rfl

theorem updateSlot_bind_run {α : Type} (r : MatchRef) (i : Fin 16) (f : Slot → Slot)
    (g : Unit → Handler α) (s : Server) :
    (updateSlot r i f >>= g) s = g () (s.modifySlot r i f) := rfl

theorem modifyMatch_modifyMatch (s : Server) (r : MatchRef) (f g : Match → Match) :
    (s.modifyMatch r f).modifyMatch r g = s.modifyMatch r fun m => g (f m) := by
  simp [Server.modifyMatch]

theorem within_inMatch [Std.Refl R] {p : PlayerRef} {body : MatchRef → Handler Unit}
    (h : ∀ r, Within R (body r)) : Within R (inMatch p body) := by
  refine Within.read_bind fun s => ?_
  split
  · exact h _ s
  · exact Moves.pure ()

theorem getSlotId_player {m : Match} {p : PlayerRef} {i : Fin 16} (h : m.getSlotId p = some i) :
    (m.slots i).player = some p := by
  simpa using Fin.eq_true_of_find?_eq_some h

-- The body runs in a state in which slot i of r holds p.
theorem within_inSlot [Std.Refl R] {p : PlayerRef} {body : MatchRef → Fin 16 → Handler Unit}
    (h : ∀ s r i, ((s.matchAt r).slots i).player = some p → Moves R s (body r i)) :
    Within R (inSlot p body) := by
  refine within_inMatch fun r => Within.read_bind fun s => ?_
  split
  · exact h s r _ (getSlotId_player ‹_›)
  · exact Moves.raise _

theorem within_asHost [Std.Refl R] {p : PlayerRef} {body : MatchRef → Handler Unit}
    (h : ∀ r, Within R (body r)) : Within R (asHost p body) :=
  within_inMatch fun r => Within.read_bind fun s => Moves.lift_bind fun _ _ =>
    Moves.ite (fun _ => h r s) fun _ => Moves.pure ()

theorem within_withSlotId [Std.Refl R] {slotId : Int} {body : Fin 16 → Handler Unit}
    (h : ∀ i, Within R (body i)) : Within R (withSlotId slotId body) := by
  unfold withSlotId
  split
  · exact h _
  · exact Within.pure ()

theorem within_tourneyMatch [Std.Refl R] {p : PlayerRef} {matchId : Int}
    {body : MatchRef → Handler Unit} (h : ∀ r, Within R (body r)) :
    Within R (tourneyMatch p matchId body) := by
  refine Within.read_bind fun s => ?_
  split
  · refine Moves.ite (fun _ => ?_) fun _ => Moves.pure ()
    split
    · exact h _ s
    · exact Moves.pure ()
  · exact Moves.pure ()

end Guards

theorem enqueueMatch_work (r : MatchRef) (packet : ServerPacket) (lobby : Bool)
    (immune : List Nat) : Within ChannelWork (enqueueMatch r packet lobby immune) := by
  refine Within.read_bind fun s => Within.bind (sendAll_work _ _) (fun _ => ?_) s
  split
  · exact Within.ite (sendAll_work _ _) (Within.pure ())
  · exact Within.pure ()

theorem enqueueState_work (r : MatchRef) (lobby : Bool) :
    Within ChannelWork (enqueueState r lobby) := by
  refine Within.read_bind fun s => Moves.lift_bind fun shown _ => ?_
  refine Within.moves (Within.bind (sendAll_work _ _) fun _ => ?_)
  split
  · refine Within.ite (Within.bind (Within.lift _) fun _ => sendAll_work _ _) (Within.pure ())
  · exact Within.pure ()

theorem leaveLobby_work (p : PlayerRef) : Within ChannelWork (leaveLobby p) := by
  refine Within.read_bind fun s => ?_
  split
  · exact Moves.ite (fun _ => leaveChannel_work p _ true s) fun _ => Moves.pure ()
  · exact Moves.pure ()

theorem enqueueMatch_quiet (r : MatchRef) (packet : ServerPacket) (lobby : Bool)
    (immune : List Nat) : Within Quiet (enqueueMatch r packet lobby immune) :=
  (enqueueMatch_work r packet lobby immune).quiet

theorem enqueueState_quiet (r : MatchRef) (lobby : Bool) : Within Quiet (enqueueState r lobby) :=
  (enqueueState_work r lobby).quiet

theorem enqueueMatch_calm (r : MatchRef) (packet : ServerPacket) (lobby : Bool)
    (immune : List Nat) : Within Calm (enqueueMatch r packet lobby immune) :=
  (enqueueMatch_work r packet lobby immune).calm

theorem enqueueState_calm (r : MatchRef) (lobby : Bool) : Within Calm (enqueueState r lobby) :=
  (enqueueState_work r lobby).calm

theorem send_calm (p : PlayerRef) (packet : ServerPacket) : Within Calm (send p packet) :=
  (send_work p packet).calm

theorem send_quiet (p : PlayerRef) (packet : ServerPacket) : Within Quiet (send p packet) :=
  (send_work p packet).quiet

-- Updates of a match that leave the slots, the host and the id alone.
theorem quiet_of_slots_eq {r : MatchRef} {f : Match → Match} (hs : ∀ m, (f m).slots = m.slots)
    (hh : ∀ m, (f m).hostId = m.hostId) (hi : ∀ m, (f m).id = m.id) :
    Within Quiet (updateMatch r f) :=
  quiet_updateMatch fun m => SlotsKept.of_slots_eq (hs m) (hh m) (hi m)

theorem resetPlayersLoadedStatus_calm (r : MatchRef) :
    Within Calm (updateMatch r Match.resetPlayersLoadedStatus) :=
  calm_updateMatch (fun m => SlotsKept.of_mapSlots m (fun _ => rfl) fun _ => .inl rfl) fun m =>
    mapSlots_game m fun _ => rfl

theorem unreadyPlayers_quiet (r : MatchRef) {expected : SlotStatus} (he : expected.hasPlayer) :
    Within Quiet (updateMatch r fun m => m.unreadyPlayers expected) :=
  quiet_updateMatch fun m => SlotsKept.unreadyPlayers m he

theorem unready_calm (r : MatchRef) :
    Within Calm (updateMatch r fun m => m.unreadyPlayers .ready) := by
  refine calm_updateMatch (fun m => SlotsKept.unreadyPlayers m rfl) fun m => mapSlots_game m fun i => ?_
  split
  · rename_i h
    simp only [Slot.seat, h, SlotStatus.phase]
  · rfl

theorem startSlots_quiet (r : MatchRef) : Within Quiet (updateMatch r Match.startSlots) := by
  refine quiet_updateMatch fun m => SlotsKept.of_mapSlots m (fun _ => rfl) fun i => ?_
  by_cases h : (m.slots i).player.isSome ∧ (m.slots i).status ≠ .noMap
  · exact .inr ⟨h.1, by rw [if_pos h]; rfl⟩
  · exact .inl (by rw [if_neg h])

theorem startMatch_quiet (r : MatchRef) : Within Quiet (startMatch r) := by
  refine Within.read_bind fun s => Within.bind (startSlots_quiet r) (fun _ => ?_) s
  refine Within.bind (quiet_of_slots_eq (fun _ => rfl) (fun _ => rfl) fun _ => rfl) fun _ => ?_
  refine Within.read_bind fun t => Moves.lift_bind fun packet _ => ?_
  exact Within.bind (enqueueMatch_quiet r _ _ _) (fun _ => enqueueState_quiet r true) t

theorem spectatorChannel_calm (host : PlayerRef) : Within Calm (spectatorChannel host) := by
  refine Within.read_bind fun s => ?_
  split
  · exact Moves.pure _
  · refine Within.moves (Within.bind (allocChannel_work rfl).calm fun c => ?_)
    refine Within.bind (joinChannel_work host c).calm fun _ => ?_
    exact Within.bind (channelsAppend_work c).calm fun _ => Within.pure c

theorem addSpectator_calm (host p : PlayerRef) : Within Calm (addSpectator host p) := by
  refine Within.bind (spectatorChannel_calm host) fun c => ?_
  refine Within.bind (joinChannel_work p c).calm fun joined => Within.ite ?_ (Within.pure ())
  refine Within.read_bind fun s => ?_
  refine Within.moves (Within.bind (Within.onlyIf (sendAll_work _ _).calm) fun _ => ?_)
  refine Within.bind (Within.each (fun q => send_calm p _) _) fun _ => ?_
  refine Within.bind (Within.onlyIf (send_calm host _)) fun _ => ?_
  refine Within.bind (calm_modifyPlayer (fun _ => rfl) (fun _ => rfl) fun _ => rfl) fun _ => ?_
  exact calm_modifyPlayer (fun _ => rfl) (fun _ => rfl) fun _ => rfl

theorem removeSpectator_calm (host p : PlayerRef) : Within Calm (removeSpectator host p) := by
  refine Within.read_bind fun s => Moves.ite (fun _ => ?_) fun _ => Moves.raise _
  refine Within.moves (Within.bind ?_ fun _ => Within.bind ?_ fun _ => ?_)
  · exact calm_modifyPlayer (fun _ => rfl) (fun _ => rfl) fun _ => rfl
  · exact calm_modifyPlayer (fun _ => rfl) (fun _ => rfl) fun _ => rfl
  split
  · exact Within.raise _
  · refine Within.bind (leaveChannel_work p _ true).calm fun _ => Within.read_bind fun t => ?_
    refine Within.moves (Within.bind (Within.onlyIf (leaveChannel_work host _ true).calm) fun _ => ?_)
    refine Within.bind (Within.onlyIf (Within.bind (Within.lift _) fun info => ?_)) fun _ =>
      send_calm host _
    refine Within.bind (send_calm host info) fun _ => ?_
    exact Within.bind (sendAll_work _ _).calm fun _ => (sendAll_work _ info).calm

theorem deleteKey_calm {κ : Type} [DecidableEq κ] {index : Players → κ → Option PlayerRef}
    {write : Players → (κ → Option PlayerRef) → Players} {key : κ}
    (h : ∀ ps name p, (write ps (Function.update (index ps) key none)).byName name = some p →
      ps.byName name = some p) :
    Within Calm (deleteKey index write key) :=
  Within.read_bind fun s => Moves.ite (fun _ => Moves.raise _) fun _ =>
    Calm.of_players fun name p => h s.players name p

theorem playersRemove_calm (p : PlayerRef) : Within Calm (playersRemove p) := by
  refine Within.read_bind fun s => Moves.ite (fun _ => ?_) fun _ => Moves.pure ()
  refine Moves.update_bind (Calm.of_players fun _ _ => id) ?_
  refine Within.moves (Within.bind (deleteKey_calm fun _ _ _ => id) fun _ => ?_)
  refine Within.bind (deleteKey_calm fun _ _ _ => id) fun _ => deleteKey_calm ?_
  intro ps name q hq
  simp only [Function.update_apply] at hq
  split at hq
  · simp at hq
  · exact hq

theorem closeSession_calm (p : PlayerRef) : Within Calm (closeSession p) := by
  refine Within.bind ?_ fun _ => Within.read_bind fun s => ?_
  · refine Within.read_bind fun s => ?_
    split
    · exact removeSpectator_calm _ p s
    · exact Moves.pure ()
  · refine Within.moves (Within.bind (leaveChannels_work p _).calm fun _ => ?_)
    refine Within.bind (playersRemove_calm p) fun _ => ?_
    refine Within.bind (calm_modifyPlayer (fun _ => rfl) (fun _ => rfl) fun _ => rfl) fun _ => ?_
    exact Within.read_bind fun t => Within.onlyIf (sendAll_work _ _).calm t

end BanchoPrism
