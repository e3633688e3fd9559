import BanchoPrism.Multiplayer.Hosts.Departures

namespace BanchoPrism

open Library Prog

section Sessions

theorem playersAppend_byName {p q : PlayerRef} {s : Server} {name : String}
    (h : (playersAppend p s).2.players.byName name = some q) :
    q = p ∨ s.players.byName name = some q := by
  unfold playersAppend at h
  rw [update_run] at h
  split at h
  · exact .inr h
  · by_cases hname : name = (s.player p).safeName
    · subst hname
      simp only [Function.update_self] at h
      exact .inl (Option.some.inj h).symm
    · simp only [Function.update_of_ne hname] at h
      exact .inr h

-- The new session is in no match yet, so no match sees its id change.
theorem login_tended (profile : Profile) : Within Tended (login profile) := by
  intro s ha
  obtain ⟨players, h⟩ := playersAppend_eq s.nextPlayer (freshSession s profile)
  have hnames : ∀ {name q}, players.byName name = some q →
      q = s.nextPlayer ∨ s.players.byName name = some q := fun hq =>
    playersAppend_byName (s := freshSession s profile) (by rw [h]; exact hq)
  have hid : ∀ q, q < s.nextPlayer → ((freshSession s profile).player q).id = (s.player q).id := by
    intro q hq
    simp [freshSession, Server.modifyPlayer, Nat.ne_of_lt hq]
  rw [login_run, h]
  exact {
    id := ha.id
    bounded := ha.bounded
    sessions := fun {r i q} hq => Nat.lt_succ_of_lt (ha.sessions (r := r) hq)
    known := fun name q hq => by
      rcases hnames hq with rfl | hold
      · exact Nat.lt_succ_self _
      · exact Nat.lt_succ_of_lt (ha.known name q hold)
    listed := ha.listed.congr rfl fun q => (freshSession_player s profile q).2
    host := fun {r} hreg hno => by
      obtain ⟨i, hi, q, hq, hhost⟩ := ha.host hreg hno
      exact ⟨i, hi, q, hq, (hid q (ha.sessions (r := r) hq)).trans hhost⟩ }

theorem LeaveKeepsHost.of_silenced {s : Server} {p : PlayerRef} (h : LeaveKeepsHost s p)
    (until_ : Int) (sent : List (PlayerRef × ServerPacket)) :
    LeaveKeepsHost { s.modifyPlayer p (fun player => { player with silenceEnd := until_ }) with
      sent := sent } p := by
  unfold LeaveKeepsHost HostSits Releases at *
  simp only [silenced_player]
  exact h

end Sessions

section Guard

-- The steps that leave every match on the list its host.
def Packet.KeepsHosts (s : Server) (p : PlayerRef) (clock : Clock) : Packet → Prop
  | .logout => clock.now - (s.player p).loginTime < 1 ∨ LeaveKeepsHost s p
  | .createMatch data => CreateKeepsHost s p data clock.now
  | .joinMatch matchId passwd =>
      (s.player p).silenced clock.now ∨ ∀ r ∈ joinTarget s matchId, JoinKeepsHost s p r passwd
  | .partMatch => LeaveKeepsHost s p
  | .changeSlot slotId => MoveKeepsHost s p slotId
  | .sendMessage _ recipient mp => ∀ join ∈ forced s p recipient mp,
      JoinKeepsHost s join.1 join.2 (s.matchAt join.2).passwd
  | _ => True

instance Packet.KeepsHosts.decidable (s : Server) (p : PlayerRef) (clock : Clock)
    (packet : Packet) : Decidable (packet.KeepsHosts s p clock) :=
  match packet with
  | .logout => inferInstanceAs (Decidable (_ ∨ LeaveKeepsHost s p))
  | .createMatch data => inferInstanceAs (Decidable (CreateKeepsHost s p data clock.now))
  | .joinMatch matchId passwd =>
      inferInstanceAs (Decidable (_ ∨ ∀ r ∈ joinTarget s matchId, JoinKeepsHost s p r passwd))
  | .partMatch => inferInstanceAs (Decidable (LeaveKeepsHost s p))
  | .changeSlot slotId => inferInstanceAs (Decidable (MoveKeepsHost s p slotId))
  | .sendMessage _ recipient mp => inferInstanceAs (Decidable (∀ join ∈ forced s p recipient mp,
      JoinKeepsHost s join.1 join.2 (s.matchAt join.2).passwd))
  | .partLobby | .joinLobby | .ready | .changeSettings _ | .start | .scoreUpdate _ | .complete
  | .changeMods _ | .loadComplete | .noBeatmap | .notReady | .failed | .hasBeatmap | .skipRequest
  | .channelJoin _ | .channelPart _ | .tourneyMatchInfo _ | .tourneyJoinChannel _
  | .tourneyLeaveChannel _ | .changeTeam | .invite _ | .changePassword _ | .startSpectating _
  | .stopSpectating | .cantSpectate | .transferHost _ | .lock _ => isTrue trivial

def Event.KeepsHosts (w : World) : Event → Prop
  | .packet p request clock => request.KeepsHosts w.server p clock
  | .disconnect p => LeaveKeepsHost w.server p
  | .silence p _ _ => LeaveKeepsHost w.server p
  | _ => True

instance Event.KeepsHosts.decidable (w : World) (event : Event) :
    Decidable (event.KeepsHosts w) :=
  match event with
  | .packet p request clock => inferInstanceAs (Decidable (request.KeepsHosts w.server p clock))
  | .disconnect p => inferInstanceAs (Decidable (LeaveKeepsHost w.server p))
  | .silence p _ _ => inferInstanceAs (Decidable (LeaveKeepsHost w.server p))
  | .login _ | .resume _ _ _ | .startTimer _ => isTrue trivial

end Guard

section Steps

theorem tended_absorbing : Absorbing Tended where
  quiet h := h.toHosted.tended
  left h h' ha := (h ha).of_hosted h'.toHosted
  right h h' ha := h' (ha.of_hosted h.toHosted)

theorem handle_tended {packet : Packet} {p : PlayerRef} {clock : Clock} {s : Server}
    (hp : p < s.nextPlayer) (hmoving : packet.moving) (hkeep : packet.KeepsHosts s p clock) :
    Moves Tended s (packet.handle p clock) := by
  have hR := tended_absorbing
  cases packet with
  | logout =>
    refine hR.finished (Moves.read_bind (Moves.ite (fun _ => Moves.pure ()) fun hlate => ?_))
    exact hR.logout (leaveMatch_tended (hkeep.resolve_left hlate))
  | createMatch data => exact hR.finished (matchCreate_tended hp hkeep)
  | joinMatch matchId passwd =>
    refine hR.finished (hR.matchJoin fun hs r hr => ?_)
    exact joinMatch_tended hp (hkeep.resolve_left hs r hr)
  | partMatch => exact hR.finished (leaveMatch_tended hkeep)
  | changeSlot slotId => exact hR.finished (matchChangeSlot_tended hkeep)
  | lock slotId => exact hR.finished (matchLock_tended p slotId s)
  | transferHost slotId => exact hR.finished (matchTransferHost_tended p slotId s)
  | sendMessage text recipient mp =>
    refine hR.sendMessage mpHost_tended ?_
    intro sent ⟨target, r⟩ hforced ha
    obtain ⟨name, hname⟩ := (forced_eq_some hforced).2
    exact joinMatch_tended (s := { s with sent := sent }) (ha.known _ target hname)
      (hkeep (target, r) hforced) ha
  | _ => cases hmoving

theorem step_tended {w : World} {event : Event} (hkeep : event.KeepsHosts w) :
    Tended w.server (w.step event).server := by
  have hR := tended_absorbing
  refine hR.step (fun profile _ => login_tended profile _) ?_ ?_ ?_
  · rintro p packet clock rfl hp hmoving
    exact handle_tended hp hmoving hkeep
  · rintro p rfl
    exact hR.logout (leaveMatch_tended hkeep)
  · rintro p now duration rfl
    exact hR.silence fun sent => leaveMatch_tended (hkeep.of_silenced _ sent)

theorem start_known (setup : Setup) : setup.start.server.Known := by
  unfold Setup.start
  extract_lets server bot
  intro name q hq
  obtain ⟨players, h⟩ := playersAppend_eq botRef (server.modifyPlayer botRef fun _ => bot)
  rcases playersAppend_byName hq with rfl | hold
  · rw [h]
    exact Nat.zero_lt_one
  · cases hold

theorem start_attended (setup : Setup) : Attended setup.start.server := by
  obtain ⟨hlist, hmatch⟩ := start_matches setup
  have hno : ∀ k r, setup.start.server.matchList k ≠ some r := by simp [hlist]
  exact {
    id := fun {k r} hk => absurd hk (hno k r)
    bounded := fun {k r} hk => absurd hk (hno k r)
    sessions := fun {r i q} hq => by
      rw [hmatch] at hq
      cases hq
    known := start_known setup
    listed := (start_orderly setup).listed
    host := fun {r} hreg _ => by
      obtain ⟨k, hk⟩ := hreg
      exact absurd hk (hno k r) }

end Steps

section Runs

-- Every match on the list is at its id, is not empty, and its host is in one of
-- its slots.
structure HostsPresent (s : Server) : Prop where
  id : ∀ k r, s.matchList k = some r → (s.matchAt r).id = k
  occupied : ∀ k r, s.matchList k = some r → ∃ i, ((s.matchAt r).slots i).player.isSome
  host : ∀ k r, s.matchList k = some r →
    ∃ i q, ((s.matchAt r).slots i).player = some q ∧ (s.player q).id = (s.matchAt r).hostId

theorem Attended.hostsPresent {s : Server} (ha : Attended s) : HostsPresent s where
  id _ _ hk := ha.id hk
  occupied k r hk := by
    obtain ⟨i, -, q, hq, -⟩ := ha.host ⟨k, hk⟩ fun h => h
    exact ⟨i, Option.isSome_of_mem hq⟩
  host k r hk := by
    obtain ⟨i, -, q, hq, hid⟩ := ha.host ⟨k, hk⟩ fun h => h
    exact ⟨i, q, hq, hid⟩

theorem hostsPresent_of_keepsHosts (setup : Setup) (run : List Event)
    (h : Guarded World.step (fun w event => event.KeepsHosts w) setup.start run) :
    HostsPresent (runFrom World.step setup.start run).server :=
  (Guarded.invariant (fun w => Attended w.server) (fun _ _ ha hkeep => step_tended hkeep ha)
    (start_attended setup) h).hostsPresent

-- The host moves and leaves, the host is handed over, and the last player goes.
theorem hostsPresent_of_keepsHosts_twoInAMatch :
    HostsPresent (runFrom World.step (Setup.start {}) (twoInAMatch ++
      [.packet 1 (.changeSlot 5) { now := 10 }, .packet 1 (.transferHost 1) { now := 10 },
        .packet 2 .partMatch { now := 10 }, .packet 3 (.joinMatch 0 "") { now := 10 },
        .packet 1 .logout { now := 10 }])).server :=
  hostsPresent_of_keepsHosts {} _ (by decide +kernel)

-- Player 1 opens a second match while in the first; nobody is in it.
theorem hostsPresent_second_create :
    ¬HostsPresent (runFrom World.step (Setup.start {})
      [visit 11, .packet 1 (.createMatch (plainMatch 11)) { now := 10 },
        .packet 1 (.createMatch (plainMatch 11)) { now := 10 }]).server := by
  intro h
  obtain ⟨i, hi⟩ := h.occupied 1 1 (by decide)
  rw [(allEmpty_iff _).mp (by decide) i] at hi
  cases hi

end Runs

end BanchoPrism
