import BanchoPrism.Multiplayer.Absorbing

namespace BanchoPrism

open Library Prog

section Sessions

-- The new session object, before it is on the player list.
def freshSession (s : Server) (profile : Profile) : Server :=
  { s with nextPlayer := s.nextPlayer + 1 }.modifyPlayer s.nextPlayer fun blank =>
    { blank with
      id := profile.id
      name := profile.name
      safeName := s.makeSafeName profile.name
      token := profile.token
      priv := profile.priv
      silenceEnd := profile.silenceEnd
      loginTime := profile.loginTime
      blocks := profile.blocks }

theorem login_run (profile : Profile) (s : Server) :
    login profile s = playersAppend s.nextPlayer (freshSession s profile) := rfl

theorem freshSession_player (s : Server) (profile : Profile) (q : PlayerRef) :
    ((freshSession s profile).player q).matchRef = (s.player q).matchRef ∧
      ((freshSession s profile).player q).channels = (s.player q).channels := by
  by_cases hq : q = s.nextPlayer
  · subst hq
    simp [freshSession, Server.modifyPlayer]
  · simp [freshSession, Server.modifyPlayer, hq]

theorem playersAppend_eq (p : PlayerRef) (s : Server) :
    ∃ players, (playersAppend p s).2 = { s with players := players } := by
  unfold playersAppend
  rw [update_run]
  split
  · exact ⟨s.players, rfl⟩
  · exact ⟨_, rfl⟩

theorem login_proper (profile : Profile) : Within Proper (login profile) := by
  intro s ho
  obtain ⟨players, h⟩ := playersAppend_eq s.nextPlayer (freshSession s profile)
  have hseating : (freshSession s profile).seating = s.seating :=
    Seating.ext (funext fun q => (freshSession_player s profile q).1) rfl
  rw [login_run, h]
  refine ⟨?_, Seating.Kept.of_seat_eq fun r i => rfl⟩
  exact {
    agrees := hseating.symm ▸ ho.agrees
    status := ho.status
    listed := ho.listed.congr rfl fun q => (freshSession_player s profile q).2
    registered := fun {q r} hr => ho.registered ((freshSession_player s profile q).1 ▸ hr)
    bounded := ho.bounded
    distinct := ho.distinct }

theorem LeaveSafe.of_silenced {s : Server} {p : PlayerRef} (h : LeaveSafe s p) (until_ : Int)
    (sent : List (PlayerRef × ServerPacket)) :
    LeaveSafe { s.modifyPlayer p (fun player => { player with silenceEnd := until_ }) with
      sent := sent } p := by
  unfold LeaveSafe Announces nextHost Releases at *
  simp only [silenced_player]
  exact h

end Sessions

section Guard

-- The steps that leave players and slots in agreement. A message is safe unless
-- it is an !mp force that would give somebody a slot that is taken.
def Packet.Safe (s : Server) (p : PlayerRef) (clock : Clock) : Packet → Prop
  | .logout => clock.now - (s.player p).loginTime < 1 ∨ LeaveSafe s p
  | .partMatch => LeaveSafe s p
  | .joinMatch matchId _ =>
      (s.player p).silenced clock.now ∨ ∀ r ∈ joinTarget s matchId, JoinSafe s p r
  | .lock slotId => LockSafe s p slotId
  | .sendMessage _ recipient mp => ∀ join ∈ forced s p recipient mp, JoinSafe s join.1 join.2
  | _ => True

instance Packet.Safe.decidable (s : Server) (p : PlayerRef) (clock : Clock) (packet : Packet) :
    Decidable (packet.Safe s p clock) :=
  match packet with
  | .logout => inferInstanceAs (Decidable (_ ∨ LeaveSafe s p))
  | .partMatch => inferInstanceAs (Decidable (LeaveSafe s p))
  | .joinMatch matchId _ =>
      inferInstanceAs (Decidable (_ ∨ ∀ r ∈ joinTarget s matchId, JoinSafe s p r))
  | .lock slotId => inferInstanceAs (Decidable (LockSafe s p slotId))
  | .sendMessage _ recipient mp =>
      inferInstanceAs (Decidable (∀ join ∈ forced s p recipient mp, JoinSafe s join.1 join.2))
  | .partLobby | .joinLobby | .ready | .changeSettings _ | .start | .scoreUpdate _ | .complete
  | .changeMods _ | .loadComplete | .noBeatmap | .notReady | .failed | .hasBeatmap | .skipRequest
  | .channelJoin _ | .channelPart _ | .tourneyMatchInfo _ | .tourneyJoinChannel _
  | .tourneyLeaveChannel _ | .changeTeam | .invite _ | .changePassword _ | .startSpectating _
  | .stopSpectating | .cantSpectate | .transferHost _ | .createMatch _ | .changeSlot _ => isTrue trivial

def Event.Safe (w : World) : Event → Prop
  | .packet p request clock => request.Safe w.server p clock
  | .disconnect p => LeaveSafe w.server p
  | .silence p _ _ => LeaveSafe w.server p
  | _ => True

instance Event.Safe.decidable (w : World) (event : Event) : Decidable (event.Safe w) :=
  match event with
  | .packet p request clock => inferInstanceAs (Decidable (request.Safe w.server p clock))
  | .disconnect p => inferInstanceAs (Decidable (LeaveSafe w.server p))
  | .silence p _ _ => inferInstanceAs (Decidable (LeaveSafe w.server p))
  | .login _ | .resume _ _ _ | .startTimer _ => isTrue trivial

end Guard

section Steps

theorem proper_absorbing : Absorbing Proper where
  quiet h := h.toSeated.proper
  left h h' := h.trans_seated h'.toSeated
  right h h' := h.toSeated.trans_proper h'

theorem handle_proper {packet : Packet} {p : PlayerRef} {clock : Clock} {s : Server}
    (hmoving : packet.moving) (hsafe : packet.Safe s p clock) :
    Moves Proper s (packet.handle p clock) := by
  have hR := proper_absorbing
  cases packet with
  | logout =>
    refine hR.finished (Moves.read_bind (Moves.ite (fun _ => Moves.pure ()) fun hlate => ?_))
    exact hR.logout (leaveMatch_proper (hsafe.resolve_left hlate))
  | createMatch data => exact hR.finished (matchCreate_proper p data clock.now s)
  | joinMatch matchId passwd =>
    refine hR.finished (hR.matchJoin fun hs r hr => ?_)
    exact joinMatch_proper passwd (joinTarget_listed hr) (hsafe.resolve_left hs r hr)
  | partMatch => exact hR.finished (leaveMatch_proper hsafe)
  | changeSlot slotId => exact hR.finished (matchChangeSlot_proper p slotId s)
  | lock slotId => exact hR.finished (matchLock_proper hsafe)
  | transferHost slotId => exact hR.finished (matchTransferHost_seated p slotId s).proper
  | sendMessage text recipient mp =>
    refine hR.sendMessage (fun ctx r s => (mpHost_seated ctx r s).proper) ?_
    intro sent ⟨target, r⟩ hforced ho
    exact joinMatch_proper (s := { s with sent := sent }) _
      (ho.registered (forced_eq_some hforced).1) (hsafe (target, r) hforced) ho
  | _ => cases hmoving

theorem step_proper {w : World} {event : Event} (hsafe : event.Safe w) :
    Proper w.server (w.step event).server := by
  have hR := proper_absorbing
  refine hR.step (fun profile _ => login_proper profile _) ?_ ?_ ?_
  · rintro p packet clock rfl - hmoving
    exact handle_proper hmoving hsafe
  · rintro p rfl
    exact hR.logout (leaveMatch_proper hsafe)
  · rintro p now duration rfl
    exact hR.silence fun sent => leaveMatch_proper (hsafe.of_silenced _ sent)

theorem start_players (setup : Setup) (q : PlayerRef) :
    (setup.start.server.player q).matchRef = none ∧ (setup.start.server.player q).channels = [] := by
  unfold Setup.start
  extract_lets server bot
  obtain ⟨players, h⟩ := playersAppend_eq botRef (server.modifyPlayer botRef fun _ => bot)
  rw [h]
  by_cases hq : q = botRef
  · subst hq
    simp [Server.modifyPlayer, bot]
  · simp [Server.modifyPlayer, hq, server]

theorem start_matches (setup : Setup) :
    setup.start.server.matchList = (fun _ => none) ∧
      setup.start.server.matchAt = fun _ => default := by
  unfold Setup.start
  extract_lets server bot
  obtain ⟨players, h⟩ := playersAppend_eq botRef (server.modifyPlayer botRef fun _ => bot)
  rw [h]
  exact ⟨rfl, rfl⟩

theorem start_members (setup : Setup) (c : ChannelRef) :
    (setup.start.server.channel c).players = [] := by
  unfold Setup.start
  extract_lets server bot
  obtain ⟨players, h⟩ := playersAppend_eq botRef (server.modifyPlayer botRef fun _ => bot)
  rw [h]
  show ((setup.rows[c]?.map ChannelRow.toChannel).getD default).players = []
  cases setup.rows[c]? <;> rfl

theorem start_orderly (setup : Setup) : Orderly setup.start.server := by
  obtain ⟨hlist, hmatch⟩ := start_matches setup
  have hplace : ∀ q, (setup.start.server.player q).matchRef = none := fun q =>
    (start_players setup q).1
  have hseat : ∀ r i, ((setup.start.server.matchAt r).slots i) = {} := by
    intro r i
    rw [hmatch]
    rfl
  exact {
    agrees := {
      seated := fun {r i g} h => by
        have hnone : (((setup.start.server.matchAt r).slots i).player) = some g := h
        rw [hseat] at hnone
        cases hnone
      unique := fun {r i j g} h => by
        have hnone : (((setup.start.server.matchAt r).slots i).player) = some g := h
        rw [hseat] at hnone
        cases hnone
      present := fun {r g} h => by
        have hnone : (setup.start.server.player g).matchRef = some r := h
        rw [hplace] at hnone
        cases hnone }
    status := fun r i => by
      rw [hseat]
      rfl
    listed := fun c => by
      rw [start_members]
      exact ⟨List.nodup_nil, fun q hq => by cases hq⟩
    registered := fun {q r} h => by
      rw [hplace] at h
      cases h
    bounded := fun {k r} h => by
      rw [hlist] at h
      cases h
    distinct := fun {k l r} h => by
      rw [hlist] at h
      cases h }

end Steps

section Runs

-- player.match and the slots of the registered matches tell the same story.
structure SeatsAgree (s : Server) : Prop where
  place : ∀ p r, (∃ k, s.matchList k = some r) →
    ((s.player p).matchRef = some r ↔ ∃! i, ((s.matchAt r).slots i).player = some p)
  status : ∀ r i, (∃ k, s.matchList k = some r) → ((s.matchAt r).slots i).player.isSome →
    ((s.matchAt r).slots i).status ≠ .open_ ∧ ((s.matchAt r).slots i).status ≠ .locked
  found : ∀ p r, (s.player p).matchRef = some r → (s.matchAt r).getSlotId p ≠ none

theorem Orderly.seatsAgree {s : Server} (ho : Orderly s) : SeatsAgree s where
  place p r _ := ho.agrees.place_iff_existsUnique p r
  status r i _ hp := by
    rw [← ho.status r i] at hp
    constructor
    all_goals
      intro h
      rw [h] at hp
      cases hp
  found p r hr := by
    obtain ⟨i, hi⟩ := ho.getSlotId_isSome hr
    rw [hi]
    exact Option.some_ne_none i

-- Slots are emptied or stay with whom they hold.
def NobodyOverwritten (s t : Server) : Prop := s.seating.Kept t.seating

theorem orderly_of_safe (setup : Setup) {run : List Event}
    (h : Guarded World.step (fun w event => event.Safe w) setup.start run) :
    Orderly (runFrom World.step setup.start run).server :=
  Guarded.invariant (fun w => Orderly w.server)
    (fun _ _ ho hsafe => (step_proper hsafe ho).1) (start_orderly setup) h

-- Along a run of safe steps players and slots agree, and the next safe step
-- overwrites nobody.
theorem seatsAgree_of_safe (setup : Setup) (run : List Event)
    (h : Guarded World.step (fun w event => event.Safe w) setup.start run) :
    SeatsAgree (runFrom World.step setup.start run).server ∧
      ∀ event : Event, event.Safe (runFrom World.step setup.start run) →
        NobodyOverwritten (runFrom World.step setup.start run).server
          ((runFrom World.step setup.start run).step event).server := by
  have ho := orderly_of_safe setup h
  exact ⟨ho.seatsAgree, fun event hsafe => (step_proper hsafe ho).2⟩

def visit (id : Nat) : Event :=
  .login { id := id, name := toString id, token := toString id, priv := 3 }

def plainMatch (hostId : Int) : MultiplayerMatch :=
  { mods := 0
    name := ""
    passwd := ""
    mapName := ""
    mapId := -1
    mapMd5 := ""
    hostId := hostId
    mode := 0
    winCondition := 0
    teamType := 0
    freemods := false
    seed := 0 }

-- Players 1, 2 and 3 log in, 1 opens a match and 2 joins it.
def twoInAMatch : List Event :=
  [visit 11, visit 12, visit 13, .packet 1 (.createMatch (plainMatch 11)) { now := 10 },
    .packet 2 (.joinMatch 0 "") { now := 10 }]

-- Locking a free slot, moving to another one, and everybody leaving.
theorem seatsAgree_of_safe_twoInAMatch :
    SeatsAgree (runFrom World.step (Setup.start {}) (twoInAMatch ++
      [.packet 1 (.lock 2) { now := 10 }, .packet 2 (.changeSlot 3) { now := 10 },
        .packet 3 (.joinMatch 0 "") { now := 10 }, .packet 1 .partMatch { now := 10 },
        .packet 2 .partMatch { now := 10 }, .packet 3 .logout { now := 10 }])).server :=
  (seatsAgree_of_safe {} _ (by decide +kernel)).1

-- The host locks the slot of player 2 and unlocks it; player 3 is given it.
theorem seatsAgree_lock_unlock :
    let w := runFrom World.step (Setup.start {}) (twoInAMatch ++
      [.packet 1 (.lock 1) { now := 10 }, .packet 1 (.lock 1) { now := 10 }])
    let w' := w.step (.packet 3 (.joinMatch 0 "") { now := 10 })
    ¬NobodyOverwritten w.server w'.server ∧ ¬SeatsAgree w'.server := by
  intro w w'
  constructor
  · intro h
    have hbefore : w.server.seating.seat 0 1 = some 2 := by decide +kernel
    have hafter : w'.server.seating.seat 0 1 = some 3 := by decide +kernel
    rcases h 0 1 2 hbefore with h | h <;> simp [hafter] at h
  · intro h
    exact h.found 2 0 (by decide +kernel) (by decide +kernel)

end Runs

end BanchoPrism
