import BanchoPrism.Multiplayer.Leaving

namespace BanchoPrism

open Library Prog

-- A relation that steps which move nobody may precede and follow.
structure Absorbing (R : Server → Server → Prop) : Prop where
  quiet : ∀ {s t}, Quiet s t → R s t
  left : ∀ {s t u}, R s t → Quiet t u → R s u
  right : ∀ {s t u}, Quiet s t → R t u → R s u

section Rules

variable {R : Server → Server → Prop} {α β : Type} {s : Server}

theorem Absorbing.moves (hR : Absorbing R) {x : Handler α} (h : Within Quiet x) : Moves R s x :=
  hR.quiet (h s)

theorem Absorbing.bind (hR : Absorbing R) {x : Handler α} {f : α → Handler β} (hx : Moves R s x)
    (hf : ∀ a, Within Quiet (f a)) : Moves R s (x >>= f) :=
  Moves.bind_left (R := R) (S := Quiet) hR.left hx fun a t _ => hf a t

theorem Absorbing.after (hR : Absorbing R) {x : Handler α} {f : α → Handler β}
    (hx : Moves Quiet s x) (hf : ∀ a t, x s = (.ok a, t) → Moves R t (f a)) :
    Moves R s (x >>= f) :=
  Moves.bind_right (R := R) (S := Quiet) hR.right hR.quiet hx hf

theorem Absorbing.finished (hR : Absorbing R) {handler : Handler Unit} (h : Moves R s handler) :
    Moves R s (finished handler) :=
  hR.bind h fun _ => Within.pure none

theorem Absorbing.attempt (hR : Absorbing R) {body : Handler α} {handler : PyError → Handler α}
    (hb : Moves R s body) (hh : ∀ e, Within Quiet (handler e)) :
    Moves R s (Prog.attempt body handler) := by
  unfold Moves Prog.attempt at *
  rcases h : body s with ⟨e | a, t⟩
  · exact hR.left (by simpa [h] using hb) (hh e t)
  · simpa [h] using hb

end Rules

section Reply

theorem respond_calm (call : Call) (reply : Option String) : Within Calm (respond call reply) := by
  have hselective : ∀ c sender msg recipient, Within Calm (sendSelective c sender msg recipient) :=
    fun _ _ _ _ => Within.read_bind fun t => (sendAll_work _ _).calm t
  refine Within.read_bind fun s => ?_
  cases reply with
  | none => exact (sendChannel_work _ _ _).calm s
  | some resp =>
    refine Moves.ite (fun _ => ?_) fun _ => ?_
    · exact Within.moves (Within.bind (hselective _ _ _ _) fun _ => hselective _ _ _ _)
    · exact Within.moves (Within.bind (sendChannel_work _ _ _).calm fun _ => (sendBot_work _ _).calm)

theorem afterReply_calm (call : Call) (elapsed : String) (reply : Option MatchRef × Reply) :
    Within Calm (afterReply call elapsed reply) := by
  unfold afterReply
  split
  · exact Within.pure _
  · exact Within.bind (respond_calm call _) fun _ => Within.pure none
  · exact Within.bind (respond_calm call _) fun _ => Within.pure none

theorem commandFailed_calm (r : Option MatchRef) (e : PyError) : Within Calm (commandFailed r e) :=
  Within.pure _

theorem resume_calm (next : Suspended) (found : Lookup) (elapsed : String) :
    Within Calm (next.resume found elapsed) := by
  cases next with
  | settings p data =>
    exact Within.bind (resumeChangeSettings_calm p data found.beatmap) fun _ => Within.pure none
  | command call r pause =>
    refine Within.bind (Within.attempt ?_ (commandFailed_calm (some r))) fun reply =>
      afterReply_calm call elapsed reply
    exact Within.bind (pause.resume_calm r found) fun _ => Within.pure _

theorem truncateMessage_calm (p : PlayerRef) (text : String) :
    Within Calm (truncateMessage p text) :=
  Within.ite (Within.bind (send_calm p _) fun _ => Within.pure _) (Within.pure _)

end Reply

section Force

-- Whom !mp force seats where: a command given in the chat of the match.
def forced (s : Server) (p : PlayerRef) (recipient : String) :
    Option (String × List String) → Option (PlayerRef × MatchRef)
  | some (trigger, [name]) => do
      let c ← recipientChannel s p recipient
      let r ← (s.player p).matchRef
      if p ∈ (s.channel c).players ∧ (s.matchAt r).chat = c ∧
          MpCommand.find trigger (s.player p).priv = some .force then
        (s.getByName name).map fun target => (target, r)
      else none
  | _ => none

theorem forced_eq_some {s : Server} {p target : PlayerRef} {r : MatchRef} {recipient : String}
    {mp : Option (String × List String)} (h : forced s p recipient mp = some (target, r)) :
    (s.player p).matchRef = some r ∧ ∃ name, s.getByName name = some target := by
  unfold forced at h
  split at h
  · rename_i trigger name
    obtain ⟨c, -, h⟩ := Option.bind_eq_some_iff.mp h
    obtain ⟨r', hr, h⟩ := Option.bind_eq_some_iff.mp h
    split at h
    · obtain ⟨target', ht, he⟩ := Option.map_eq_some_iff.mp h
      cases he
      exact ⟨hr, name, ht⟩
    · cases h
  · cases h

variable {R : Server → Server → Prop} {s : Server}

theorem Absorbing.mpForce (hR : Absorbing R) {ctx : Context} {r : MatchRef}
    (hjoin : ∀ name, ctx.args = [name] → ∀ target ∈ s.getByName name,
      Moves R s (joinMatch target r (s.matchAt r).passwd)) : Moves R s (mpForce ctx r) := by
  have : Std.Refl R := ⟨fun s => hR.quiet (Quiet.refl s)⟩
  unfold BanchoPrism.mpForce oneArg
  split
  · rename_i name hargs
    refine Moves.read_bind ?_
    split
    · rename_i target htarget
      exact Moves.read_bind (hR.bind (hjoin name hargs target htarget) fun _ => Within.pure _)
    · exact Moves.pure _
  · exact Moves.pure _

theorem Absorbing.ensureMatch (hR : Absorbing R) {command : MpCommand} {ctx : Context}
    {c : ChannelRef} (hhost : ∀ r, Moves R s (mpHost ctx r))
    (hjoin : command = .force → ∀ r, (s.player ctx.player).matchRef = some r →
      (s.matchAt r).chat = c → ∀ name, ctx.args = [name] → ∀ target ∈ s.getByName name,
      Moves R s (joinMatch target r (s.matchAt r).passwd)) :
    Moves R s (ensureMatch ctx c command) := by
  have : Std.Refl R := ⟨fun s => hR.quiet (Quiet.refl s)⟩
  refine Moves.read_bind ?_
  split
  · exact Moves.pure _
  rename_i r hr
  refine Moves.ite (fun _ => Moves.pure _) fun hc => Moves.lift_bind fun refs _ => ?_
  refine Moves.ite (fun _ => hR.bind ?_ fun _ => Within.pure _) fun _ => Moves.pure _
  by_cases hforce : command = .force
  · subst hforce
    exact hR.mpForce (hjoin rfl r hr (not_not.mp hc))
  by_cases hcommand : command = .host
  · subst hcommand
    exact hhost r
  · exact hR.moves (MpCommand.run_quiet ctx r hcommand hforce)

theorem truncateMessage_run (p : PlayerRef) (text : String) (s : Server) :
    ∃ msg sent, truncateMessage p text s = (.ok msg, { s with sent := sent }) := by
  unfold truncateMessage
  split
  · obtain ⟨sent, h⟩ := send_run p
      (.notification "Your message was truncated\n(exceeded 2000 characters).") s
    exact ⟨_, sent, by rw [bind_run_ok h]; rfl⟩
  · exact ⟨text, s.sent, rfl⟩

-- Of all messages only !mp host and !mp force can do more than be quiet; the
-- notice that a message was truncated changes what was sent and nothing else.
theorem Absorbing.sendMessage (hR : Absorbing R) {p : PlayerRef} {text recipient : String}
    {mp : Option (String × List String)} {clock : Clock}
    (hhost : ∀ ctx r, Within R (mpHost ctx r))
    (hjoin : ∀ sent, ∀ join ∈ forced s p recipient mp, Moves R { s with sent := sent }
      (joinMatch join.1 join.2 (s.matchAt join.2).passwd)) :
    Moves R s (sendMessage p text recipient mp clock) := by
  have : Std.Refl R := ⟨fun s => hR.quiet (Quiet.refl s)⟩
  unfold BanchoPrism.sendMessage
  refine Moves.read_bind (Moves.ite (fun _ => Moves.pure _) fun _ => ?_)
  split
  · exact Moves.pure _
  rename_i c hc
  refine Moves.ite (fun _ => Moves.pure _) fun hmember => ?_
  refine hR.after (truncateMessage_calm p text).toQuiet.moves fun msg t ht => ?_
  obtain ⟨msg', sent, hrun⟩ := truncateMessage_run p text s
  rw [hrun] at ht
  obtain rfl : { s with sent := sent } = t := congrArg Prod.snd ht
  split
  · exact hR.moves (Within.bind (sendChannel_work c p msg).quiet fun _ => Within.pure none)
  rename_i command args hfind
  refine hR.bind (hR.attempt ?_ fun e => (commandFailed_calm none e).toQuiet) fun reply =>
    (afterReply_calm _ _ reply).toQuiet
  refine hR.ensureMatch (fun r => hhost _ r _) fun hforce r hr hchat name hargs target htarget => ?_
  obtain ⟨⟨trigger, args'⟩, hmp, hcommand⟩ := Option.bind_eq_some_iff.mp hfind
  obtain ⟨command', hforced, he⟩ := Option.map_eq_some_iff.mp hcommand
  cases he
  cases hargs
  refine hjoin sent (target, r) ?_
  have hin : p ∈ (s.channel c).players := by
    by_contra hno
    exact hmember (.inl hno)
  have hget : s.getByName name = some target := htarget
  subst hmp
  simp only [forced, hc]
  have hr' : (s.player p).matchRef = some r := hr
  have hchat' : (s.matchAt r).chat = c := hchat
  rw [hforce] at hforced
  simp [hr', hin, hchat', hforced, hget]

end Force

section Joining

variable {R : Server → Server → Prop} {s : Server}

-- The match a MATCH_JOIN names, if there is one.
def joinTarget (s : Server) (matchId : Int) : Option MatchRef :=
  match s.matchAtIndex matchId with
  | .ok r => r
  | .error _ => none

theorem joinTarget_listed {s : Server} {matchId : Int} {r : MatchRef}
    (h : joinTarget s matchId = some r) : ∃ k, s.matchList k = some r := by
  unfold joinTarget Server.matchAtIndex at h
  split at h
  · rename_i found hfound
    subst h
    split at hfound
    · exact ⟨_, Except.ok.inj hfound⟩
    · split at hfound
      · exact ⟨_, Except.ok.inj hfound⟩
      · cases hfound
  · cases h

theorem Absorbing.matchJoin (hR : Absorbing R) {p : PlayerRef} {matchId : Int} {passwd : String}
    {now : Int} (hjoin : ¬(s.player p).silenced now → ∀ r ∈ joinTarget s matchId,
      Moves R s (joinMatch p r passwd)) : Moves R s (matchJoin p matchId passwd now) := by
  have : Std.Refl R := ⟨fun s => hR.quiet (Quiet.refl s)⟩
  refine Moves.read_bind (Moves.lift_bind fun found hfound => ?_)
  split
  · exact hR.moves (send_quiet p _)
  rename_i r
  refine Moves.ite (fun _ => hR.moves (refuseMultiplayer_calm p _).toQuiet) fun _ => ?_
  refine Moves.ite (fun _ => hR.moves (refuseMultiplayer_calm p _).toQuiet) fun hs => ?_
  exact hR.bind (hjoin hs r (by simp [joinTarget, hfound])) fun _ => Within.pure ()

theorem Absorbing.logout (hR : Absorbing R) {p : PlayerRef} (h : Moves R s (leaveMatch p)) :
    Moves R s (logout p) :=
  hR.bind h fun _ => (closeSession_calm p).toQuiet

-- A player who is silenced is silenced before the match is left.
theorem Absorbing.silence (hR : Absorbing R) {p : PlayerRef} {now duration : Int}
    (h : ∀ sent, Moves R { s.modifyPlayer p (fun player =>
      { player with silenceEnd := now + duration }) with sent := sent } (leaveMatch p)) :
    Moves R s (silence p now duration) := by
  have : Std.Refl R := ⟨fun s => hR.quiet (Quiet.refl s)⟩
  let t := s.modifyPlayer p fun player => { player with silenceEnd := now + duration }
  have hst : Quiet s t := Quiet.of_modifyPlayer rfl rfl (List.Subset.refl _)
  obtain ⟨sent, hend⟩ := send_run p (.silenceEnd duration) t
  obtain ⟨sent', hall⟩ := sendAll_run t.players.list (.userSilenced (t.player p).id)
    { t with sent := sent }
  have hrun : BanchoPrism.silence p now duration s =
      (if (t.player p).matchRef.isSome then leaveMatch p else pure ()) { t with sent := sent' } := by
    unfold BanchoPrism.silence
    rw [update_bind_run, read_bind_run, bind_run_ok hend]
    exact bind_run_ok hall
  have htu : Quiet t { t with sent := sent' } := (ChannelWork.of_sent t sent').quiet
  rw [Moves, hrun]
  exact hR.right (hst.trans htu) (Moves.ite (fun _ => h sent') fun _ => Moves.pure ())

theorem silenced_player (s : Server) (p q : PlayerRef) (until_ : Int) :
    (s.modifyPlayer p fun player => { player with silenceEnd := until_ }).player q =
      { s.player q with silenceEnd := if q = p then until_ else (s.player q).silenceEnd } := by
  by_cases hq : q = p
  · subst hq
    simp [Server.modifyPlayer]
  · simp [Server.modifyPlayer, hq]

end Joining

section Handlers

-- The packets whose handlers can seat a player, free or lock a slot, or name a
-- host.
def Packet.moving : Packet → Bool
  | logout | createMatch _ | joinMatch _ _ | partMatch | changeSlot _ | lock _ | transferHost _
  | sendMessage _ _ _ => true
  | _ => false

-- Nor those that touch the game.
def Packet.playing : Packet → Bool
  | ready | noBeatmap | notReady | hasBeatmap | start | scoreUpdate _ | complete | failed => true
  | _ => false

theorem finished_quiet {handler : Handler Unit} (h : Within Quiet handler) :
    Within Quiet (finished handler) :=
  Within.bind h fun _ => Within.pure none

theorem finished_calm {handler : Handler Unit} (h : Within Calm handler) :
    Within Calm (finished handler) :=
  Within.bind h fun _ => Within.pure none

theorem Packet.handle_calm {packet : Packet} (hm : packet.moving = false)
    (hp : packet.playing = false) (p : PlayerRef) (clock : Clock) :
    Within Calm (packet.handle p clock) := by
  cases packet with
  | partLobby => exact finished_calm (lobbyPart_calm p)
  | joinLobby => exact finished_calm (lobbyJoin_calm p)
  | changeSettings data =>
    exact Within.bind (matchChangeSettings_calm p data) fun _ => Within.pure _
  | changeMods mods => exact finished_calm (matchChangeMods_calm p mods)
  | loadComplete => exact finished_calm (matchLoadComplete_calm p)
  | skipRequest => exact finished_calm (matchSkipRequest_calm p)
  | channelJoin name => exact finished_calm (channelJoin_calm p name)
  | channelPart name => exact finished_calm (channelPart_calm p name)
  | tourneyMatchInfo matchId => exact finished_calm (tourneyMatchInfoRequest_calm p matchId)
  | tourneyJoinChannel matchId => exact finished_calm (tourneyMatchJoinChannel_calm p matchId)
  | tourneyLeaveChannel matchId => exact finished_calm (tourneyMatchLeaveChannel_calm p matchId)
  | changeTeam => exact finished_calm (matchChangeTeam_calm p)
  | invite userId => exact finished_calm (matchInvite_calm p userId)
  | changePassword data => exact finished_calm (matchChangePassword_calm p data)
  | startSpectating targetId => exact finished_calm (startSpectating_calm p targetId)
  | stopSpectating => exact finished_calm (stopSpectating_calm p)
  | cantSpectate => exact finished_calm (cantSpectate_calm p)
  | logout => cases hm
  | createMatch data => cases hm
  | joinMatch matchId passwd => cases hm
  | partMatch => cases hm
  | changeSlot slotId => cases hm
  | lock slotId => cases hm
  | transferHost slotId => cases hm
  | sendMessage text recipient mp => cases hm
  | ready => cases hp
  | noBeatmap => cases hp
  | notReady => cases hp
  | hasBeatmap => cases hp
  | start => cases hp
  | scoreUpdate playData => cases hp
  | complete => cases hp
  | failed => cases hp

theorem Packet.handle_quiet {packet : Packet} (h : packet.moving = false) (p : PlayerRef)
    (clock : Clock) : Within Quiet (packet.handle p clock) := by
  by_cases hp : packet.playing = false
  · exact (packet.handle_calm h hp p clock).toQuiet
  cases packet with
  | ready => exact finished_quiet (setOwnStatus_quiet p rfl)
  | noBeatmap => exact finished_quiet (setOwnStatus_quiet p rfl)
  | notReady => exact finished_quiet (setOwnStatus_quiet p rfl)
  | hasBeatmap => exact finished_quiet (setOwnStatus_quiet p rfl)
  | start => exact finished_quiet (matchStart_quiet p)
  | scoreUpdate playData => exact finished_quiet (matchScoreUpdate_quiet p playData)
  | complete => exact finished_quiet (matchComplete_quiet p)
  | failed => exact finished_quiet (matchFailed_quiet p)
  | _ => exact absurd rfl hp

theorem runHandler_server (w : World) (handler : Handler (Option Suspended)) :
    (w.runHandler handler).server = (handler w.server).2 := by
  unfold World.runHandler
  split <;> simp_all

variable {R : Server → Server → Prop}

theorem Absorbing.runFor (hR : Absorbing R) {w : World} {p : PlayerRef}
    {handler : Handler (Option Suspended)} (h : p < w.server.nextPlayer → Moves R w.server handler) :
    R w.server (w.runFor p handler).server := by
  unfold World.runFor
  split
  · rw [runHandler_server]
    exact h ‹_›
  · exact hR.quiet (Quiet.refl _)

-- One step, from what its event does to the players who move.
theorem Absorbing.step (hR : Absorbing R) {w : World} {event : Event}
    (hlogin : ∀ profile, event = .login profile → Moves R w.server (login profile))
    (hpacket : ∀ p packet clock, event = .packet p packet clock → p < w.server.nextPlayer →
      packet.moving → Moves R w.server (packet.handle p clock))
    (hdisconnect : ∀ p, event = .disconnect p → Moves R w.server (BanchoPrism.logout p))
    (hsilence : ∀ p now duration, event = .silence p now duration →
      Moves R w.server (BanchoPrism.silence p now duration)) :
    R w.server (w.step event).server := by
  cases event with
  | login profile =>
    exact (runHandler_server w _).symm ▸ hR.finished (hlogin profile rfl)
  | packet p packet clock =>
    refine hR.runFor fun hp => ?_
    cases hm : packet.moving with
    | true => exact hpacket p packet clock rfl hp hm
    | false => exact hR.moves (packet.handle_quiet hm p clock)
  | resume i found elapsed =>
    unfold World.step
    dsimp only
    split
    · rw [runHandler_server]
      exact hR.moves (resume_calm _ found elapsed).toQuiet
    · exact hR.quiet (Quiet.refl _)
  | startTimer r =>
    exact (runHandler_server w _).symm ▸ hR.finished (hR.moves (startTimerFires_quiet r))
  | disconnect p => exact hR.runFor fun _ => hR.finished (hdisconnect p rfl)
  | silence p now duration => exact hR.runFor fun _ => hR.finished (hsilence p now duration rfl)

end Handlers

end BanchoPrism
