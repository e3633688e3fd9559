import BanchoPrism.Multiplayer.Absorbing
import BanchoPrism.Multiplayer.Lenient.Commands

namespace BanchoPrism

open Library Prog

variable {maps : Int → Prop} {R : Server → Server → Prop} [Std.Refl R] [IsTrans Server R]

section Replies

theorem respond_work (call : Call) (reply : Option String) :
    Within ChannelWork (respond call reply) := by
  have hselective : ∀ c sender msg recipient,
      Within ChannelWork (sendSelective c sender msg recipient) :=
    fun _ _ _ _ => Within.read_bind fun t => sendAll_work _ _ t
  refine Within.read_bind fun s => ?_
  cases reply with
  | none => exact sendChannel_work _ _ _ s
  | some resp =>
    refine Within.moves (Within.ite ?_ ?_)
    · exact Within.bind (hselective _ _ _ _) fun _ => hselective _ _ _ _
    · exact Within.bind (sendChannel_work _ _ _) fun _ => sendBot_work _ _

theorem afterReply_work (call : Call) (elapsed : String) (reply : Option MatchRef × Reply) :
    Within ChannelWork (afterReply call elapsed reply) := by
  unfold afterReply
  split
  · exact Within.pure _
  · exact Within.bind (respond_work call _) fun _ => Within.pure none
  · exact Within.bind (respond_work call _) fun _ => Within.pure none

end Replies

section Commands

-- ensure_match lets the player give commands in the match.
def mayCommand (s : Server) (p : PlayerRef) (r : MatchRef) : Bool :=
  match matchRefs s (s.matchAt r) with
  | .ok refs => p ∈ refs || (s.player p).priv.has Privileges.TOURNEY_MANAGER
  | .error _ => false

-- The command that a message gives, and the match it is for.
def commanded (s : Server) (p : PlayerRef) (now : Int) (text recipient : String) :
    Option (String × List String) → Option (MpCommand × List String × MatchRef)
  | none => none
  | some (trigger, args) =>
      if (s.player p).silenced now ∨ text = "" ∨ ignoredChannel recipient then none
      else do
        let c ← recipientChannel s p recipient
        let command ← MpCommand.find trigger (s.player p).priv
        let r ← (s.player p).matchRef
        if (p ∈ (s.channel c).players ∧ (s.channel c).canWrite (s.player p).priv) ∧
            (s.matchAt r).chat = c ∧ mayCommand s p r then
          some (command, args, r)
        else none

def MpCommand.modding (command : MpCommand) : Bool := command = .mods || command = .freemods

def MpCommand.teaming (command : MpCommand) : Bool := command = .teams

theorem ensureMatch_tolerant (hR : Tolerant maps R) (ctx : Context) (c : ChannelRef)
    (command : MpCommand) {s : Server}
    (hrun : command.modding ∨ command.teaming → ∀ r, (s.player ctx.player).matchRef = some r →
      (s.matchAt r).chat = c → mayCommand s ctx.player r → Moves R s (command.run ctx r)) :
    Moves R s (ensureMatch ctx c command) := by
  refine Moves.read_bind ?_
  split
  · exact Moves.pure _
  rename_i r hr
  refine Moves.ite (fun _ => Moves.pure _) fun hchat => Moves.lift_bind fun refs hrefs => ?_
  refine Moves.ite (fun hmay => ?_) fun _ => Moves.pure _
  refine Moves.bind ?_ fun _ t _ => Moves.pure _
  by_cases hsides : command.modding ∨ command.teaming
  · refine hrun hsides r hr (not_not.mp hchat) ?_
    unfold mayCommand
    rw [hrefs]
    simpa using hmay
  · simp only [MpCommand.modding, MpCommand.teaming, Bool.or_eq_true, decide_eq_true_eq,
      not_or] at hsides
    exact MpCommand.run_tolerant hR ctx r hsides.1.1 hsides.1.2 hsides.2 s

theorem sendMessage_tolerant (hR : Tolerant maps R) (p : PlayerRef) (text recipient : String)
    (mp : Option (String × List String)) (clock : Clock) {s : Server}
    (hrun : ∀ sent, ∀ given ∈ commanded s p clock.now text recipient mp,
      given.1.modding ∨ given.1.teaming → ∀ ctx : Context, ctx.player = p → ctx.args = given.2.1 →
      Moves R { s with sent := sent } (given.1.run ctx given.2.2)) :
    Moves R s (sendMessage p text recipient mp clock) := by
  unfold sendMessage
  refine Moves.read_bind (Moves.ite (fun _ => Moves.pure _) fun hheard => ?_)
  split
  · exact Moves.pure _
  rename_i c hc
  refine Moves.ite (fun _ => Moves.pure _) fun hmember => ?_
  obtain ⟨msg', sent, htruncated⟩ := truncateMessage_run p text s
  have hsent : R s { s with sent := sent } := hR.work (ChannelWork.of_sent s sent)
  refine Moves.bind (by rw [Moves, htruncated]; exact hsent) fun msg t ht => ?_
  rw [htruncated] at ht
  obtain rfl : { s with sent := sent } = t := congrArg Prod.snd ht
  split
  · exact Within.bind (hR.along (sendChannel_work c p msg)) (fun _ => Within.pure none) _
  rename_i command args hfind
  obtain ⟨⟨trigger, args'⟩, hmp, hcommand⟩ := Option.bind_eq_some_iff.mp hfind
  obtain ⟨command', hforced, he⟩ := Option.map_eq_some_iff.mp hcommand
  cases he
  refine Moves.bind (Moves.attempt ?_ fun e t _ => Within.pure _ t) fun reply t _ =>
    hR.along (afterReply_work _ _ reply) t
  refine ensureMatch_tolerant hR _ c command fun hsides r hr hchat hmay => ?_
  refine hrun sent (command, args, r) ?_ hsides _ rfl rfl
  have hin : p ∈ (s.channel c).players ∧ (s.channel c).canWrite (s.player p).priv := by
    simpa only [not_or, not_not, Bool.not_eq_true', Bool.not_eq_false] using hmember
  have hr' : (s.player p).matchRef = some r := hr
  have hchat' : (s.matchAt r).chat = c := hchat
  have hmay' : mayCommand s p r = true := hmay
  subst hmp
  simp only [commanded, if_neg hheard]
  simp [hc, hforced, hr', hin, hchat', hmay']

theorem sendMessage_lenient (hR : Lenient maps R) (p : PlayerRef) (text recipient : String)
    (mp : Option (String × List String)) (clock : Clock) {s : Server}
    (hrun : ∀ sent, ∀ given ∈ commanded s p clock.now text recipient mp, given.1.modding →
      ∀ ctx : Context, ctx.player = p → ctx.args = given.2.1 →
      Moves R { s with sent := sent } (given.1.run ctx given.2.2)) :
    Moves R s (sendMessage p text recipient mp clock) := by
  refine sendMessage_tolerant hR.tolerant p text recipient mp clock ?_
  intro sent given hgiven hsides ctx hplayer hargs
  rcases hsides with hmodding | hteaming
  · exact hrun sent given hgiven hmodding ctx hplayer hargs
  · rw [of_decide_eq_true hteaming]
    exact mpTeams_lenient hR ctx given.2.2 _

end Commands

section Resuming

theorem Pause.resume_lenient (hR : Tolerant maps R) (r : MatchRef) {found : Lookup} {pause : Pause}
    (hfound : ∀ bmap ∈ found.beatmap, maps bmap.id)
    (hpick : ∀ modsSlot mods mapId, pause = .pickMap modsSlot mods mapId →
      Within R (resumePickMap r modsSlot mods found.beatmap)) :
    Within R (pause.resume r found) := by
  cases pause with
  | map mapId => exact resumeMap_lenient hR r hfound
  | loadpool => exact resumeLoadpool_lenient hR r found.pool
  | ban modsSlot mods slot poolId => exact resumeBan_lenient hR r modsSlot mods slot found.mapPick
  | unban modsSlot mods slot poolId =>
    exact resumeUnban_lenient hR r modsSlot mods slot found.mapPick
  | pick modsSlot mods slot poolId => exact resumePick_still r modsSlot mods slot found.mapPick
  | pickMap modsSlot mods mapId => exact hpick modsSlot mods mapId rfl

theorem finished_within {handler : Handler Unit} (h : Within R handler) :
    Within R (finished handler) := Within.bind h fun _ => Within.pure none

theorem silence_lenient (hR : Tolerant maps R) (p : PlayerRef) (now duration : Int) :
    Within R (silence p now duration) := by
  refine Within.bind (hR.modifyPlayer fun _ => rfl) fun _ => Within.read_bind fun s => ?_
  refine Within.moves (Within.bind (hR.along (send_work p _)) fun _ => ?_)
  refine Within.bind (hR.along (sendAll_work _ _)) fun _ => ?_
  exact Within.ite (leaveMatch_lenient hR p) (Within.pure ())

end Resuming

section Packets

-- The packets that can make a match or change mods.
def Packet.modding : Packet → Bool
  | createMatch _ | changeSettings _ | changeMods _ | sendMessage _ _ _ => true
  | _ => false

theorem Packet.handle_tolerant (hR : Tolerant maps R) {packet : Packet}
    (h : packet.modding = false) (hteam : packet ≠ .changeTeam) (p : PlayerRef) (clock : Clock) :
    Within R (packet.handle p clock) := by
  cases packet with
  | logout =>
    refine finished_within (Within.read_bind fun s => Within.moves ?_)
    exact Within.ite (Within.pure ()) (logout_lenient hR p)
  | partLobby => exact finished_within (hR.modifyPlayer fun _ => rfl)
  | joinLobby => exact finished_within (lobbyJoin_lenient hR p)
  | joinMatch matchId passwd => exact finished_within (matchJoin_lenient hR p matchId passwd _)
  | partMatch => exact finished_within (leaveMatch_lenient hR p)
  | changeSlot slotId => exact finished_within (matchChangeSlot_lenient hR p slotId)
  | ready => exact finished_within (setOwnStatus_lenient hR p nofun)
  | lock slotId => exact finished_within (matchLock_lenient hR p slotId)
  | start => exact finished_within (within_asHost fun r => startMatch_lenient hR r)
  | scoreUpdate playData => exact finished_within (matchScoreUpdate_lenient hR p playData)
  | complete => exact finished_within (matchComplete_lenient hR p)
  | loadComplete => exact finished_within (matchLoadComplete_lenient hR p)
  | noBeatmap => exact finished_within (setOwnStatus_lenient hR p nofun)
  | notReady => exact finished_within (setOwnStatus_lenient hR p nofun)
  | failed => exact finished_within (matchFailed_lenient hR p)
  | hasBeatmap => exact finished_within (setOwnStatus_lenient hR p nofun)
  | skipRequest => exact finished_within (matchSkipRequest_lenient hR p)
  | channelJoin name => exact finished_within (hR.along (channelJoin_work p name))
  | channelPart name => exact finished_within (hR.along (channelPart_work p name))
  | transferHost slotId => exact finished_within (matchTransferHost_lenient hR p slotId)
  | tourneyMatchInfo matchId =>
    refine finished_within (within_tourneyMatch fun r => Within.read_bind fun s => ?_)
    exact Moves.lift_bind fun packet _ => hR.along (send_work p _) s
  | tourneyJoinChannel matchId =>
    exact finished_within (tourneyMatchJoinChannel_lenient hR p matchId)
  | tourneyLeaveChannel matchId =>
    exact finished_within (tourneyMatchLeaveChannel_lenient hR p matchId)
  | changeTeam => exact absurd rfl hteam
  | invite userId => exact finished_within (hR.along (matchInvite_work p userId))
  | changePassword data => exact finished_within (matchChangePassword_lenient hR p data)
  | startSpectating targetId => exact finished_within (startSpectating_lenient hR p targetId)
  | stopSpectating => exact finished_within (stopSpectating_lenient hR p)
  | cantSpectate => exact finished_within (hR.along (cantSpectate_work p))
  | createMatch data => cases h
  | changeSettings data => cases h
  | changeMods mods => cases h
  | sendMessage text recipient mp => cases h

theorem Packet.handle_lenient (hR : Lenient maps R) {packet : Packet} (h : packet.modding = false)
    (p : PlayerRef) (clock : Clock) : Within R (packet.handle p clock) := by
  by_cases hteam : packet = .changeTeam
  · subst hteam
    exact finished_within (matchChangeTeam_lenient hR p)
  · exact Packet.handle_tolerant hR.tolerant h hteam p clock

end Packets

section Steps

-- The settings of a host who waited for the map may change the type of the teams.
theorem Suspended.resume_tolerant (hR : Tolerant maps R) {next : Suspended} {found : Lookup}
    {s : Server} (hsettings : ∀ p data, next = .settings p data →
      Moves R s (resumeChangeSettings p data found.beatmap))
    (hfound : ∀ bmap ∈ found.beatmap, maps bmap.id)
    (hpick : ∀ call r modsSlot mods mapId, next = .command call r (.pickMap modsSlot mods mapId) →
      Within R (resumePickMap r modsSlot mods found.beatmap)) (elapsed : String) :
    Moves R s (next.resume found elapsed) := by
  cases next with
  | settings p data =>
    exact Moves.bind (hsettings p data rfl) fun _ t _ => Moves.pure none
  | command call r pause =>
    refine Within.moves (Within.bind (Within.attempt ?_ fun e => Within.pure _) fun reply =>
      hR.along (afterReply_work call elapsed reply))
    refine Within.bind (pause.resume_lenient hR r hfound ?_) fun _ => Within.pure _
    rintro modsSlot mods mapId rfl
    exact hpick call r modsSlot mods mapId rfl

theorem Suspended.resume_lenient (hR : Lenient maps R) {next : Suspended} {found : Lookup}
    (hdata : ∀ p data, next = .settings p data → maps data.mapId)
    (hfound : ∀ bmap ∈ found.beatmap, maps bmap.id)
    (hpick : ∀ call r modsSlot mods mapId, next = .command call r (.pickMap modsSlot mods mapId) →
      Within R (resumePickMap r modsSlot mods found.beatmap)) (elapsed : String) :
    Within R (next.resume found elapsed) := by
  refine fun s => next.resume_tolerant hR.tolerant (fun p data hnext => ?_) hfound hpick elapsed
  exact resumeChangeSettings_restating hR.toRestating p (hdata p data hnext) hfound s

omit [IsTrans Server R] in
theorem runFor_moves {w : World} {p : PlayerRef} {handler : Handler (Option Suspended)}
    (h : Moves R w.server handler) : R w.server (w.runFor p handler).server := by
  unfold World.runFor
  split
  · rw [runHandler_server]
    exact h
  · exact refl_of R w.server

-- One step, from the logins, the packets and what waits that are about mods or teams or new.
theorem Tolerant.step (hR : Tolerant maps R) {w : World} {event : Event}
    (hlogin : ∀ profile, event = .login profile → Moves R w.server (BanchoPrism.login profile))
    (hpacket : ∀ p packet clock, event = .packet p packet clock →
      packet.modding ∨ packet = .changeTeam → Moves R w.server (packet.handle p clock))
    (hresume : ∀ i found elapsed next, event = .resume i found elapsed →
      w.suspended[i]? = some next → Moves R w.server (next.resume found elapsed)) :
    R w.server (w.step event).server := by
  cases event with
  | login profile =>
    show R w.server (w.runHandler _).server
    rw [runHandler_server]
    exact Moves.bind (hlogin profile rfl) fun _ _ _ => Moves.pure none
  | packet p packet clock =>
    refine runFor_moves ?_
    by_cases hsides : packet.modding ∨ packet = .changeTeam
    · exact hpacket p packet clock rfl hsides
    · rw [not_or, Bool.not_eq_true] at hsides
      exact packet.handle_tolerant hR hsides.1 hsides.2 p clock w.server
  | resume i found elapsed =>
    unfold World.step
    dsimp only
    split
    · rename_i next hnext
      rw [runHandler_server]
      exact hresume i found elapsed next rfl hnext
    · exact refl_of R w.server
  | startTimer r =>
    show R w.server (w.runHandler _).server
    rw [runHandler_server]
    exact finished_within (startTimerFires_lenient hR r) w.server
  | disconnect p => exact runFor_moves (finished_within (logout_lenient hR p) w.server)
  | silence p now duration =>
    exact runFor_moves (finished_within (silence_lenient hR p now duration) w.server)

-- One step, from the logins, the packets and what waits that are about mods or new.
theorem Lenient.step (hR : Lenient maps R) {w : World} {event : Event}
    (hlogin : ∀ profile, event = .login profile → Moves R w.server (BanchoPrism.login profile))
    (hpacket : ∀ p packet clock, event = .packet p packet clock → packet.modding →
      Moves R w.server (packet.handle p clock))
    (hresume : ∀ i found elapsed next, event = .resume i found elapsed → next ∈ w.suspended →
      Within R (next.resume found elapsed)) : R w.server (w.step event).server := by
  refine hR.tolerant.step hlogin ?_ fun i found elapsed next hevent hnext =>
    hresume i found elapsed next hevent (List.mem_of_getElem? hnext) w.server
  rintro p packet clock hevent (hmodding | rfl)
  · exact hpacket p packet clock hevent hmodding
  · exact Packet.handle_lenient hR rfl p clock w.server

end Steps

end BanchoPrism
