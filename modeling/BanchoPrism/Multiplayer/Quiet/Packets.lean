import BanchoPrism.Multiplayer.Quiet

namespace BanchoPrism

open Library Prog

theorem lobbyPart_calm (p : PlayerRef) : Within Calm (lobbyPart p) :=
  calm_modifyPlayer (fun _ => rfl) (fun _ => rfl) fun _ => rfl

theorem announceMatch_calm (p : PlayerRef) (r : MatchRef) : Within Calm (announceMatch p r) := by
  refine Within.read_bind fun s => Within.moves (Within.attempt ?_ fun e => ?_)
  · exact Within.bind (Within.lift _) fun packet => send_calm p _
  · exact Within.ite (Within.pure ()) (Within.raise e)

theorem lobbyJoin_calm (p : PlayerRef) : Within Calm (lobbyJoin p) := by
  refine Within.bind ?_ fun _ => Within.read_bind fun s => ?_
  · exact calm_modifyPlayer (fun _ => rfl) (fun _ => rfl) fun _ => rfl
  · exact Within.each (announceMatch_calm p) _ s

theorem refuseMultiplayer_calm (p : PlayerRef) (reason : String) :
    Within Calm (refuseMultiplayer p reason) :=
  Within.bind (send_calm p _) fun _ => send_calm p _

-- A player of the match may get any status that says the slot is occupied.
theorem ownStatus_quiet {s : Server} {r : MatchRef} {i : Fin 16} {p : PlayerRef}
    {status : SlotStatus} (hi : ((s.matchAt r).slots i).player = some p)
    (hs : status.hasPlayer) :
    Moves Quiet s (updateSlot r i fun slot => { slot with status := status }) := by
  refine Moves.update (quiet_modifySlot rfl (.inr ⟨?_, hs⟩))
  rw [hi]
  rfl

theorem setOwnStatus_quiet (p : PlayerRef) {status : SlotStatus} (hs : status.hasPlayer) :
    Within Quiet (setOwnStatus p status) :=
  within_inSlot fun _ r _ hi => Moves.bind (ownStatus_quiet hi hs) fun _ t _ =>
    enqueueState_quiet r false t

theorem freemodsOn_calm (r : MatchRef) : Within Calm (updateMatch r freemodsOn) := by
  refine calm_updateMatch (fun m => SlotsKept.trans
    (SlotsKept.of_mapPlayers m (f := fun slot =>
      { slot with mods := m.mods.without Mods.SPEED_CHANGING_MODS }) (fun _ => rfl) fun _ => rfl) ?_)
    fun m => mapPlayers_game m (f := fun slot =>
      { slot with mods := m.mods.without Mods.SPEED_CHANGING_MODS }) fun _ => rfl
  exact SlotsKept.of_slots_eq rfl rfl rfl

theorem freemodsOff_calm (r : MatchRef) (i : Fin 16) :
    Within Calm (updateMatch r fun m => freemodsOff m i) := by
  refine calm_updateMatch (fun m => SlotsKept.trans
    (SlotsKept.of_mapPlayers m (f := fun slot => { slot with mods := Mods.NOMOD })
      (fun _ => rfl) fun _ => rfl) ?_)
    fun m => mapPlayers_game m (f := fun slot => { slot with mods := Mods.NOMOD }) fun _ => rfl
  exact SlotsKept.of_slots_eq rfl rfl rfl

theorem changeFreemods_calm (r : MatchRef) (freemods : Bool) :
    Within Calm (changeFreemods r freemods) := by
  refine Within.bind ?_ fun _ => Within.ite (freemodsOn_calm r) (Within.read_bind fun s => ?_)
  · exact calm_of_slots_eq (fun _ => rfl) (fun _ => rfl) (fun _ => rfl) fun _ => rfl
  · refine Moves.lift_bind fun i _ => ?_
    split
    · exact freemodsOff_calm r _ s
    · exact Moves.raise _

theorem changeTeamType_calm (r : MatchRef) (teamType : Int) :
    Within Calm (changeTeamType r teamType) := by
  refine Within.read_bind fun s => Moves.ite (fun _ => ?_) fun _ => ?_
  · exact Moves.lift_bind fun name _ => (sendBot_work _ _).calm s
  · refine Within.moves (Within.bind ?_ fun _ => Within.bind (Within.lift _) fun teamType => ?_)
    · exact calm_updateMatch (fun m => SlotsKept.of_mapPlayers m (fun _ => rfl) fun _ => rfl)
        fun m => mapPlayers_game m fun _ => rfl
    · exact calm_of_slots_eq (fun _ => rfl) (fun _ => rfl) (fun _ => rfl) fun _ => rfl

theorem changeWinCondition_calm (r : MatchRef) (winCondition : Int) :
    Within Calm (changeWinCondition r winCondition) := by
  refine Within.bind ?_ fun _ => Within.bind (Within.lift _) fun winCondition => ?_
  · exact calm_of_slots_eq (fun _ => rfl) (fun _ => rfl) (fun _ => rfl) fun _ => rfl
  · exact calm_of_slots_eq (fun _ => rfl) (fun _ => rfl) (fun _ => rfl) fun _ => rfl

theorem changeTypes_calm (p : PlayerRef) (data : MultiplayerMatch) :
    Within Calm (changeTypes p data) := by
  refine Within.read_bind fun s => ?_
  split
  · exact Moves.raise _
  · rename_i r _
    refine Within.moves (Within.bind (Within.onlyIf (changeTeamType_calm r _)) fun _ => ?_)
    refine Within.bind (Within.onlyIf (changeWinCondition_calm r _)) fun _ => Within.bind ?_ fun _ =>
      enqueueState_calm r true
    exact calm_of_slots_eq (fun _ => rfl) (fun _ => rfl) (fun _ => rfl) fun _ => rfl

theorem matchChangeSettings_calm (p : PlayerRef) (data : MultiplayerMatch) :
    Within Calm (matchChangeSettings p data) := by
  refine Within.read_bind fun s => Moves.ite (fun _ => Moves.pure _) fun _ => ?_
  split
  · exact Moves.pure _
  · rename_i r _
    refine Moves.lift_bind fun host _ => Moves.ite (fun _ => ?_) fun _ => Moves.pure _
    refine Within.moves (Within.bind (Within.onlyIf (changeFreemods_calm r _)) fun _ => ?_)
    refine Within.ite ?_ (Within.ite ?_ ?_)
    · refine Within.bind (unready_calm r) fun _ => Within.bind ?_ fun _ => ?_
      · exact calm_of_slots_eq (fun _ => rfl) (fun _ => rfl) (fun _ => rfl) fun _ => rfl
      · exact Within.bind (changeTypes_calm p data) fun _ => Within.pure _
    · exact Within.bind (Within.onlyIf (sendBot_work _ _).calm) fun _ => Within.pure _
    · exact Within.bind (changeTypes_calm p data) fun _ => Within.pure _

theorem chooseMap_calm (r : MatchRef) (data : MultiplayerMatch) (found : Option Beatmap) :
    Within Calm (chooseMap r data found) := by
  cases found with
  | none =>
    refine Within.bind ?_ fun _ => Within.bind (Within.lift _) fun mode => ?_
    · exact calm_of_slots_eq (fun _ => rfl) (fun _ => rfl) (fun _ => rfl) fun _ => rfl
    · exact calm_of_slots_eq (fun _ => rfl) (fun _ => rfl) (fun _ => rfl) fun _ => rfl
  | some bmap =>
    refine Within.bind ?_ fun _ => Within.read_bind fun t => Moves.lift_bind fun host _ =>
      Moves.lift_bind fun mode _ => Within.moves ?_
    · exact calm_of_slots_eq (fun _ => rfl) (fun _ => rfl) (fun _ => rfl) fun _ => rfl
    · exact calm_of_slots_eq (fun _ => rfl) (fun _ => rfl) (fun _ => rfl) fun _ => rfl

theorem resumeChangeSettings_calm (p : PlayerRef) (data : MultiplayerMatch)
    (found : Option Beatmap) : Within Calm (resumeChangeSettings p data found) := by
  refine Within.read_bind fun s => ?_
  split
  · exact Moves.raise _
  · exact Within.moves (Within.bind (chooseMap_calm _ data found) fun _ =>
      changeTypes_calm p data)

theorem matchStart_quiet (p : PlayerRef) : Within Quiet (matchStart p) :=
  within_asHost startMatch_quiet

theorem matchScoreUpdate_quiet (p : PlayerRef) (playData : List UInt8) :
    Within Quiet (matchScoreUpdate p playData) := by
  refine within_inSlot fun s r i _ => Within.moves (Within.bind ?_ fun _ => ?_)
  · exact quiet_updateSlot (fun _ => rfl) fun _ => rfl
  · exact Within.ite (Within.raise _) (enqueueMatch_quiet r _ _ _)

theorem matchComplete_quiet (p : PlayerRef) : Within Quiet (matchComplete p) := by
  refine within_inSlot fun s r i hi => Moves.bind (ownStatus_quiet hi rfl) fun _ t _ => ?_
  refine Moves.read_bind (Moves.ite (fun _ => Moves.pure ()) fun _ => ?_)
  refine Within.moves (Within.bind (unreadyPlayers_quiet r rfl) fun _ => ?_)
  refine Within.bind (resetPlayersLoadedStatus_calm r).toQuiet fun _ => Within.bind ?_ fun _ => ?_
  · exact quiet_of_slots_eq (fun _ => rfl) (fun _ => rfl) fun _ => rfl
  · exact Within.bind (enqueueMatch_quiet r _ _ _) fun _ => enqueueState_quiet r true

theorem setSlotMods_calm (p : PlayerRef) (r : MatchRef) (mods : Mods) :
    Within Calm (setSlotMods p r mods) := by
  refine Within.read_bind fun s => ?_
  split
  · refine Within.moves ?_
    exact calm_updateSlot (fun _ => rfl) (fun _ => rfl) fun _ => rfl
  · exact Moves.raise _

theorem matchChangeMods_calm (p : PlayerRef) (mods : Int) : Within Calm (matchChangeMods p mods) := by
  refine within_inMatch fun r => Within.read_bind fun s => Moves.lift_bind fun host _ => ?_
  refine Moves.ite (fun _ => ?_) fun _ => Moves.ite (fun _ => ?_) fun _ => Moves.pure ()
  · refine Within.moves (Within.bind (Within.onlyIf ?_) fun _ => ?_)
    · exact calm_of_slots_eq (fun _ => rfl) (fun _ => rfl) (fun _ => rfl) fun _ => rfl
    · exact Within.bind (setSlotMods_calm p r _) fun _ => enqueueState_calm r true
  · refine Within.moves (Within.bind ?_ fun _ => enqueueState_calm r true)
    exact calm_of_slots_eq (fun _ => rfl) (fun _ => rfl) (fun _ => rfl) fun _ => rfl

theorem matchLoadComplete_calm (p : PlayerRef) : Within Calm (matchLoadComplete p) := by
  refine within_inSlot fun s r i _ => Within.moves (Within.bind ?_ fun _ => ?_)
  · exact calm_updateSlot (fun _ => rfl) (fun _ => rfl) fun _ => rfl
  · exact Within.read_bind fun t => Within.ite (Within.pure ()) (enqueueMatch_calm r _ _ _) t

theorem matchFailed_quiet (p : PlayerRef) : Within Quiet (matchFailed p) := by
  refine within_inSlot fun s r i _ => Within.moves (Within.bind ?_ fun _ => ?_)
  · exact quiet_updateSlot (fun _ => rfl) fun _ => rfl
  · exact enqueueMatch_quiet r _ _ _

theorem matchSkipRequest_calm (p : PlayerRef) : Within Calm (matchSkipRequest p) := by
  refine within_inSlot fun s r i _ => Within.moves (Within.bind ?_ fun _ => ?_)
  · exact calm_updateSlot (fun _ => rfl) (fun _ => rfl) fun _ => rfl
  · refine Within.read_bind fun t => Within.moves (Within.bind (enqueueMatch_calm r _ _ _) fun _ => ?_)
    exact Within.ite (Within.pure ()) (enqueueMatch_calm r _ _ _)

theorem channelJoin_calm (p : PlayerRef) (name : String) : Within Calm (channelJoin p name) := by
  refine Within.read_bind fun s => Moves.ite (fun _ => Moves.pure ()) fun _ => ?_
  split
  · exact Within.moves (Within.bind (joinChannel_work p _).calm fun _ => Within.pure ())
  · exact Moves.pure ()

theorem channelPart_calm (p : PlayerRef) (name : String) : Within Calm (channelPart p name) := by
  refine Within.read_bind fun s => Moves.ite (fun _ => Moves.pure ()) fun _ => ?_
  split
  · exact (leaveChannel_work p _ true).calm s
  · exact Moves.pure ()

theorem tourneyMatchInfoRequest_calm (p : PlayerRef) (matchId : Int) :
    Within Calm (tourneyMatchInfoRequest p matchId) :=
  within_tourneyMatch fun _ => Within.read_bind fun s => Moves.lift_bind fun _ _ => send_calm p _ s

theorem tourneyMatchJoinChannel_calm (p : PlayerRef) (matchId : Int) :
    Within Calm (tourneyMatchJoinChannel p matchId) := by
  refine within_tourneyMatch fun r => Within.read_bind fun s => ?_
  refine Moves.ite (fun _ => Moves.pure ()) fun _ => ?_
  refine Within.moves (Within.bind (joinChannel_work p _).calm fun joined => ?_)
  exact Within.ite (calm_of_slots_eq (fun _ => rfl) (fun _ => rfl) (fun _ => rfl) fun _ => rfl) (Within.pure ())

theorem tourneyMatchLeaveChannel_calm (p : PlayerRef) (matchId : Int) :
    Within Calm (tourneyMatchLeaveChannel p matchId) := by
  refine within_tourneyMatch fun r => Within.read_bind fun s => ?_
  refine Moves.ite (fun _ => ?_) fun _ => Moves.pure ()
  refine Within.moves (Within.bind (leaveChannel_work p _ true).calm fun _ => ?_)
  exact calm_of_slots_eq (fun _ => rfl) (fun _ => rfl) (fun _ => rfl) fun _ => rfl

theorem matchChangeTeam_calm (p : PlayerRef) : Within Calm (matchChangeTeam p) := by
  refine within_inSlot fun s r i _ => Within.moves (Within.bind ?_ fun _ => ?_)
  · exact calm_updateSlot (fun _ => rfl) (fun _ => rfl) fun _ => rfl
  · exact enqueueState_calm r false

theorem sendInvite_calm (p target : PlayerRef) (r : MatchRef) :
    Within Calm (sendInvite p target r) :=
  Within.read_bind fun s => send_calm target _ s

theorem matchInvite_calm (p : PlayerRef) (userId : Int) : Within Calm (matchInvite p userId) := by
  refine within_inMatch fun r => Within.read_bind fun s => ?_
  split
  · exact Moves.pure ()
  · exact Within.moves (Within.ite (sendPlayerBot_work p _).calm (sendInvite_calm p _ r))

theorem matchChangePassword_calm (p : PlayerRef) (data : MultiplayerMatch) :
    Within Calm (matchChangePassword p data) := by
  refine Within.read_bind fun s => Moves.ite (fun _ => Moves.pure ()) fun _ => ?_
  refine Within.moves (within_asHost fun r => Within.bind ?_ fun _ => enqueueState_calm r true)
  exact calm_of_slots_eq (fun _ => rfl) (fun _ => rfl) (fun _ => rfl) fun _ => rfl

theorem startSpectating_calm (p : PlayerRef) (targetId : Int) :
    Within Calm (startSpectating p targetId) := by
  refine Within.read_bind fun s => ?_
  split
  · exact Moves.pure ()
  · split
    · exact addSpectator_calm _ p s
    · refine Moves.ite (fun _ => Moves.ite (fun _ => Moves.pure ()) fun _ => ?_) fun _ => ?_
      · exact Within.moves (Within.bind (send_calm _ _) fun _ => (sendAll_work _ _).calm)
      · exact Within.moves (Within.bind (removeSpectator_calm _ p) fun _ => addSpectator_calm _ p)

theorem stopSpectating_calm (p : PlayerRef) : Within Calm (stopSpectating p) := by
  refine Within.read_bind fun s => ?_
  split
  · exact Moves.pure ()
  · exact removeSpectator_calm _ p s

theorem cantSpectate_calm (p : PlayerRef) : Within Calm (cantSpectate p) := by
  refine Within.read_bind fun s => ?_
  split
  · exact Moves.pure ()
  · refine Moves.ite (fun _ => Moves.pure ()) fun _ => ?_
    exact Within.moves (Within.bind (send_calm _ _) fun _ => (sendAll_work _ _).calm)

end BanchoPrism
