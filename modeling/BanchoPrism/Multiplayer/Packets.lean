import BanchoPrism.Multiplayer.Membership
import BanchoPrism.Packets.Reader

namespace BanchoPrism

open Library

-- A beatmap as the handlers use it.
structure Beatmap where
  id : Int
  md5 : String
  fullName : String
  mode : GameMode

def MAX_MATCH_NAME_LENGTH : Nat := 50

def validateMatchData (data : MultiplayerMatch) (expectedHostId : Nat) : Bool :=
  data.hostId = expectedHostId && data.name.length ≤ MAX_MATCH_NAME_LENGTH

-- if player.match is None: return
def inMatch (p : PlayerRef) (body : MatchRef → Handler Unit) : Handler Unit := do
  let s ← Prog.read
  match (s.player p).matchRef with
  | some r => body r
  | none => pure ()

-- slot = player.match.get_slot(player); assert slot is not None
def inSlot (p : PlayerRef) (body : MatchRef → Fin 16 → Handler Unit) : Handler Unit :=
  inMatch p fun r => do
    let s ← Prog.read
    match (s.matchAt r).getSlotId p with
    | some i => body r i
    | none => Prog.raise .assertion

-- if player is not player.match.host: return
def asHost (p : PlayerRef) (body : MatchRef → Handler Unit) : Handler Unit :=
  inMatch p fun r => do
    let s ← Prog.read
    let host ← Prog.lift (matchHost s (s.matchAt r))
    if p = host then body r else pure ()

-- if not 0 <= slot_id < 16: return
def withSlotId (slotId : Int) (body : Fin 16 → Handler Unit) : Handler Unit :=
  if h : 0 ≤ slotId ∧ slotId < 16 then body ⟨slotId.toNat, by omega⟩ else pure ()

def logoutPacket (p : PlayerRef) (now : Int) : Handler Unit := do
  let s ← Prog.read
  if now - (s.player p).loginTime < 1 then pure () else logout p

def lobbyPart (p : PlayerRef) : Handler Unit :=
  Prog.update fun s => s.modifyPlayer p fun player => { player with inLobby := false }

-- A match whose host is gone is skipped; any other error ends the handler.
def announceMatch (p : PlayerRef) (r : MatchRef) : Handler Unit := do
  let s ← Prog.read
  Prog.attempt
    (do
      let packet ← Prog.lift (writeMatch s (s.matchAt r) true)
      send p (.newMatch packet))
    fun e => if e = .value then pure () else Prog.raise e

def lobbyJoin (p : PlayerRef) : Handler Unit := do
  Prog.update fun s => s.modifyPlayer p fun player => { player with inLobby := true }
  let s ← Prog.read
  Prog.each (announceMatch p) ((List.finRange 64).filterMap s.matchList)

def refuseMultiplayer (p : PlayerRef) (reason : String) : Handler Unit := do
  send p .matchJoinFail
  send p (.notification s!"Multiplayer is not available while {reason}.")

-- Match(...), every enumeration converted before anything is registered
def newMatch (data : MultiplayerMatch) (id : Fin 64) (chat : ChannelRef) :
    Except PyError Match := do
  let mode ← ofOption .value (GameMode.ofValue data.mode)
  let winCondition ← ofOption .value (MatchWinConditions.ofValue data.winCondition)
  let teamType ← ofOption .value (MatchTeamTypes.ofValue data.teamType)
  return {
    id := id
    name := data.name
    passwd := removeEnding data.passwd "//private"
    hasPublicHistory := !endsWith data.passwd "//private"
    hostId := data.hostId.toNat
    mapId := data.mapId
    mapMd5 := data.mapMd5
    mapName := data.mapName
    mods := Mods.ofInt data.mods
    mode := mode
    freemods := data.freemods
    chat := chat
    teamType := teamType
    winCondition := winCondition
    seed := data.seed }

-- sessions.matches[match_id] = match; sessions.channels.append(chat_channel)
def registerMatch (id : Fin 64) (m : Match) : Handler MatchRef := do
  let s ← Prog.read
  Prog.update fun s =>
    { s with
      matchAt := Function.update s.matchAt s.nextMatch m
      nextMatch := s.nextMatch + 1
      matchList := Function.update s.matchList id (some s.nextMatch) }
  channelsAppend m.chat
  pure s.nextMatch

-- Channel(...) of a new match
def matchChat (id : Fin 64) : Channel :=
  { realName := "#multi_" ++ toString id.val
    topic := "MID " ++ toString id.val ++ "'s multiplayer channel."
    autoJoin := false
    instanced := true }

def matchCreate (p : PlayerRef) (data : MultiplayerMatch) (now : Int) : Handler Unit := do
  let s ← Prog.read
  if !validateMatchData data (s.player p).id then pure ()
  else if (s.player p).restricted then refuseMultiplayer p "restricted"
  else if (s.player p).silenced now then refuseMultiplayer p "silenced"
  else
    match s.freeMatchId with
    | none => do
        sendPlayerBot p "Failed to create match (no slots available)."
        send p .matchJoinFail
    | some id => do
        let chat ← allocChannel (matchChat id)
        let m ← Prog.lift (newMatch data id chat)
        let r ← registerMatch id m
        let _ ← joinMatch p r data.passwd
        sendBot chat ("Match created by " ++ (s.player p).name ++ ".")

def matchJoin (p : PlayerRef) (matchId : Int) (passwd : String) (now : Int) : Handler Unit := do
  let s ← Prog.read
  match ← Prog.lift (s.matchAtIndex matchId) with
  | none => send p .matchJoinFail
  | some r =>
      if (s.player p).restricted then refuseMultiplayer p "restricted"
      else if (s.player p).silenced now then refuseMultiplayer p "silenced"
      else do
        let _ ← joinMatch p r passwd
        pure ()

def matchPart (p : PlayerRef) : Handler Unit := leaveMatch p

def matchChangeSlot (p : PlayerRef) (slotId : Int) : Handler Unit :=
  inMatch p fun r => withSlotId slotId fun j => do
    let s ← Prog.read
    let m := s.matchAt r
    if (m.slots j).status ≠ .open_ then pure ()
    else
      match m.getSlotId p with
      | none => Prog.raise .assertion
      | some i => do
          updateSlot r j fun slot => slot.copyFrom (m.slots i)
          updateSlot r i fun _ => Slot.reset .open_
          enqueueState r true

-- MatchReady, MatchNoBeatmap, MatchNotReady and MatchHasBeatmap
def setOwnStatus (p : PlayerRef) (status : SlotStatus) : Handler Unit :=
  inSlot p fun r i => do
    updateSlot r i fun slot => { slot with status := status }
    enqueueState r false

def matchReady (p : PlayerRef) : Handler Unit := setOwnStatus p .ready
def matchNoBeatmap (p : PlayerRef) : Handler Unit := setOwnStatus p .noMap
def matchNotReady (p : PlayerRef) : Handler Unit := setOwnStatus p .notReady
def matchHasBeatmap (p : PlayerRef) : Handler Unit := setOwnStatus p .notReady

-- Only the host cannot be locked out: another occupant stays in the locked slot.
def matchLock (p : PlayerRef) (slotId : Int) : Handler Unit :=
  asHost p fun r => withSlotId slotId fun i => do
    let s ← Prog.read
    let slot := (s.matchAt r).slots i
    if slot.status = .locked then do
      updateSlot r i fun slot => { slot with status := .open_ }
      enqueueState r true
    else if slot.player = some p then pure ()
    else do
      updateSlot r i fun slot => { slot with status := .locked }
      enqueueState r true

-- match mods -> active slot mods, keeping only speed-changing mods
def freemodsOn (m : Match) : Match :=
  { m.mapPlayers fun slot =>
      { slot with mods := m.mods.without Mods.SPEED_CHANGING_MODS } with
    mods := m.mods &&& Mods.SPEED_CHANGING_MODS }

-- host mods -> match mods
def freemodsOff (m : Match) (hostSlot : Fin 16) : Match :=
  { m.mapPlayers fun slot => { slot with mods := Mods.NOMOD } with
    mods := (m.mods &&& Mods.SPEED_CHANGING_MODS) ||| (m.slots hostSlot).mods }

def changeFreemods (r : MatchRef) (freemods : Bool) : Handler Unit := do
  updateMatch r fun m => { m with freemods := freemods }
  if freemods then updateMatch r freemodsOn
  else do
    let s ← Prog.read
    match ← Prog.lift (s.hostSlotId (s.matchAt r)) with
    | some i => updateMatch r fun m => freemodsOff m i
    | none => Prog.raise .assertion

def MatchTeamTypes.names : List String := ["head-to-head", "tag-coop", "team-vs", "tag-team-vs"]

-- names[team_type], with the negative indexes of a Python tuple
def MatchTeamTypes.nameAt (teamType : Int) : Except PyError String :=
  ofOption .index
    (if 0 ≤ teamType then names[teamType.toNat]?
      else if -4 ≤ teamType then names[(4 + teamType).toNat]? else none)

def changeTeamType (r : MatchRef) (teamType : Int) : Handler Unit := do
  let s ← Prog.read
  let m := s.matchAt r
  if m.isScrimming then do
    let name ← Prog.lift (MatchTeamTypes.nameAt teamType)
    sendBot m.chat <| "Changing team type while scrimming will reset the overall score - to do " ++
      "so, please use the !mp teams " ++ name ++ " command."
  else do
    -- the slots change teams before an unknown type is refused
    let newTeam := if teamType = 0 ∨ teamType = 1 then MatchTeams.neutral else .red
    updateMatch r fun m => m.mapPlayers fun slot => { slot with team := newTeam }
    let teamType ← Prog.lift (ofOption .value (MatchTeamTypes.ofValue teamType))
    updateMatch r fun m => { m with teamType := teamType }

def changeWinCondition (r : MatchRef) (winCondition : Int) : Handler Unit := do
  updateMatch r fun m => { m with usePpScoring := false }
  let winCondition ← Prog.lift (ofOption .value (MatchWinConditions.ofValue winCondition))
  updateMatch r fun m => { m with winCondition := winCondition }

-- MatchChangeSettings after the map: the teams, the win condition and the name
def changeTypes (p : PlayerRef) (data : MultiplayerMatch) : Handler Unit := do
  let s ← Prog.read
  match (s.player p).matchRef with
  | none => Prog.raise .attribute
  | some r => do
      Prog.onlyIf (((s.matchAt r).teamType.value : Int) ≠ data.teamType)
        (changeTeamType r data.teamType)
      Prog.onlyIf (((s.matchAt r).winCondition.value : Int) ≠ data.winCondition)
        (changeWinCondition r data.winCondition)
      updateMatch r fun m => { m with name := data.name }
      enqueueState r true

def mapEmbed (s : Server) (mapId : Int) (mapName : String) : String :=
  "[https://osu." ++ s.domain ++ "/b/" ++ toString mapId ++ " " ++ mapName ++ "]"

-- MatchChangeSettings up to the lookup of the chosen map; true if it awaits one
def matchChangeSettings (p : PlayerRef) (data : MultiplayerMatch) : Handler Bool := do
  let s ← Prog.read
  if !validateMatchData data (s.player p).id then pure false
  else
    match (s.player p).matchRef with
    | none => pure false
    | some r => do
        let host ← Prog.lift (matchHost s (s.matchAt r))
        if p = host then do
          Prog.onlyIf (data.freemods ≠ (s.matchAt r).freemods) (changeFreemods r data.freemods)
          if data.mapId = -1 then do
            updateMatch r fun m => m.unreadyPlayers .ready
            updateMatch r fun m =>
              { m with prevMapId := m.mapId, mapId := -1, mapMd5 := "", mapName := "" }
            changeTypes p data
            pure false
          else if (s.matchAt r).mapId = -1 then do
            Prog.onlyIf ((s.matchAt r).prevMapId ≠ data.mapId)
              (sendBot (s.matchAt r).chat ("Selected: " ++ mapEmbed s data.mapId data.mapName ++ "."))
            pure true
          else do
            changeTypes p data
            pure false
        else pure false

-- The serverside version of the map if there is one, else what the host sent.
def chooseMap (r : MatchRef) (data : MultiplayerMatch) : Option Beatmap → Handler Unit
  | some bmap => do
      updateMatch r fun m =>
        { m with mapId := bmap.id, mapMd5 := bmap.md5, mapName := bmap.fullName }
      let s ← Prog.read
      let host ← Prog.lift (matchHost s (s.matchAt r))
      let mode ← Prog.lift (ofOption .value (GameMode.ofValue (s.player host).mode.asVanilla))
      updateMatch r fun m => { m with mode := mode }
  | none => do
      updateMatch r fun m =>
        { m with mapId := data.mapId, mapMd5 := data.mapMd5, mapName := data.mapName }
      let mode ← Prog.lift (ofOption .value (GameMode.ofValue data.mode))
      updateMatch r fun m => { m with mode := mode }

-- MatchChangeSettings from the lookup on; player.match is looked up afresh
def resumeChangeSettings (p : PlayerRef) (data : MultiplayerMatch) (found : Option Beatmap) :
    Handler Unit := do
  let s ← Prog.read
  match (s.player p).matchRef with
  | none => Prog.raise .attribute
  | some r => do
      chooseMap r data found
      changeTypes p data

def matchStart (p : PlayerRef) : Handler Unit := asHost p startMatch

def matchScoreUpdate (p : PlayerRef) (playData : List UInt8) : Handler Unit :=
  inSlot p fun r i => do
    updateSlot r i fun slot => { slot with lastScoreFrame := some playData }
    -- buf[11] = slot_id, the fifth byte of the frame behind the header of seven
    if playData.length < 5 then Prog.raise .index
    else enqueueMatch r (.matchScoreUpdate i (playData.set 4 (UInt8.ofNat i))) false []

def matchComplete (p : PlayerRef) : Handler Unit :=
  inSlot p fun r i => do
    updateSlot r i fun slot => { slot with status := .complete }
    let s ← Prog.read
    let m := s.matchAt r
    if m.anySlot fun slot => decide (slot.status = .playing) then pure ()
    else do
      let notPlaying := (List.finRange 16).filterMap fun j =>
        if (m.slots j).status ≠ .complete then (m.slots j).player.map fun q => (s.player q).id
        else none
      updateMatch r fun m => m.unreadyPlayers .complete
      updateMatch r Match.resetPlayersLoadedStatus
      updateMatch r fun m => { m with inProgress := false }
      enqueueMatch r .matchComplete false notPlaying
      enqueueState r true

-- slot = match.get_slot(player); assert slot is not None; slot.mods = mods
def setSlotMods (p : PlayerRef) (r : MatchRef) (mods : Mods) : Handler Unit := do
  let s ← Prog.read
  match (s.matchAt r).getSlotId p with
  | some i => updateSlot r i fun slot => { slot with mods := mods }
  | none => Prog.raise .assertion

def matchChangeMods (p : PlayerRef) (mods : Int) : Handler Unit :=
  inMatch p fun r => do
    let s ← Prog.read
    let m := s.matchAt r
    let host ← Prog.lift (matchHost s m)
    if m.freemods then do
      Prog.onlyIf (p = host) <|
        updateMatch r fun m => { m with mods := Mods.maskInt mods Mods.SPEED_CHANGING_MODS }
      setSlotMods p r (Mods.maskInt mods (Mods.invert Mods.SPEED_CHANGING_MODS))
      enqueueState r true
    else if p = host then do
      updateMatch r fun m => { m with mods := Mods.ofInt mods }
      enqueueState r true
    else pure ()

def matchLoadComplete (p : PlayerRef) : Handler Unit :=
  inSlot p fun r i => do
    updateSlot r i fun slot => { slot with loaded := true }
    let s ← Prog.read
    if (s.matchAt r).anySlot fun slot => decide (slot.status = .playing) && !slot.loaded then pure ()
    else enqueueMatch r .matchAllPlayersLoaded false []

def matchFailed (p : PlayerRef) : Handler Unit :=
  inSlot p fun r i => do
    updateSlot r i fun slot => { slot with passed := false }
    enqueueMatch r (.matchPlayerFailed i) false []

def matchSkipRequest (p : PlayerRef) : Handler Unit :=
  inSlot p fun r i => do
    updateSlot r i fun slot => { slot with skipped := true }
    let s ← Prog.read
    enqueueMatch r (.matchPlayerSkipped (s.player p).id) true []
    if (s.matchAt r).anySlot fun slot => decide (slot.status = .playing) && !slot.skipped then pure ()
    else enqueueMatch r .matchSkip false []

def ignoredChannel (name : String) : Bool := name == "#highlight" || name == "#userlog"

def channelJoin (p : PlayerRef) (name : String) : Handler Unit := do
  let s ← Prog.read
  if ignoredChannel name then pure ()
  else
    match s.channelByName name with
    | some c => do
        let _ ← joinChannel p c
        pure ()
    | none => pure ()

def channelPart (p : PlayerRef) (name : String) : Handler Unit := do
  let s ← Prog.read
  if ignoredChannel name then pure ()
  else
    match s.channelByName name with
    | some c => leaveChannel p c true
    | none => pure ()

def matchTransferHost (p : PlayerRef) (slotId : Int) : Handler Unit :=
  asHost p fun r => withSlotId slotId fun i => do
    let s ← Prog.read
    match ((s.matchAt r).slots i).player with
    | some target => do
        setHost r target
        enqueueState r true
    | none => pure ()

-- The match of a tourney packet: a valid id and a donator who asks.
def tourneyMatch (p : PlayerRef) (matchId : Int) (body : MatchRef → Handler Unit) :
    Handler Unit := do
  let s ← Prog.read
  if h : 0 ≤ matchId ∧ matchId < 64 then
    if (s.player p).priv.has Privileges.DONATOR then
      match s.matchList (Server.matchPlace matchId h) with
      | some r => body r
      | none => pure ()
    else pure ()
  else pure ()

def tourneyMatchInfoRequest (p : PlayerRef) (matchId : Int) : Handler Unit :=
  tourneyMatch p matchId fun r => do
    let s ← Prog.read
    let packet ← Prog.lift (writeMatch s (s.matchAt r) false)
    send p (.updateMatch packet)

def tourneyMatchJoinChannel (p : PlayerRef) (matchId : Int) : Handler Unit :=
  tourneyMatch p matchId fun r => do
    let s ← Prog.read
    let m := s.matchAt r
    let id := (s.player p).id
    if m.anySlot fun slot => slot.player.any fun q => (s.player q).id == id then pure ()
    else do
      let joined ← joinChannel p m.chat
      if joined then updateMatch r fun m => { m with tourneyClients := m.tourneyClients.insert id }
      else pure ()

def tourneyMatchLeaveChannel (p : PlayerRef) (matchId : Int) : Handler Unit :=
  tourneyMatch p matchId fun r => do
    let s ← Prog.read
    let m := s.matchAt r
    if (s.player p).id ∈ m.tourneyClients then do
      leaveChannel p m.chat true
      updateMatch r fun m => { m with tourneyClients := m.tourneyClients.erase (s.player p).id }
    else pure ()

def matchChangeTeam (p : PlayerRef) : Handler Unit :=
  inSlot p fun r i => do
    updateSlot r i fun slot => { slot with team := if slot.team = .blue then .red else .blue }
    enqueueState r false

-- match_invite(player, target.name)
def sendInvite (p target : PlayerRef) (r : MatchRef) : Handler Unit := do
  let s ← Prog.read
  let m := s.matchAt r
  let msg := "Come join my game: [osump://" ++ toString m.id ++ "/" ++ m.passwd ++ " " ++ m.name ++ "]."
  send target (.matchInvite (s.player p).name msg (s.player target).name (s.player p).id)

def matchInvite (p : PlayerRef) (userId : Int) : Handler Unit :=
  inMatch p fun r => do
    let s ← Prog.read
    match s.getById userId with
    | none => pure ()
    | some target =>
        if target = botRef then sendPlayerBot p "I'm too busy!" else sendInvite p target r

def matchChangePassword (p : PlayerRef) (data : MultiplayerMatch) : Handler Unit := do
  let s ← Prog.read
  if !validateMatchData data (s.player p).id then pure ()
  else
    asHost p fun r => do
      updateMatch r fun m => { m with passwd := data.passwd }
      enqueueState r true

def startSpectating (p : PlayerRef) (targetId : Int) : Handler Unit := do
  let s ← Prog.read
  match s.getById targetId with
  | none => pure ()
  | some newHost =>
      match (s.player p).spectating with
      | none => addSpectator newHost p
      | some host =>
          if host = newHost then
            if (s.player p).stealth then pure ()
            else do
              send newHost (.spectatorJoined (s.player p).id)
              sendAll ((s.player newHost).spectators.filter (· ≠ p))
                (.fellowSpectatorJoined (s.player p).id)
          else do
            removeSpectator host p
            addSpectator newHost p

def stopSpectating (p : PlayerRef) : Handler Unit := do
  let s ← Prog.read
  match (s.player p).spectating with
  | none => pure ()
  | some host => removeSpectator host p

def cantSpectate (p : PlayerRef) : Handler Unit := do
  let s ← Prog.read
  match (s.player p).spectating with
  | none => pure ()
  | some host =>
      if (s.player p).stealth then pure ()
      else do
        send host (.spectatorCantSpectate (s.player p).id)
        sendAll (s.player host).spectators (.spectatorCantSpectate (s.player p).id)

end BanchoPrism
