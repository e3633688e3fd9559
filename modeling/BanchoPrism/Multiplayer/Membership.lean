import BanchoPrism.Sessions.Channels

namespace BanchoPrism

open Library

namespace Match

def getSlotId (m : Match) (p : PlayerRef) : Option (Fin 16) :=
  Fin.find? fun i => (m.slots i).player == some p

def getFree (m : Match) : Option (Fin 16) :=
  Fin.find? fun i => decide ((m.slots i).status = .open_)

def mapSlots (m : Match) (f : Slot → Slot) : Match := { m with slots := fun i => f (m.slots i) }

def mapPlayers (m : Match) (f : Slot → Slot) : Match :=
  m.mapSlots fun slot => if slot.player.isSome then f slot else slot

def unreadyPlayers (m : Match) (expected : SlotStatus) : Match :=
  m.mapSlots fun slot => if slot.status = expected then { slot with status := .notReady } else slot

def resetPlayersLoadedStatus (m : Match) : Match :=
  m.mapSlots fun slot => { slot with loaded := false, skipped := false }

def resetScrim (m : Match) : Match := { m with matchPoints := [], winners := [], bans := [] }

def allEmpty (m : Match) : Bool := (Fin.find? fun i => !(m.slots i).empty).isNone

def anySlot (m : Match) (f : Slot → Bool) : Bool := (Fin.find? fun i => f (m.slots i)).isSome

-- The first occupied slot.
def firstPlayer (m : Match) : Option PlayerRef :=
  (Fin.find? fun i => (m.slots i).player.isSome).bind fun i => (m.slots i).player

-- start each player who has the map, and clear the previous game's capture
def startSlots (m : Match) : Match :=
  m.mapSlots fun slot =>
    { slot with
      status := if slot.player.isSome ∧ slot.status ≠ .noMap then .playing else slot.status
      lastScoreFrame := none
      passed := true }

def noMapPlayers (m : Match) : List PlayerRef :=
  (List.finRange 16).filterMap fun i =>
    if (m.slots i).status = .noMap then (m.slots i).player else none

end Match

namespace Server

-- get_host_slot: a missing host raises only once an occupied slot is reached
def hostSlotId (s : Server) (m : Match) : Except PyError (Option (Fin 16)) :=
  if m.allEmpty then .ok none
  else (matchHost s m).map fun host => m.getSlotId host

end Server

-- Match.enqueue
def enqueueMatch (r : MatchRef) (packet : ServerPacket) (lobby : Bool) (immune : List Nat) :
    Handler Unit := do
  let s ← Prog.read
  sendAll ((s.channel (s.matchAt r).chat).players.filter fun p => !immune.contains (s.player p).id)
    packet
  match s.channelByName "#lobby" with
  | some l => if lobby then sendAll (s.channel l).players packet else pure ()
  | none => pure ()

-- Match.enqueue_state
def enqueueState (r : MatchRef) (lobby : Bool) : Handler Unit := do
  let s ← Prog.read
  let m := s.matchAt r
  let shown ← Prog.lift (writeMatch s m true)
  sendAll (s.channel m.chat).players (.updateMatch shown)
  match s.channelByName "#lobby" with
  | some l =>
      if lobby ∧ (s.channel l).players ≠ [] then do
        let hidden ← Prog.lift (writeMatch s m false)
        sendAll (s.channel l).players (.updateMatch hidden)
      else pure ()
  | none => pure ()

def updateMatch (r : MatchRef) (f : Match → Match) : Handler Unit :=
  Prog.update fun s => s.modifyMatch r f

def updateSlot (r : MatchRef) (i : Fin 16) (f : Slot → Slot) : Handler Unit :=
  Prog.update fun s => s.modifySlot r i f

-- Match.start
def startMatch (r : MatchRef) : Handler Unit := do
  let s ← Prog.read
  let noMap := (s.matchAt r).noMapPlayers.map fun p => (s.player p).id
  updateMatch r Match.startSlots
  updateMatch r fun m => { m with inProgress := true }
  let s ← Prog.read
  let packet ← Prog.lift (writeMatch s (s.matchAt r) true)
  enqueueMatch r (.matchStart packet) false noMap
  enqueueState r true

def refuseJoin (p : PlayerRef) : Handler Bool := do
  send p .matchJoinFail
  pure false

-- The slot of whoever creates a match
def createSlot : Fin 16 := 0

-- The slot join_match picks: the host is taken to be creating the match, and
-- staff may use any password.
def joinSlot (s : Server) (p : PlayerRef) (m : Match) (passwd : String) (host : PlayerRef) :
    Option (Fin 16) :=
  if p ≠ host then
    if passwd ≠ m.passwd ∧ !s.isStaff p then none else m.getFree
  else some createSlot

def leaveLobby (p : PlayerRef) : Handler Unit := do
  let s ← Prog.read
  match s.channelByName "#lobby" with
  | some l => if l ∈ (s.player p).channels then leaveChannel p l true else pure ()
  | none => pure ()

-- slot.team, slot.status, slot.player and self.match, as join_match sets them
def sitDown (s : Server) (p : PlayerRef) (r : MatchRef) (i : Fin 16) : Server :=
  (s.modifySlot r i fun slot =>
    { slot with
      team := if (s.matchAt r).teamType.defaultTeam = .red then .red else slot.team
      status := .notReady
      player := some p }).modifyPlayer p fun player => { player with matchRef := some r }

-- Player.join_match
def joinMatch (p : PlayerRef) (r : MatchRef) (passwd : String) : Handler Bool := do
  let s ← Prog.read
  let m := s.matchAt r
  if (s.player p).matchRef.isSome then refuseJoin p
  else if (s.player p).id ∈ m.tourneyClients then refuseJoin p
  else do
    let host ← Prog.lift (matchHost s m)
    match joinSlot s p m passwd host with
    | none => refuseJoin p
    | some i => do
        let joined ← joinChannel p m.chat
        if joined then do
          leaveLobby p
          Prog.update fun s => sitDown s p r i
          let s ← Prog.read
          let packet ← Prog.lift (writeMatch s (s.matchAt r) true)
          send p (.matchJoinSuccess packet)
          enqueueState r true
          pure true
        else pure false

-- match.host_id = player.id; match.host.enqueue(match_transfer_host())
def setHost (r : MatchRef) (p : PlayerRef) : Handler Unit := do
  Prog.update fun s => s.modifyMatch r fun m => { m with hostId := (s.player p).id }
  let s ← Prog.read
  let host ← Prog.lift (matchHost s (s.matchAt r))
  send host .matchTransferHost

-- player was host, transfer to first occupied slot
def passHost (r : MatchRef) : Handler Unit := do
  let s ← Prog.read
  match (s.matchAt r).firstPlayer with
  | some q => setHost r q
  | none => pure ()

-- lobby.enqueue(dispose_match(self.match.id))
def disposeMatch (r : MatchRef) : Handler Unit := do
  let s ← Prog.read
  match s.channelByName "#lobby" with
  | some l => sendAll (s.channel l).players (.disposeMatch (s.matchAt r).id)
  | none => pure ()

-- The last player has left.
def closeMatch (r : MatchRef) : Handler Unit := do
  updateMatch r fun m => { m with starting := none }
  matchesRemove r
  disposeMatch r

-- Someone else is still there: hand the host over if it was the host who left.
def departMatch (p : PlayerRef) (r : MatchRef) : Handler Unit := do
  let s ← Prog.read
  let m := s.matchAt r
  let host ← Prog.lift (matchHost s m)
  Prog.onlyIf (p = host) (passHost r)
  Prog.onlyIf (p ∈ m.referees) do
    updateMatch r fun m => { m with referees := m.referees.erase p }
    sendBot m.chat ((s.player p).name ++ " removed from match referees.")
  enqueueState r true

def afterLeaving (p : PlayerRef) (r : MatchRef) : Handler Unit := do
  let s ← Prog.read
  if (s.matchAt r).allEmpty then closeMatch r else departMatch p r

-- A kicked player leaves the slot locked.
def leftStatus (slot : Slot) : SlotStatus := if slot.status = .locked then .locked else .open_

-- Player.leave_match
def leaveMatch (p : PlayerRef) : Handler Unit := do
  let s ← Prog.read
  match (s.player p).matchRef with
  | none => pure ()
  | some r =>
      match (s.matchAt r).getSlotId p with
      | none => Prog.raise .assertion
      | some i => do
          updateSlot r i fun slot => Slot.reset (leftStatus slot)
          leaveChannel p (s.matchAt r).chat true
          afterLeaving p r
          Prog.update fun s => s.modifyPlayer p fun player => { player with matchRef := none }

def spectatorChannelName (s : Server) (host : PlayerRef) : String :=
  "#spec_" ++ toString (s.player host).id

def spectatorChannel (host : PlayerRef) : Handler ChannelRef := do
  let s ← Prog.read
  match s.channelByName (spectatorChannelName s host) with
  | some c => pure c
  | none => do
      let c ← allocChannel
        { realName := spectatorChannelName s host
          topic := (s.player host).name ++ "'s spectator channel."
          autoJoin := false
          instanced := true }
      let _ ← joinChannel host c
      channelsAppend c
      pure c

-- Player.add_spectator
def addSpectator (host p : PlayerRef) : Handler Unit := do
  let c ← spectatorChannel host
  let joined ← joinChannel p c
  if joined then do
    let s ← Prog.read
    let fellows := (s.player host).spectators
    Prog.onlyIf (!(s.player p).stealth) (sendAll fellows (.fellowSpectatorJoined (s.player p).id))
    Prog.each (fun q => send p (.fellowSpectatorJoined (s.player q).id)) fellows
    Prog.onlyIf (!(s.player p).stealth) (send host (.spectatorJoined (s.player p).id))
    Prog.update fun s => s.modifyPlayer host fun player =>
      { player with spectators := player.spectators ++ [p] }
    Prog.update fun s => s.modifyPlayer p fun player => { player with spectating := some host }
  else pure ()

-- Player.remove_spectator
def removeSpectator (host p : PlayerRef) : Handler Unit := do
  let s ← Prog.read
  if p ∈ (s.player host).spectators then do
    Prog.update fun s => s.modifyPlayer host fun player =>
      { player with spectators := player.spectators.erase p }
    Prog.update fun s => s.modifyPlayer p fun player => { player with spectating := none }
    match s.channelByName (spectatorChannelName s host) with
    | none => Prog.raise .assertion
    | some c => do
        leaveChannel p c true
        let s ← Prog.read
        let left := (s.player host).spectators
        Prog.onlyIf (left = []) (leaveChannel host c true)
        Prog.onlyIf (left ≠ []) do
          let info ← Prog.lift (channelInfo (s.channel c))
          send host info
          sendAll left (.fellowSpectatorLeft (s.player p).id)
          sendAll left info
        send host (.spectatorLeft (s.player p).id)
  else Prog.raise .value

def quitSpectating (p : PlayerRef) : Handler Unit := do
  let s ← Prog.read
  match (s.player p).spectating with
  | some host => removeSpectator host p
  | none => pure ()

-- The rest of logout, once the match is left.
def closeSession (p : PlayerRef) : Handler Unit := do
  quitSpectating p
  let s ← Prog.read
  leaveChannels p (s.player p).channels.length
  playersRemove p
  Prog.update fun s => s.modifyPlayer p fun player => { player with token := "" }
  let s ← Prog.read
  Prog.onlyIf (!(s.player p).restricted) (sendAll s.players.list (.logout (s.player p).id))

-- Player.logout; leave_match does nothing outside a match
def logout (p : PlayerRef) : Handler Unit := do
  leaveMatch p
  closeSession p

end BanchoPrism
