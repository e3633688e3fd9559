import BanchoPrism.Sessions.State

namespace BanchoPrism

open Library

def botRef : PlayerRef := 0

namespace Server

def makeSafeName (s : Server) (name : String) : String :=
  String.ofList ((s.lower name).toList.map fun c => if c = ' ' then '_' else c)

-- players.get(token=...), players.get(id=...) and players.get(name=...)
def getByToken (s : Server) (token : String) : Option PlayerRef := s.players.byToken token

def getById (s : Server) (id : Int) : Option PlayerRef :=
  if 0 ≤ id then s.players.byId id.toNat else none

def getByName (s : Server) (name : String) : Option PlayerRef :=
  s.players.byName (s.makeSafeName name)

def isStaff (s : Server) (p : PlayerRef) : Bool :=
  s.players.list.contains p && (s.player p).priv.has Privileges.STAFF

-- channels.get_by_name
def channelByName (s : Server) (name : String) : Option ChannelRef :=
  s.channels.find? fun c => (s.channel c).realName == name

-- matches.get_free
def freeMatchId (s : Server) : Option (Fin 64) := Fin.find? fun i => (s.matchList i).isNone

def setMatch (s : Server) (i : Fin 64) (r : Option MatchRef) : Server :=
  { s with matchList := Function.update s.matchList i r }

-- matches.remove: the first place that holds the match is freed
def removeMatch (s : Server) (r : MatchRef) : Server :=
  match Fin.find? fun i => s.matchList i == some r with
  | some i => s.setMatch i none
  | none => s

def matchPlace (i : Int) (h : 0 ≤ i ∧ i < 64) : Fin 64 := ⟨i.toNat, by omega⟩

-- matches[i], with the negative indexes of a Python list
def matchAtIndex (s : Server) (i : Int) : Except PyError (Option MatchRef) :=
  if h : 0 ≤ i ∧ i < 64 then .ok (s.matchList (matchPlace i h))
  else if h : -64 ≤ i ∧ i < 0 then .ok (s.matchList ⟨(64 + i).toNat, by omega⟩)
  else .error .index

def enqueueAll (s : Server) (recipients : List PlayerRef) (packet : ServerPacket) : Server :=
  recipients.foldl (fun s p => s.enqueue p packet) s

end Server

-- Players.append
def playersAppend (p : PlayerRef) : Handler Unit :=
  Prog.update fun s =>
    if p ∈ s.players.list then s
    else
      { s with
        players :=
          { list := s.players.list ++ [p]
            byToken := Function.update s.players.byToken (s.player p).token (some p)
            byId := Function.update s.players.byId (s.player p).id (some p)
            byName := Function.update s.players.byName (s.player p).safeName (some p) } }

-- del index[key]
def deleteKey {κ : Type} [DecidableEq κ] (index : Players → κ → Option PlayerRef)
    (write : Players → (κ → Option PlayerRef) → Players) (key : κ) : Handler Unit := do
  let s ← Prog.read
  if (index s.players key).isNone then Prog.raise .key
  else Prog.update fun s =>
    { s with players := write s.players (Function.update (index s.players) key none) }

-- Players.remove
def playersRemove (p : PlayerRef) : Handler Unit := do
  let s ← Prog.read
  if p ∈ s.players.list then do
    Prog.update fun s => { s with players := { s.players with list := s.players.list.erase p } }
    deleteKey Players.byToken (fun ps f => { ps with byToken := f }) (s.player p).token
    deleteKey Players.byId (fun ps f => { ps with byId := f }) (s.player p).id
    deleteKey Players.byName (fun ps f => { ps with byName := f }) (s.player p).safeName
  else pure ()

-- Channels.remove
def channelsRemove (c : ChannelRef) : Handler Unit := do
  let s ← Prog.read
  if c ∈ s.channels then Prog.update fun s => { s with channels := s.channels.erase c }
  else Prog.raise .value

def matchesRemove (r : MatchRef) : Handler Unit := Prog.update fun s => s.removeMatch r

def send (p : PlayerRef) (packet : ServerPacket) : Handler Unit :=
  Prog.update fun s => s.enqueue p packet

def sendAll (recipients : List PlayerRef) (packet : ServerPacket) : Handler Unit :=
  Prog.update fun s => s.enqueueAll recipients packet

-- value.to_bytes(size, "little") for an unsigned value
def fitsUnsigned (bytes : Nat) (value : Int) : Bool := 0 ≤ value && value < 2 ^ (8 * bytes)

-- value.to_bytes(4, "little", signed=True)
def fitsI32 (value : Int) : Bool := -(2 ^ 31) ≤ value && value < 2 ^ 31

def require (ok : Bool) (e : PyError) : Except PyError Unit := if ok then .ok () else .error e

theorem require_true {ok : Bool} (e : PyError) (h : ok) : require ok e = .ok () := by
  simp [require, h]

-- Match.host
def matchHost (s : Server) (m : Match) : Except PyError PlayerRef :=
  match s.players.byId m.hostId with
  | some host => .ok host
  | none => .error .value

-- The id written for a slot; the encoder asserts that a slot whose status says
-- so has a player.
def writeSlotId (s : Server) (slot : Slot) : Except PyError (Option Nat) :=
  if slot.status.hasPlayer then
    match slot.player with
    | none => .error .assertion
    | some p => do
        require (fitsUnsigned 4 (s.player p).id) .overflow
        return some (s.player p).id
  else return none

def writePassword (m : Match) (sendPw : Bool) : WirePassword :=
  if m.passwd = "" then .absent else if sendPw then .shown m.passwd else .hidden

def wireMatch (s : Server) (m : Match) (sendPw : Bool) (ids : List (Option Nat))
    (host : PlayerRef) : WireMatch :=
  { id := m.id
    inProgress := m.inProgress
    mods := m.mods
    name := m.name
    passwd := writePassword m sendPw
    mapName := m.mapName
    mapId := m.mapId
    mapMd5 := m.mapMd5
    slotStatuses := (List.finRange 16).map fun i => (m.slots i).status
    slotTeams := (List.finRange 16).map fun i => (m.slots i).team
    slotIds := ids.filterMap id
    hostId := (s.player host).id
    mode := m.mode
    winCondition := m.winCondition
    teamType := m.teamType
    freemods := m.freemods
    slotMods := if m.freemods then (List.finRange 16).map fun i => (m.slots i).mods else []
    seed := m.seed }

-- write_match, with what stops it from writing the match
def writeMatch (s : Server) (m : Match) (sendPw : Bool) : Except PyError WireMatch := do
  require (fitsUnsigned 2 m.id && fitsUnsigned 4 m.mods) .struct
  require (fitsI32 m.mapId) .overflow
  let ids ← (List.finRange 16).mapM fun i => writeSlotId s (m.slots i)
  let host ← matchHost s m
  require (fitsUnsigned 4 (s.player host).id) .overflow
  require (!m.freemods || (List.finRange 16).all fun i => fitsUnsigned 4 (m.slots i).mods) .overflow
  require (fitsUnsigned 4 m.seed) .overflow
  return wireMatch s m sendPw ids host

-- channel_info
def channelInfo (channel : Channel) : Except PyError ServerPacket := do
  require (fitsUnsigned 2 channel.players.length) .overflow
  return .channelInfo channel.name channel.topic channel.players.length

-- Channel(...), an object that is on no list yet
def allocChannel (channel : Channel) : Handler ChannelRef := do
  let s ← Prog.read
  Prog.update fun s =>
    { s with
      channel := Function.update s.channel s.nextChannel channel
      nextChannel := s.nextChannel + 1 }
  pure s.nextChannel

def channelsAppend (c : ChannelRef) : Handler Unit :=
  Prog.update fun s => { s with channels := s.channels ++ [c] }

-- Channel.send, without the copy to the sender
def sendChannel (c : ChannelRef) (sender : PlayerRef) (msg : String) : Handler Unit := do
  let s ← Prog.read
  let channel := s.channel c
  let from_ := s.player sender
  let recipients := channel.players.filter fun p =>
    !(s.player p).blocks.contains from_.id && (s.player p).id != from_.id
  sendAll recipients (.sendMessage from_.name msg channel.name from_.id)

-- Channel.send_bot
def sendBot (c : ChannelRef) (msg : String) : Handler Unit := do
  let s ← Prog.read
  let channel := s.channel c
  let bot := s.player botRef
  let msg :=
    if msg.length ≥ 31979 then s!"message would have crashed games ({msg.length} chars)" else msg
  sendAll channel.players (.sendMessage bot.name msg channel.name bot.id)

-- Player.send_bot
def sendPlayerBot (p : PlayerRef) (msg : String) : Handler Unit := do
  let s ← Prog.read
  let bot := s.player botRef
  send p (.sendMessage bot.name msg (s.player p).name bot.id)

-- The channel_info packet, to the members of an instanced channel and to
-- everyone who can read another one.
def announceCount (c : ChannelRef) : Handler Unit := do
  let s ← Prog.read
  let channel := s.channel c
  let packet ← Prog.lift (channelInfo channel)
  if channel.instanced then sendAll channel.players packet
  else sendAll (s.players.list.filter fun p => channel.canRead (s.player p).priv) packet

-- Player.join_channel
def joinChannel (p : PlayerRef) (c : ChannelRef) : Handler Bool := do
  let s ← Prog.read
  let channel := s.channel c
  if p ∈ channel.players ∨ !channel.canRead (s.player p).priv ∨
      (channel.realName = "#lobby" ∧ !(s.player p).inLobby) then
    pure false
  else do
    Prog.update fun s => s.modifyChannel c fun channel =>
      { channel with players := channel.players ++ [p] }
    Prog.update fun s => s.modifyPlayer p fun player =>
      { player with channels := player.channels ++ [c] }
    send p (.channelJoin channel.name)
    announceCount c
    pure true

-- Channel.remove: the last member of an instanced channel takes the channel
-- off the global list.
def channelRemove (c : ChannelRef) (p : PlayerRef) : Handler Unit := do
  Prog.update fun s => s.modifyChannel c fun channel =>
    { channel with players := channel.players.erase p }
  let s ← Prog.read
  if (s.channel c).players = [] ∧ (s.channel c).instanced then channelsRemove c
  else pure ()

-- self.channels.remove(channel)
def forgetChannel (p : PlayerRef) (c : ChannelRef) : Handler Unit := do
  let s ← Prog.read
  if c ∈ (s.player p).channels then
    Prog.update fun s => s.modifyPlayer p fun player =>
      { player with channels := player.channels.erase c }
  else Prog.raise .value

-- Player.leave_channel
def leaveChannel (p : PlayerRef) (c : ChannelRef) (kick : Bool) : Handler Unit := do
  let s ← Prog.read
  if p ∈ (s.channel c).players then do
    channelRemove c p
    forgetChannel p c
    Prog.onlyIf kick (send p (.channelKick (s.channel c).name))
    announceCount c
  else pure ()

-- while self.channels: self.leave_channel(self.channels[0], kick=False)
-- Each pass takes one channel off the list, so as many passes as channels are
-- enough; a channel the player is not in is never taken off and the loop spins.
def leaveChannels (p : PlayerRef) : Nat → Handler Unit
  | 0 => pure ()
  | passes + 1 => do
    let s ← Prog.read
    match (s.player p).channels with
    | [] => pure ()
    | c :: _ =>
        if p ∈ (s.channel c).players then do
          leaveChannel p c false
          leaveChannels p passes
        else Prog.raise .diverges

end BanchoPrism
