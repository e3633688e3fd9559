import BanchoPrism.Constants.GameMode
import BanchoPrism.Constants.Privileges
import BanchoPrism.Library.Prog
import Mathlib.Data.Fin.Tuple.Basic
import Mathlib.Logic.Function.Basic

namespace BanchoPrism

-- Python compares these objects with `is`, so each has an identity of its own.
abbrev PlayerRef := Nat
abbrev MatchRef := Nat
abbrev ChannelRef := Nat

inductive PyError
  | value
  | assertion
  | key
  | index
  | overflow
  | struct
  | attribute
  | unicode
  -- a loop that never ends
  | diverges
  deriving DecidableEq, Repr

inductive SlotStatus
  | open_
  | locked
  | notReady
  | ready
  | noMap
  | playing
  | complete
  | quit
  deriving DecidableEq, Repr, Inhabited

-- status & 0b01111100 != 0, SlotStatus.has_player in the comments of the source.
def SlotStatus.hasPlayer : SlotStatus → Bool
  | .open_ | .locked | .quit => false
  | .notReady | .ready | .noMap | .playing | .complete => true

inductive MatchTeams
  | neutral
  | blue
  | red
  deriving DecidableEq, Repr, Inhabited

def MatchTeams.value : MatchTeams → Nat
  | .neutral => 0
  | .blue => 1
  | .red => 2

inductive MatchWinConditions
  | score
  | accuracy
  | combo
  | scorev2
  deriving DecidableEq, Repr, Inhabited

def MatchWinConditions.ofValue : Int → Option MatchWinConditions
  | 0 => some .score
  | 1 => some .accuracy
  | 2 => some .combo
  | 3 => some .scorev2
  | _ => none

def MatchWinConditions.value : MatchWinConditions → Nat
  | .score => 0
  | .accuracy => 1
  | .combo => 2
  | .scorev2 => 3

inductive MatchTeamTypes
  | headToHead
  | tagCoop
  | teamVs
  | tagTeamVs
  deriving DecidableEq, Repr, Inhabited

def MatchTeamTypes.ofValue : Int → Option MatchTeamTypes
  | 0 => some .headToHead
  | 1 => some .tagCoop
  | 2 => some .teamVs
  | 3 => some .tagTeamVs
  | _ => none

def MatchTeamTypes.value : MatchTeamTypes → Nat
  | .headToHead => 0
  | .tagCoop => 1
  | .teamVs => 2
  | .tagTeamVs => 3

-- The default team of a slot: neutral for free-for-all, red for teams.
def MatchTeamTypes.defaultTeam : MatchTeamTypes → MatchTeams
  | .headToHead | .tagCoop => .neutral
  | .teamVs | .tagTeamVs => .red

structure Slot where
  player : Option PlayerRef := none
  status : SlotStatus := .open_
  team : MatchTeams := .neutral
  mods : Mods := Mods.NOMOD
  loaded : Bool := false
  skipped : Bool := false
  lastScoreFrame : Option (List UInt8) := none
  passed : Bool := true

namespace Slot

def empty (slot : Slot) : Bool := slot.player.isNone

def copyFrom (slot other : Slot) : Slot :=
  { slot with player := other.player, status := other.status, team := other.team, mods := other.mods }

def reset (newStatus : SlotStatus) : Slot := { status := newStatus }

end Slot

inductive Contestant
  | player (p : PlayerRef)
  | team (t : MatchTeams)
  deriving DecidableEq, Repr

structure Match where
  id : Nat
  name : String
  passwd : String
  hasPublicHistory : Bool
  hostId : Nat
  -- a set in the source, without duplicates here
  referees : List PlayerRef := []
  mapId : Int
  mapMd5 : String
  mapName : String
  prevMapId : Int := 0
  mods : Mods
  mode : GameMode
  freemods : Bool
  chat : ChannelRef
  slots : Fin 16 → Slot := fun _ => {}
  teamType : MatchTeamTypes
  winCondition : MatchWinConditions
  inProgress : Bool := false
  -- the player who asked for the pending start timer, and when it fires
  starting : Option (PlayerRef × Int) := none
  seed : Int
  tourneyPool : Option Nat := none
  isScrimming : Bool := false
  matchPoints : List (Contestant × Int) := []
  bans : List (Mods × Nat) := []
  winners : List (Option Contestant) := []
  winningPts : Nat := 0
  usePpScoring : Bool := false
  tourneyClients : List Nat := []
  deriving Inhabited

structure Channel where
  realName : String
  topic : String
  readPriv : Privileges := Privileges.UNRESTRICTED
  writePriv : Privileges := Privileges.UNRESTRICTED
  autoJoin : Bool := true
  instanced : Bool := false
  players : List PlayerRef := []
  deriving Inhabited

-- text.startswith(start)
def startsWith (text start : String) : Bool := start.toList.isPrefixOf text.toList

-- text.endswith(ending)
def endsWith (text ending : String) : Bool := ending.toList.isSuffixOf text.toList

-- text.removesuffix(ending)
def removeEnding (text ending : String) : String :=
  if endsWith text ending then
    String.ofList (text.toList.take (text.length - ending.length))
  else text

namespace Channel

def name (channel : Channel) : String :=
  if startsWith channel.realName "#spec_" then "#spectator"
  else if startsWith channel.realName "#multi_" then "#multiplayer"
  else channel.realName

def canRead (channel : Channel) (priv : Privileges) : Bool :=
  channel.readPriv == 0 || priv.has channel.readPriv

def canWrite (channel : Channel) (priv : Privileges) : Bool :=
  channel.writePriv == 0 || priv.has channel.writePriv

end Channel

structure Player where
  id : Nat := 0
  name : String := ""
  -- make_safe_name(name), the key of the name index
  safeName : String := ""
  token : String := ""
  priv : Privileges := 0
  silenceEnd : Int := 0
  loginTime : Int := 0
  isBotClient : Bool := false
  inLobby : Bool := false
  -- status.mode
  mode : GameMode := .VANILLA_OSU
  blocks : List Nat := []
  channels : List ChannelRef := []
  spectators : List PlayerRef := []
  spectating : Option PlayerRef := none
  matchRef : Option MatchRef := none
  stealth : Bool := false

namespace Player

def restricted (player : Player) : Bool := !player.priv.has Privileges.UNRESTRICTED

def silenced (player : Player) (now : Int) : Bool := max 0 (player.silenceEnd - now) != 0

end Player

-- What write_match puts on the wire; hidden is the password of a match that
-- has one and does not send it.
inductive WirePassword
  | absent
  | hidden
  | shown (passwd : String)
  deriving DecidableEq

structure WireMatch where
  id : Nat
  inProgress : Bool
  mods : Mods
  name : String
  passwd : WirePassword
  mapName : String
  mapId : Int
  mapMd5 : String
  slotStatuses : List SlotStatus
  slotTeams : List MatchTeams
  slotIds : List Nat
  hostId : Nat
  mode : GameMode
  winCondition : MatchWinConditions
  teamType : MatchTeamTypes
  freemods : Bool
  slotMods : List Mods
  seed : Int

inductive ServerPacket
  | notification (msg : String)
  | sendMessage (sender msg recipient : String) (senderId : Nat)
  | channelJoin (name : String)
  | channelKick (name : String)
  | channelInfo (name topic : String) (players : Nat)
  | updateMatch (m : WireMatch)
  | newMatch (m : WireMatch)
  | disposeMatch (id : Nat)
  | matchJoinSuccess (m : WireMatch)
  | matchJoinFail
  | matchStart (m : WireMatch)
  | matchScoreUpdate (slotId : Nat) (frame : List UInt8)
  | matchTransferHost
  | matchAllPlayersLoaded
  | matchPlayerFailed (slotId : Nat)
  | matchPlayerSkipped (userId : Nat)
  | matchComplete
  | matchSkip
  | matchAbort
  | matchInvite (sender msg recipient : String) (senderId : Nat)
  | spectatorJoined (userId : Nat)
  | spectatorLeft (userId : Nat)
  | fellowSpectatorJoined (userId : Nat)
  | fellowSpectatorLeft (userId : Nat)
  | spectatorCantSpectate (userId : Nat)
  | logout (userId : Nat)
  | silenceEnd (delta : Int)
  | userSilenced (userId : Nat)

-- The Players collection: the list and its three indexes.
structure Players where
  list : List PlayerRef := []
  byToken : String → Option PlayerRef := fun _ => none
  byId : Nat → Option PlayerRef := fun _ => none
  byName : String → Option PlayerRef := fun _ => none

structure Server where
  -- str.lower, and int(text) of a text that isdecimal
  lower : String → String
  decimal : String → Option Nat
  -- settings.DOMAIN
  domain : String
  players : Players := {}
  -- a reference that is not handed out yet holds a blank object
  player : PlayerRef → Player := fun _ => {}
  nextPlayer : PlayerRef := 0
  matchList : Fin 64 → Option MatchRef := fun _ => none
  matchAt : MatchRef → Match := fun _ => default
  nextMatch : MatchRef := 0
  channels : List ChannelRef := []
  channel : ChannelRef → Channel := fun _ => default
  nextChannel : ChannelRef := 0
  -- every packet enqueued so far, with the player it is for
  sent : List (PlayerRef × ServerPacket) := []

abbrev Handler (α : Type) := Library.Prog Server PyError α

namespace Server

def modifyPlayer (s : Server) (p : PlayerRef) (f : Player → Player) : Server :=
  { s with player := Function.update s.player p (f (s.player p)) }

def modifyMatch (s : Server) (r : MatchRef) (f : Match → Match) : Server :=
  { s with matchAt := Function.update s.matchAt r (f (s.matchAt r)) }

def modifySlot (s : Server) (r : MatchRef) (i : Fin 16) (f : Slot → Slot) : Server :=
  s.modifyMatch r fun m => { m with slots := Function.update m.slots i (f (m.slots i)) }

def modifyChannel (s : Server) (c : ChannelRef) (f : Channel → Channel) : Server :=
  { s with channel := Function.update s.channel c (f (s.channel c)) }

def enqueue (s : Server) (p : PlayerRef) (packet : ServerPacket) : Server :=
  if (s.player p).isBotClient then s else { s with sent := s.sent ++ [(p, packet)] }

end Server

end BanchoPrism
