import BanchoPrism.Packets.Reader
import Mathlib.Logic.Function.Basic

namespace BanchoPrism

open Library

-- The members of the enumeration a header can name; UNKNOWN_PACKET is -1 and
-- no header holds it.
inductive ClientPackets
  | CHANGE_ACTION
  | SEND_PUBLIC_MESSAGE
  | LOGOUT
  | REQUEST_STATUS_UPDATE
  | PING
  | START_SPECTATING
  | STOP_SPECTATING
  | SPECTATE_FRAMES
  | ERROR_REPORT
  | CANT_SPECTATE
  | SEND_PRIVATE_MESSAGE
  | PART_LOBBY
  | JOIN_LOBBY
  | CREATE_MATCH
  | JOIN_MATCH
  | PART_MATCH
  | MATCH_CHANGE_SLOT
  | MATCH_READY
  | MATCH_LOCK
  | MATCH_CHANGE_SETTINGS
  | MATCH_START
  | MATCH_SCORE_UPDATE
  | MATCH_COMPLETE
  | MATCH_CHANGE_MODS
  | MATCH_LOAD_COMPLETE
  | MATCH_NO_BEATMAP
  | MATCH_NOT_READY
  | MATCH_FAILED
  | MATCH_HAS_BEATMAP
  | MATCH_SKIP_REQUEST
  | CHANNEL_JOIN
  | BEATMAP_INFO_REQUEST
  | MATCH_TRANSFER_HOST
  | FRIEND_ADD
  | FRIEND_REMOVE
  | MATCH_CHANGE_TEAM
  | CHANNEL_PART
  | RECEIVE_UPDATES
  | SET_AWAY_MESSAGE
  | IRC_ONLY
  | USER_STATS_REQUEST
  | MATCH_INVITE
  | MATCH_CHANGE_PASSWORD
  | TOURNAMENT_MATCH_INFO_REQUEST
  | USER_PRESENCE_REQUEST
  | USER_PRESENCE_REQUEST_ALL
  | TOGGLE_BLOCK_NON_FRIEND_DMS
  | TOURNAMENT_JOIN_MATCH_CHANNEL
  | TOURNAMENT_LEAVE_MATCH_CHANNEL
  deriving DecidableEq, Repr

-- ClientPackets(value): none is the ValueError of an unknown member.
def ClientPackets.ofValue : Nat → Option ClientPackets
  | 0 => some .CHANGE_ACTION
  | 1 => some .SEND_PUBLIC_MESSAGE
  | 2 => some .LOGOUT
  | 3 => some .REQUEST_STATUS_UPDATE
  | 4 => some .PING
  | 16 => some .START_SPECTATING
  | 17 => some .STOP_SPECTATING
  | 18 => some .SPECTATE_FRAMES
  | 20 => some .ERROR_REPORT
  | 21 => some .CANT_SPECTATE
  | 25 => some .SEND_PRIVATE_MESSAGE
  | 29 => some .PART_LOBBY
  | 30 => some .JOIN_LOBBY
  | 31 => some .CREATE_MATCH
  | 32 => some .JOIN_MATCH
  | 33 => some .PART_MATCH
  | 38 => some .MATCH_CHANGE_SLOT
  | 39 => some .MATCH_READY
  | 40 => some .MATCH_LOCK
  | 41 => some .MATCH_CHANGE_SETTINGS
  | 44 => some .MATCH_START
  | 47 => some .MATCH_SCORE_UPDATE
  | 49 => some .MATCH_COMPLETE
  | 51 => some .MATCH_CHANGE_MODS
  | 52 => some .MATCH_LOAD_COMPLETE
  | 54 => some .MATCH_NO_BEATMAP
  | 55 => some .MATCH_NOT_READY
  | 56 => some .MATCH_FAILED
  | 59 => some .MATCH_HAS_BEATMAP
  | 60 => some .MATCH_SKIP_REQUEST
  | 63 => some .CHANNEL_JOIN
  | 68 => some .BEATMAP_INFO_REQUEST
  | 70 => some .MATCH_TRANSFER_HOST
  | 73 => some .FRIEND_ADD
  | 74 => some .FRIEND_REMOVE
  | 77 => some .MATCH_CHANGE_TEAM
  | 78 => some .CHANNEL_PART
  | 79 => some .RECEIVE_UPDATES
  | 82 => some .SET_AWAY_MESSAGE
  | 84 => some .IRC_ONLY
  | 85 => some .USER_STATS_REQUEST
  | 87 => some .MATCH_INVITE
  | 90 => some .MATCH_CHANGE_PASSWORD
  | 93 => some .TOURNAMENT_MATCH_INFO_REQUEST
  | 97 => some .USER_PRESENCE_REQUEST
  | 98 => some .USER_PRESENCE_REQUEST_ALL
  | 99 => some .TOGGLE_BLOCK_NON_FRIEND_DMS
  | 108 => some .TOURNAMENT_JOIN_MATCH_CHANNEL
  | 109 => some .TOURNAMENT_LEAVE_MATCH_CHANNEL
  | _ => none

-- A registered class: what its constructor reads once current_len is set. The
-- reader's methods are all it has, and none of them moves the view back.
structure PacketClass (π : Type) where
  construct : Nat → Reading π
  advances : ∀ currentLen, Prog.Within Cursor.Advances (construct currentLen)

abbrev PacketMap (π : Type) : Type := ClientPackets → Option (PacketClass π)

namespace PacketClass

-- The constructor of BasePacket reads nothing.
def base {π : Type} (packet : π) : PacketClass π :=
  { construct := fun _ => pure packet
    advances := fun _ => Cursor.advances_pure packet }

-- self.field = reader.read_...()
def reading {α π : Type} (read : Nat → Reading α)
    (h : ∀ currentLen, Prog.Within Cursor.Advances (read currentLen)) (f : α → π) :
    PacketClass π :=
  { construct := fun currentLen => do
      let a ← read currentLen
      return f a
    advances := fun currentLen => Cursor.advances_bind (h currentLen) fun a =>
      Cursor.advances_pure (f a) }

def i32 {π : Type} (f : Int → π) : PacketClass π :=
  reading (fun _ => readI32) (fun _ => advances_readSigned 4) f

def string {π : Type} (f : String → π) : PacketClass π :=
  reading (fun _ => readString) (fun _ => advances_readString) f

def message {π : Type} (f : Message → π) : PacketClass π :=
  reading (fun _ => readMessage) (fun _ => advances_readMessage) f

def matchData {π : Type} (f : MultiplayerMatch → π) : PacketClass π :=
  reading (fun _ => readMatch) (fun _ => advances_readMatch) f

def i32ListI16l {π : Type} (f : List Nat → π) : PacketClass π :=
  reading (fun _ => readI32ListI16l) (fun _ => advances_readI32ListI16l) f

end PacketClass

structure ChangeAction where
  action : Nat
  infoText : String
  mapMd5 : String
  mods : Mods
  mode : Nat
  mapId : Int

-- The mods and the mode that ChangeAction keeps of the ones that were sent.
def splitModeMods (mods : Mods) (mode : Nat) : Mods × Nat :=
  if mods.has Mods.RELAX then
    -- rx!mania doesn't exist
    if mode = 3 then (mods.without Mods.RELAX, mode) else (mods, mode + 4)
  else if mods.has Mods.AUTOPILOT then
    -- ap!catch, taiko and mania don't exist
    if mode = 1 ∨ mode = 2 ∨ mode = 3 then (mods.without Mods.AUTOPILOT, mode)
    else (mods, mode + 8)
  else (mods, mode)

def readChangeAction : Reading ChangeAction := do
  let action ← readU8
  let infoText ← readString
  let mapMd5 ← readString
  let mods ← readU32
  let mode ← readU8
  let mapId ← readI32
  return {
    action, infoText, mapMd5, mapId
    mods := (splitModeMods mods mode).1
    mode := (splitModeMods mods mode).2 }

theorem advances_readChangeAction : Prog.Within Cursor.Advances readChangeAction := by
  unfold readChangeAction
  apply Cursor.advances_bind advances_readU8
  intro action
  apply Cursor.advances_bind advances_readString
  intro infoText
  apply Cursor.advances_bind advances_readString
  intro mapMd5
  apply Cursor.advances_bind (advances_readUnsigned 4)
  intro mods
  apply Cursor.advances_bind advances_readU8
  intro mode
  apply Cursor.advances_bind (advances_readSigned 4)
  intro mapId
  exact Cursor.advances_pure _

def readMatchJoin : Reading (Int × String) := do
  let matchId ← readI32
  let matchPasswd ← readString
  return (matchId, matchPasswd)

theorem advances_readMatchJoin : Prog.Within Cursor.Advances readMatchJoin := by
  unfold readMatchJoin
  apply Cursor.advances_bind (advances_readSigned 4)
  intro matchId
  apply Cursor.advances_bind advances_readString
  intro matchPasswd
  exact Cursor.advances_pure _

-- The packets the reader yields: a class and the fields its constructor set.
inductive ClientPacket
  | Ping
  | ChangeAction (data : ChangeAction)
  | SendMessage (msg : Message)
  | Logout
  | StatsUpdateRequest
  | StartSpectating (targetId : Int)
  | StopSpectating
  | SpectateFrames (frameBundle : ReplayFrameBundle)
  | CantSpectate
  | SendPrivateMessage (msg : Message)
  | LobbyPart
  | LobbyJoin
  | MatchCreate (matchData : MultiplayerMatch)
  | MatchJoin (matchId : Int) (matchPasswd : String)
  | MatchPart
  | MatchChangeSlot (slotId : Int)
  | MatchReady
  | MatchLock (slotId : Int)
  | MatchChangeSettings (matchData : MultiplayerMatch)
  | MatchStart
  | MatchScoreUpdate (playData : List UInt8)
  | MatchComplete
  | MatchChangeMods (mods : Int)
  | MatchLoadComplete
  | MatchNoBeatmap
  | MatchNotReady
  | MatchFailed
  | MatchHasBeatmap
  | MatchSkipRequest
  | ChannelJoin (name : String)
  | MatchTransferHost (slotId : Int)
  | TourneyMatchInfoRequest (matchId : Int)
  | TourneyMatchJoinChannel (matchId : Int)
  | TourneyMatchLeaveChannel (matchId : Int)
  | FriendAdd (userId : Int)
  | FriendRemove (userId : Int)
  | MatchChangeTeam
  | ChannelPart (name : String)
  | ReceiveUpdates (value : Int)
  | SetAwayMessage (msg : Message)
  | StatsRequest (userIds : List Nat)
  | MatchInvite (userId : Int)
  | MatchChangePassword (matchData : MultiplayerMatch)
  | UserPresenceRequest (userIds : List Nat)
  | UserPresenceRequestAll (ingameTime : Int)
  | ToggleBlockingDMs (value : Int)

-- One @register line: the id, whether restricted users may send it, the class.
structure Registration where
  packet : ClientPackets
  restricted : Bool := false
  cls : PacketClass ClientPacket

open PacketClass in
def registrations : List Registration :=
  [ { packet := .PING, restricted := true, cls := base .Ping },
    { packet := .CHANGE_ACTION, restricted := true,
      cls := reading (fun _ => readChangeAction) (fun _ => advances_readChangeAction)
        .ChangeAction },
    { packet := .SEND_PUBLIC_MESSAGE, cls := message .SendMessage },
    { packet := .LOGOUT, restricted := true, cls := i32 fun _ => .Logout },
    { packet := .REQUEST_STATUS_UPDATE, restricted := true, cls := base .StatsUpdateRequest },
    { packet := .START_SPECTATING, cls := i32 .StartSpectating },
    { packet := .STOP_SPECTATING, cls := base .StopSpectating },
    { packet := .SPECTATE_FRAMES,
      cls := reading readReplayframeBundle advances_readReplayframeBundle .SpectateFrames },
    { packet := .CANT_SPECTATE, cls := base .CantSpectate },
    { packet := .SEND_PRIVATE_MESSAGE, cls := message .SendPrivateMessage },
    { packet := .PART_LOBBY, cls := base .LobbyPart },
    { packet := .JOIN_LOBBY, cls := base .LobbyJoin },
    { packet := .CREATE_MATCH, cls := matchData .MatchCreate },
    { packet := .JOIN_MATCH,
      cls := reading (fun _ => readMatchJoin) (fun _ => advances_readMatchJoin) fun (id, passwd) =>
        .MatchJoin id passwd },
    { packet := .PART_MATCH, cls := base .MatchPart },
    { packet := .MATCH_CHANGE_SLOT, cls := i32 .MatchChangeSlot },
    { packet := .MATCH_READY, cls := base .MatchReady },
    { packet := .MATCH_LOCK, cls := i32 .MatchLock },
    { packet := .MATCH_CHANGE_SETTINGS, cls := matchData .MatchChangeSettings },
    { packet := .MATCH_START, cls := base .MatchStart },
    { packet := .MATCH_SCORE_UPDATE,
      cls := reading readRaw (fun n => Cursor.advances_take n) .MatchScoreUpdate },
    { packet := .MATCH_COMPLETE, cls := base .MatchComplete },
    { packet := .MATCH_CHANGE_MODS, cls := i32 .MatchChangeMods },
    { packet := .MATCH_LOAD_COMPLETE, cls := base .MatchLoadComplete },
    { packet := .MATCH_NO_BEATMAP, cls := base .MatchNoBeatmap },
    { packet := .MATCH_NOT_READY, cls := base .MatchNotReady },
    { packet := .MATCH_FAILED, cls := base .MatchFailed },
    { packet := .MATCH_HAS_BEATMAP, cls := base .MatchHasBeatmap },
    { packet := .MATCH_SKIP_REQUEST, cls := base .MatchSkipRequest },
    { packet := .CHANNEL_JOIN, restricted := true, cls := string .ChannelJoin },
    { packet := .MATCH_TRANSFER_HOST, cls := i32 .MatchTransferHost },
    { packet := .TOURNAMENT_MATCH_INFO_REQUEST, cls := i32 .TourneyMatchInfoRequest },
    { packet := .TOURNAMENT_JOIN_MATCH_CHANNEL, cls := i32 .TourneyMatchJoinChannel },
    { packet := .TOURNAMENT_LEAVE_MATCH_CHANNEL, cls := i32 .TourneyMatchLeaveChannel },
    { packet := .FRIEND_ADD, cls := i32 .FriendAdd },
    { packet := .FRIEND_REMOVE, cls := i32 .FriendRemove },
    { packet := .MATCH_CHANGE_TEAM, cls := base .MatchChangeTeam },
    { packet := .CHANNEL_PART, restricted := true, cls := string .ChannelPart },
    { packet := .RECEIVE_UPDATES, restricted := true, cls := i32 .ReceiveUpdates },
    { packet := .SET_AWAY_MESSAGE, cls := message .SetAwayMessage },
    { packet := .USER_STATS_REQUEST, restricted := true, cls := i32ListI16l .StatsRequest },
    { packet := .MATCH_INVITE, cls := i32 .MatchInvite },
    { packet := .MATCH_CHANGE_PASSWORD, cls := matchData .MatchChangePassword },
    { packet := .USER_PRESENCE_REQUEST, cls := i32ListI16l .UserPresenceRequest },
    { packet := .USER_PRESENCE_REQUEST_ALL, cls := i32 .UserPresenceRequestAll },
    { packet := .TOGGLE_BLOCK_NON_FRIEND_DMS, cls := i32 .ToggleBlockingDMs } ]

-- app.state.packets
structure Packets where
  all : PacketMap ClientPacket := fun _ => none
  restricted : PacketMap ClientPacket := fun _ => none

def Packets.register (packets : Packets) (r : Registration) : Packets :=
  { all := Function.update packets.all r.packet (some r.cls)
    restricted :=
      if r.restricted then Function.update packets.restricted r.packet (some r.cls)
      else packets.restricted }

def packets : Packets := registrations.foldl Packets.register {}

end BanchoPrism
