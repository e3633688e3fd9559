import BanchoPrism.Library.Run
import BanchoPrism.Multiplayer.Commands

namespace BanchoPrism

open Library

-- A command given in a channel, as process_commands got it.
structure Call where
  player : PlayerRef
  msg : String
  channel : ChannelRef
  command : MpCommand

-- A handler that waits for the database or the beatmap API.
inductive Suspended
  | settings (p : PlayerRef) (data : MultiplayerMatch)
  | command (call : Call) (r : MatchRef) (pause : Pause)

structure World where
  server : Server
  suspended : List Suspended := []

-- channel.send_selective
def sendSelective (c : ChannelRef) (sender : PlayerRef) (msg : String)
    (recipient : PlayerRef → Bool) : Handler Unit := do
  let s ← Prog.read
  let channel := s.channel c
  sendAll (channel.players.filter recipient)
    (.sendMessage (s.player sender).name msg channel.name (s.player sender).id)

-- The message and the answer, as SendMessage passes them on.
def respond (call : Call) (reply : Option String) : Handler Unit := do
  let s ← Prog.read
  match reply with
  | none => sendChannel call.channel call.player call.msg
  | some resp =>
      if call.command.hidden then do
        sendSelective call.channel call.player call.msg fun p => s.isStaff p && p != call.player
        sendSelective call.channel botRef resp fun p => s.isStaff p || p == call.player
      else do
        sendChannel call.channel call.player call.msg
        sendBot call.channel resp

def afterReply (call : Call) (elapsed : String) : Option MatchRef × Reply → Handler (Option Suspended)
  | (some r, .await pause) => pure (some (.command call r pause))
  | (_, .text msg) => do
      respond call (some (msg ++ " | Elapsed: " ++ elapsed))
      pure none
  | _ => do
      respond call none
      pure none

-- process_commands prints the exception and answers with this.
def commandFailed (r : Option MatchRef) (_ : PyError) : Handler (Option MatchRef × Reply) :=
  pure (r, .text "An exception occurred when running the command.")

structure Clock where
  now : Int
  elapsed : String := ""
  secret : String := ""

-- The channel a message is for.
def recipientChannel (s : Server) (p : PlayerRef) (recipient : String) : Option ChannelRef :=
  if recipient = "#spectator" then
    match (s.player p).spectating, (s.player p).spectators with
    | some host, _ => s.channelByName (spectatorChannelName s host)
    | none, _ :: _ => s.channelByName (spectatorChannelName s p)
    | none, [] => none
  else if recipient = "#multiplayer" then
    (s.player p).matchRef.map fun r => (s.matchAt r).chat
  else s.channelByName recipient

def truncateMessage (p : PlayerRef) (text : String) : Handler String :=
  if 2000 < text.length then do
    send p (.notification "Your message was truncated\n(exceeded 2000 characters).")
    pure (String.ofList (text.toList.take 2000) ++ "... (truncated)")
  else pure text

-- SendMessage: text is stripped, and mp holds the trigger and the arguments of
-- a message that starts with the prefix and the word mp.
def sendMessage (p : PlayerRef) (text recipient : String) (mp : Option (String × List String))
    (clock : Clock) : Handler (Option Suspended) := do
  let s ← Prog.read
  if (s.player p).silenced clock.now ∨ text = "" ∨ ignoredChannel recipient then pure none
  else
    match recipientChannel s p recipient with
    | none => pure none
    | some c =>
        if p ∉ (s.channel c).players ∨ !(s.channel c).canWrite (s.player p).priv then pure none
        else do
          let msg ← truncateMessage p text
          match mp.bind fun (trigger, args) =>
              (MpCommand.find trigger (s.player p).priv).map fun command => (command, args) with
          | none => do
              sendChannel c p msg
              pure none
          | some (command, args) => do
              let ctx : Context :=
                { player := p, args := args, now := clock.now, secret := clock.secret }
              let reply ← Prog.attempt (ensureMatch ctx c command) (commandFailed none)
              afterReply { player := p, msg := msg, channel := c, command := command }
                clock.elapsed reply

-- The client packets that act on matches, channels and spectators.
inductive Packet
  | logout
  | partLobby
  | joinLobby
  | createMatch (data : MultiplayerMatch)
  | joinMatch (matchId : Int) (passwd : String)
  | partMatch
  | changeSlot (slotId : Int)
  | ready
  | lock (slotId : Int)
  | changeSettings (data : MultiplayerMatch)
  | start
  | scoreUpdate (playData : List UInt8)
  | complete
  | changeMods (mods : Int)
  | loadComplete
  | noBeatmap
  | notReady
  | failed
  | hasBeatmap
  | skipRequest
  | channelJoin (name : String)
  | channelPart (name : String)
  | transferHost (slotId : Int)
  | tourneyMatchInfo (matchId : Int)
  | tourneyJoinChannel (matchId : Int)
  | tourneyLeaveChannel (matchId : Int)
  | changeTeam
  | invite (userId : Int)
  | changePassword (data : MultiplayerMatch)
  | startSpectating (targetId : Int)
  | stopSpectating
  | cantSpectate
  | sendMessage (text recipient : String) (mp : Option (String × List String))

def finished (handler : Handler Unit) : Handler (Option Suspended) := do
  handler
  pure none

def Packet.handle (p : PlayerRef) (clock : Clock) : Packet → Handler (Option Suspended)
  | logout => finished (logoutPacket p clock.now)
  | partLobby => finished (lobbyPart p)
  | joinLobby => finished (lobbyJoin p)
  | createMatch data => finished (matchCreate p data clock.now)
  | joinMatch matchId passwd => finished (matchJoin p matchId passwd clock.now)
  | partMatch => finished (matchPart p)
  | changeSlot slotId => finished (matchChangeSlot p slotId)
  | ready => finished (matchReady p)
  | lock slotId => finished (matchLock p slotId)
  | changeSettings data => do
      let awaits ← matchChangeSettings p data
      pure (if awaits then some (.settings p data) else none)
  | start => finished (matchStart p)
  | scoreUpdate playData => finished (matchScoreUpdate p playData)
  | complete => finished (matchComplete p)
  | changeMods mods => finished (matchChangeMods p mods)
  | loadComplete => finished (matchLoadComplete p)
  | noBeatmap => finished (matchNoBeatmap p)
  | notReady => finished (matchNotReady p)
  | failed => finished (matchFailed p)
  | hasBeatmap => finished (matchHasBeatmap p)
  | skipRequest => finished (matchSkipRequest p)
  | channelJoin name => finished (BanchoPrism.channelJoin p name)
  | channelPart name => finished (BanchoPrism.channelPart p name)
  | transferHost slotId => finished (matchTransferHost p slotId)
  | tourneyMatchInfo matchId => finished (tourneyMatchInfoRequest p matchId)
  | tourneyJoinChannel matchId => finished (tourneyMatchJoinChannel p matchId)
  | tourneyLeaveChannel matchId => finished (tourneyMatchLeaveChannel p matchId)
  | changeTeam => finished (matchChangeTeam p)
  | invite userId => finished (matchInvite p userId)
  | changePassword data => finished (matchChangePassword p data)
  | startSpectating targetId => finished (BanchoPrism.startSpectating p targetId)
  | stopSpectating => finished (BanchoPrism.stopSpectating p)
  | cantSpectate => finished (BanchoPrism.cantSpectate p)
  | sendMessage text recipient mp => BanchoPrism.sendMessage p text recipient mp clock

def Suspended.resume (found : Lookup) (elapsed : String) : Suspended → Handler (Option Suspended)
  | .settings p data => finished (resumeChangeSettings p data found.beatmap)
  | .command call r pause => do
      let reply ← Prog.attempt
        (do
          let reply ← pause.resume r found
          pure (some r, reply))
        (commandFailed (some r))
      afterReply call elapsed reply

structure Profile where
  id : Nat
  name : String
  token : String
  priv : Privileges
  silenceEnd : Int := 0
  loginTime : Int := 0
  blocks : List Nat := []

-- The end of a login: a new session object, put on the player list.
def login (profile : Profile) : Handler Unit := do
  let s ← Prog.read
  let p := s.nextPlayer
  Prog.update fun s => { s with nextPlayer := p + 1 }
  Prog.update fun s => s.modifyPlayer p fun blank =>
    { blank with
      id := profile.id
      name := profile.name
      safeName := s.makeSafeName profile.name
      token := profile.token
      priv := profile.priv
      silenceEnd := profile.silenceEnd
      loginTime := profile.loginTime
      blocks := profile.blocks }
  playersAppend p

-- Player.silence
def silence (p : PlayerRef) (now duration : Int) : Handler Unit := do
  Prog.update fun s => s.modifyPlayer p fun player => { player with silenceEnd := now + duration }
  let s ← Prog.read
  send p (.silenceEnd duration)
  sendAll s.players.list (.userSilenced (s.player p).id)
  if (s.player p).matchRef.isSome then leaveMatch p else pure ()

inductive Event
  | login (profile : Profile)
  | packet (p : PlayerRef) (packet : Packet) (clock : Clock)
  | resume (i : Nat) (found : Lookup) (elapsed : String)
  | startTimer (r : MatchRef)
  -- a session dropped as a ghost, replaced at login, or restricted
  | disconnect (p : PlayerRef)
  | silence (p : PlayerRef) (now duration : Int)

namespace World

-- A handler runs to its end or to its next await; an exception ends it.
def runHandler (w : World) (handler : Handler (Option Suspended)) : World :=
  match handler w.server with
  | (.ok (some next), s) => { server := s, suspended := w.suspended ++ [next] }
  | (_, s) => { w with server := s }

-- Only sessions that have logged in act.
def runFor (w : World) (p : PlayerRef) (handler : Handler (Option Suspended)) : World :=
  if p < w.server.nextPlayer then w.runHandler handler else w

def step (w : World) : Event → World
  | .login profile => w.runHandler (finished (BanchoPrism.login profile))
  | .packet p packet clock => w.runFor p (packet.handle p clock)
  | .resume i found elapsed =>
      match w.suspended[i]? with
      | some next =>
          { w with suspended := w.suspended.eraseIdx i }.runHandler (next.resume found elapsed)
      | none => w
  | .startTimer r => w.runHandler (finished (startTimerFires r))
  | .disconnect p => w.runFor p (finished (BanchoPrism.logout p))
  | .silence p now duration => w.runFor p (finished (BanchoPrism.silence p now duration))

end World

-- The channels table of the database.
structure ChannelRow where
  name : String
  topic : String
  readPriv : Privileges
  writePriv : Privileges
  autoJoin : Bool

def ChannelRow.toChannel (row : ChannelRow) : Channel :=
  { realName := row.name
    topic := row.topic
    readPriv := row.readPriv
    writePriv := row.writePriv
    autoJoin := row.autoJoin }

-- What is outside the session state: the settings and the text functions.
structure Setup where
  lower : String → String := id
  decimal : String → Option Nat := fun _ => none
  domain : String := ""
  rows : List ChannelRow := []
  botName : String := ""
  botToken : String := ""

-- The server after start-up: the channels of the database and the bot.
def Setup.start (setup : Setup) : World :=
  let server : Server :=
    { lower := setup.lower
      decimal := setup.decimal
      domain := setup.domain
      nextPlayer := 1
      channels := List.range setup.rows.length
      channel := fun c => (setup.rows[c]?.map ChannelRow.toChannel).getD default
      nextChannel := setup.rows.length }
  let bot : Player :=
    { id := 1
      name := setup.botName
      safeName := server.makeSafeName setup.botName
      token := setup.botToken
      priv := Privileges.UNRESTRICTED
      isBotClient := true }
  { server := (playersAppend botRef (server.modifyPlayer botRef fun _ => bot)).2 }

end BanchoPrism
