import BanchoPrism.Library.Text
import BanchoPrism.Library.Traces

namespace BanchoPrism.Conversations

open Library Text

abbrev Str := List Char

-- A row of the mail table.
structure Mail where
  id : Nat
  fromId : Nat
  toId : Nat
  msg : Str
  time : Int
  read : Bool
  deriving DecidableEq

structure MailWithUsernames where
  mail : Mail
  fromName : Str
  toName : Str
  deriving DecidableEq

-- The columns of the users table that are read.
structure User where
  id : Nat
  name : Str
  safeName : Str
  silenceEnd : Int
  restricted : Bool
  deriving DecidableEq

-- What players change of themselves while they are online.
structure Settings where
  pmPrivate : Bool := false
  friends : List Nat := []
  blocks : List Nat := []
  -- status.action is Action.Afk
  afk : Bool := false
  awayMsg : Str := []
  deriving DecidableEq

-- A Player, whose token is empty once it has logged out.
structure Player where
  id : Nat
  name : Str
  token : Str
  silenceEnd : Int
  restricted : Bool
  settings : Settings := {}
  deriving DecidableEq

def Player.isOnline (player : Player) : Bool := player.token ≠ []

inductive Packet
  | sendMessage (sender msg recipient : Str) (senderId : Nat)
  | notification (msg : Str)
  | userDmBlocked (target : Str)
  | targetSilenced (target : Str)
  deriving DecidableEq

structure World where
  users : List User
  mail : List Mail := []
  nextId : Nat := 1
  clock : Int
  -- the Player objects, and the one that is app.state.sessions.bot
  player : Nat → Player
  nextPlayer : Nat
  bot : Nat
  -- app.state.sessions.players, and its _by_name
  online : List Nat
  byName : Str → Option Nat
  -- what has been enqueued to whom, and been sent to whom at the login
  sent : List (Nat × Packet) := []

-- The target of a message: an object of the player list, or one that was made from its row.
inductive Target
  | cached (p : Nat)
  | fetched (player : Player)
  deriving DecidableEq

-- What is left to do of a handler after each await.
inductive Line
  | sendPrivateMessage (p : Nat) (text recipient : Str)
  | fetchTarget (p : Nat) (msg recipient : Str)
  | fetchTargetPassword (p : Nat) (msg recipient : Str) (user : User)
  | create (fromId toId : Nat) (msg : Str) (target : Target)
  | login (player : Player)
  | append (player : Player) (rows : List MailWithUsernames)
  | logout (p : Nat)
  | change (p : Nat) (settings : Settings)
  | markAsRead (username : Str) (passwordMatches : Bool) (channel : Str)
  | fetchSender (toId : Nat) (targetName : Str)
  | fetchSenderPassword (toId : Nat) (user : User)
  | fetchUnread (toId fromId : Nat)
  | markRead (toId fromId : Nat)
  | pass (seconds : Nat)
  deriving DecidableEq

-- An object that is not on the player list is nobody's: what it is sent, nobody reads.
def Target.addressed (packet : Packet) : Target → List (Nat × Packet)
  | .cached p => [(p, packet)]
  | .fetched _ => []

open Line

-- What begins: a packet, a login from the player that it makes, a logout, a request of the client.
inductive Request
  | sendPrivateMessage (p : Nat) (text recipient : Str)
  | login (player : Player)
  | logout (p : Nat)
  | change (p : Nat) (settings : Settings)
  | markAsRead (username : Str) (passwordMatches : Bool) (channel : Str)
  | pass (seconds : Nat)
  deriving DecidableEq

def Request.line : Request → Line
  | .sendPrivateMessage p text recipient => .sendPrivateMessage p text recipient
  | .login player => .login player
  | .logout p => .logout p
  | .change p settings => .change p settings
  | .markAsRead username passwordMatches channel => .markAsRead username passwordMatches channel
  | .pass seconds => .pass seconds

namespace World

def enqueue (w : World) (packets : List (Nat × Packet)) : World :=
  { w with sent := w.sent ++ packets }

def target (w : World) : Target → Player
  | .cached p => w.player p
  | .fetched player => player

def remainingSilence (w : World) (player : Player) : Int := max 0 (player.silenceEnd - w.clock)

def silenced (w : World) (player : Player) : Bool := w.remainingSilence player ≠ 0

end World

-- What the standard library makes of names, channels, times and tokens.
structure Texts where
  lower : Str → Str
  unquote : Str → Str
  -- what the columns of the database compare names by
  collate : Str → Str
  -- "%a %b %d @ %H:%M%p"
  strftime : Int → Str
  -- the n-th uuid4
  generateToken : Nat → Str
  generateToken_ne : ∀ n, generateToken n ≠ []

def Texts.makeSafeName (texts : Texts) (name : Str) : Str :=
  (texts.lower name).map fun c => if c = ' ' then '_' else c

-- users.fetch_one by a safe name
def World.fetchUser (texts : Texts) (w : World) (safeName : Str) : Option User :=
  w.users.find? fun user => texts.collate user.safeName = texts.collate safeName

def truncated : Str :=
  "Your message was truncated\n(exceeded 2000 characters).".toList

def offlineNotice (name : Str) : Str :=
  name ++ " is currently offline, but will receive your messsage on their next login.".toList

def limit (msg : Str) : Str :=
  if 2000 < msg.length then msg.take 2000 ++ "... (truncated)".toList else msg

section Handlers

variable (texts : Texts)

-- players.get_sql: what is kept in memory only is not there, and the token is a new one.
def getSql (w : World) (user : User) : Player :=
  { id := user.id
    name := user.name
    token := texts.generateToken w.nextPlayer
    silenceEnd := user.silenceEnd
    restricted := user.restricted }

-- Why the target does not take messages from the player.
def refusal (w : World) (player target : Player) (recipient : Str) : Option Packet :=
  if player.id ∈ target.settings.blocks then some (.userDmBlocked recipient)
  else if target.settings.pmPrivate ∧ player.id ∉ target.settings.friends then
    some (.userDmBlocked recipient)
  else if w.silenced target then some (.targetSilenced recipient)
  else none

-- What the player hears of a message that is too long, and from a target that is away.
def asides (w : World) (p : Nat) (msg : Str) (target : Player) : List (Nat × Packet) :=
  (if 2000 < msg.length then [(p, .notification truncated)] else []) ++
    if target.settings.afk ∧ target.settings.awayMsg ≠ [] then
      [(p, .sendMessage target.name target.settings.awayMsg (w.player p).name target.id)]
    else []

-- SendPrivateMessage.handle, from the target on
def deliver (w : World) (p : Nat) (msg recipient : Str) (target : Target) : World × List Line :=
  match refusal w (w.player p) (w.target target) recipient with
  | some packet => (w.enqueue [(p, packet)], [])
  | none =>
      if target = .cached w.bot then (w.enqueue (asides w p msg (w.target target)), [])
      else
        (w.enqueue (asides w p msg (w.target target) ++
            if (w.target target).isOnline then
              target.addressed (.sendMessage (w.player p).name (limit msg) (w.target target).name
                (w.player p).id)
            else [(p, .notification (offlineNotice (w.target target).name))]),
          [create (w.player p).id (w.target target).id (limit msg) target])

def World.named (w : World) (id : Nat) : Str :=
  ((w.users.find? fun user => user.id = id).map User.name).getD []

-- fetch_all_mail_to_user, of what is unread
def World.unread (w : World) (userId : Nat) : List MailWithUsernames :=
  (w.mail.filter fun row => row.toId = userId ∧ row.read = false).map fun row =>
    { mail := row, fromName := w.named row.fromId, toName := w.named row.toId }

def stamped (row : Mail) : Str :=
  "[".toList ++ texts.strftime row.time ++ "] ".toList ++ row.msg

def unreadPacket (row : MailWithUsernames) : Packet :=
  .sendMessage row.fromName (stamped texts row.mail) row.toName row.mail.fromId

-- The messages of the login response, with a heading before the first one of each sender.
def unreadPackets (sentTo : List Nat) : List MailWithUsernames → List Packet
  | [] => []
  | row :: rest =>
      if row.mail.fromId ∈ sentTo then unreadPacket texts row :: unreadPackets sentTo rest
      else
        .sendMessage row.fromName "Unread messages".toList row.toName row.mail.fromId ::
          unreadPacket texts row :: unreadPackets (row.mail.fromId :: sentTo) rest

-- The end of the login: the player is on the list, and the response is sent.
def World.append (w : World) (player : Player) (rows : List MailWithUsernames) : World :=
  { w with
    player := Function.update w.player w.nextPlayer
      { player with token := texts.generateToken w.nextPlayer }
    nextPlayer := w.nextPlayer + 1
    online := w.online ++ [w.nextPlayer]
    byName := Function.update w.byName (texts.makeSafeName player.name) (some w.nextPlayer)
    sent := w.sent ++ (unreadPackets texts [] rows).map fun packet => (w.nextPlayer, packet) }

def World.logout (w : World) (p : Nat) : World :=
  { w with
    player := Function.update w.player p { w.player p with token := [] }
    online := w.online.erase p
    byName := Function.update w.byName (texts.makeSafeName (w.player p).name) none }

def Line.perform (line : Line) (w : World) : World × List Line :=
  match line with
  | sendPrivateMessage p text recipient =>
      if p ∉ w.online then (w, [])
      else if w.silenced (w.player p) then (w, [])
      else if strip text = [] then (w, [])
      else
        match w.byName (texts.makeSafeName recipient) with
        | some target => deliver w p (strip text) recipient (.cached target)
        | none => (w, [fetchTarget p (strip text) recipient])
  | fetchTarget p msg recipient =>
      match w.fetchUser texts (texts.makeSafeName recipient) with
      | none => (w, [])
      | some user => (w, [fetchTargetPassword p msg recipient user])
  | fetchTargetPassword p msg recipient user =>
      deliver w p msg recipient (.fetched (getSql texts w user))
  | create fromId toId msg _ =>
      ({ w with
          mail := w.mail ++ [⟨w.nextId, fromId, toId, msg, w.clock, false⟩]
          nextId := w.nextId + 1 }, [])
  | login player =>
      (w, [append player (if player.restricted then [] else w.unread player.id)])
  | append player rows => (w.append texts player rows, [])
  | logout p => (if p ∈ w.online then w.logout texts p else w, [])
  | change p settings =>
      ({ w with player := Function.update w.player p { w.player p with settings := settings } }, [])
  | markAsRead username passwordMatches channel =>
      match w.byName (texts.makeSafeName username) with
      | none => (w, [])
      | some p =>
          if ¬passwordMatches then (w, [])
          else if texts.unquote channel = [] then (w, [])
          else
            match w.byName (texts.makeSafeName (texts.unquote channel)) with
            | some target => (w, [fetchUnread (w.player p).id (w.player target).id])
            | none => (w, [fetchSender (w.player p).id (texts.unquote channel)])
  | fetchSender toId targetName =>
      match w.fetchUser texts (texts.makeSafeName targetName) with
      | none => (w, [])
      | some user => (w, [fetchSenderPassword toId user])
  | fetchSenderPassword toId user => (w, [fetchUnread toId user.id])
  | fetchUnread toId fromId =>
      if w.mail.any fun row => row.toId = toId ∧ row.fromId = fromId ∧ row.read = false then
        (w, [markRead toId fromId])
      else (w, [])
  | markRead toId fromId =>
      ({ w with
          mail := w.mail.map fun row =>
            if row.toId = toId ∧ row.fromId = fromId ∧ row.read = false then
              { row with read := true }
            else row }, [])
  | pass seconds => ({ w with clock := w.clock + seconds }, [])

abbrev Traffic := Tasks World Line

abbrev Event := Tasks.Event Request

def Traffic.step (t : Traffic) (e : Event) : Traffic :=
  Tasks.step (fun request => [request.line]) (Line.perform texts) t e

end Handlers

end BanchoPrism.Conversations
