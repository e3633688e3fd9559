import BanchoPrism.Constants.Privileges
import BanchoPrism.Library.Broadcast
import BanchoPrism.Library.Text
import BanchoPrism.Library.Traces
import Mathlib.Data.List.Dedup

namespace BanchoPrism.Chat

open Library Tasks Text

abbrev Str := List Char

-- What the handler reads of a Player.
structure Player where
  id : Nat
  name : Str
  priv : Privileges
  blocks : List Nat
  silenceEnd : Int
  spectating : Option Nat
  spectators : List Nat
  -- match.chat
  matchChat : Option Nat
  isBotClient : Bool
  deriving DecidableEq

structure Channel where
  realName : Str
  writePriv : Privileges
  players : List Nat
  nodup : players.Nodup
  deriving DecidableEq

def Channel.name (channel : Channel) : Str :=
  if "#spec_".toList.isPrefixOf channel.realName then "#spectator".toList
  else if "#multi_".toList.isPrefixOf channel.realName then "#multiplayer".toList
  else channel.realName

def Channel.canWrite (channel : Channel) (priv : Privileges) : Bool :=
  channel.writePriv = 0 || priv.has channel.writePriv

inductive Packet
  | sendMessage (sender msg recipient : Str) (senderId : Nat)
  | notification (msg : Str)
  -- any other, as bytes
  | other (data : List UInt8)
  deriving DecidableEq

-- All that other handlers change while one waits.
structure Sessions where
  player : Nat → Player
  channel : Nat → Channel
  -- app.state.sessions.channels and players
  channels : List Nat
  online : List Nat
  bot : Nat
  clock : Int
  -- what commands and lookups find in the database and at osu!'s api
  outside : Nat

structure World where
  sessions : Sessions
  boxes : Mailboxes Nat Packet

-- What process_commands returns.
structure CommandResponse where
  resp : Option Str
  hidden : Bool
  deriving DecidableEq

-- What the handler calls. A command may change the sessions, as anything may that goes on at once.
structure Texts where
  prefix_ : Str
  nowPlaying : Str → Bool
  processCommands : Sessions → Nat → Nat → Str → Option CommandResponse
  -- Beatmap.from_bid raises: api_get_beatmaps has failed three times, say
  fromBidRaises : Sessions → Nat → Str → Bool

def IGNORED_CHANNELS : List Str := ["#highlight".toList, "#userlog".toList]

def maxMessage : Nat := 2000

def maxBotMessage : Nat := 31979

namespace Sessions

def remainingSilence (s : Sessions) (p : Nat) : Int := max 0 ((s.player p).silenceEnd - s.clock)

def silenced (s : Sessions) (p : Nat) : Bool := s.remainingSilence p ≠ 0

def getByName (s : Sessions) (name : Str) : Option Nat :=
  s.channels.find? fun c => (s.channel c).realName = name

def spectatorChannelName (s : Sessions) (host : Nat) : Str :=
  "#spec_".toList ++ Nat.toDigits 10 (s.player host).id

-- The channel that a client means.
def resolve (s : Sessions) (p : Nat) (recipient : Str) : Option Nat :=
  if IGNORED_CHANNELS.contains recipient then none
  else if recipient = "#spectator".toList then
    match (s.player p).spectating with
    | some host => s.getByName (s.spectatorChannelName host)
    | none =>
        if (s.player p).spectators = [] then none else s.getByName (s.spectatorChannelName p)
  else if recipient = "#multiplayer".toList then (s.player p).matchChat
  else s.getByName recipient

def staff (s : Sessions) : List Nat :=
  s.online.filter fun p => (s.player p).priv.has Privileges.STAFF

-- Bot accounts enqueue nothing.
def clients (s : Sessions) (players : List Nat) : List Nat :=
  players.filter fun p => (s.player p).isBotClient = false

def message (s : Sessions) (sender c : Nat) (msg : Str) : Packet :=
  .sendMessage (s.player sender).name msg (s.channel c).name (s.player sender).id

-- Channel.send
def send (s : Sessions) (c sender : Nat) (msg : Str) : Post Nat Packet where
  packet := s.message sender c msg
  audience := s.clients ((s.channel c).players.filter fun p =>
    (s.player sender).id ∉ (s.player p).blocks ∧ (s.player p).id ≠ (s.player sender).id)

def clipBot (msg : Str) : Str :=
  if maxBotMessage ≤ msg.length then
    "message would have crashed games (".toList ++ Nat.toDigits 10 msg.length ++ " chars)".toList
  else msg

-- Channel.send_bot
def sendBot (s : Sessions) (c : Nat) (msg : Str) : Post Nat Packet where
  packet := s.message s.bot c (clipBot msg)
  audience := s.clients (s.channel c).players

-- Channel.send_selective
def sendSelective (s : Sessions) (c sender : Nat) (msg : Str) (recipients : List Nat) :
    Post Nat Packet where
  packet := s.message sender c msg
  audience := s.clients (recipients.filter fun p => p ∈ (s.channel c).players)

-- What the channel is told, once it is known whether the message is a command.
def speak (s : Sessions) (p c : Nat) (msg : Str) (cmd : Option CommandResponse) :
    List (Post Nat Packet) :=
  match cmd with
  | none => [s.send c p msg]
  | some cmd =>
      if cmd.hidden then
        s.sendSelective c p msg (s.staff.dedup.filter (· ≠ p)) ::
          (cmd.resp.map fun resp => s.sendSelective c s.bot resp (p :: s.staff).dedup).toList
      else s.send c p msg :: (cmd.resp.map fun resp => s.sendBot c resp).toList

end Sessions

-- The text that is sent on, and what its sender is told where it is cut.
def clip (msg : Str) : Str :=
  if maxMessage < msg.length then msg.take maxMessage ++ "... (truncated)".toList else msg

def truncated : Str := "Your message was truncated\n(exceeded 2000 characters).".toList

def Sessions.clipNotice (s : Sessions) (p : Nat) (msg : Str) : List (Post Nat Packet) :=
  if maxMessage < msg.length then [⟨.notification truncated, s.clients [p]⟩] else []

-- What is left to do of a handler after each await.
inductive Line
  | sendMessage (p : Nat) (text recipient : Str)
  | command (p c : Nat) (msg : Str)
  | beatmap (p c : Nat) (msg : Str)
  -- player.dequeue, into the response
  | respond (p : Nat)
  -- any other handler, up to its next await
  | meanwhile (sessions : Sessions) (posts : List (Post Nat Packet))

inductive Request
  | sendMessage (p : Nat) (text recipient : Str)
  | respond (p : Nat)
  | meanwhile (sessions : Sessions) (posts : List (Post Nat Packet))

def Request.line : Request → Line
  | sendMessage p text recipient => .sendMessage p text recipient
  | respond p => .respond p
  | meanwhile sessions posts => .meanwhile sessions posts

-- The channel that a message gets to, where it gets to one.
def Sessions.admits (s : Sessions) (p : Nat) (text recipient : Str) : Option Nat :=
  if s.silenced p then none
  else if strip text = [] then none
  else
    (s.resolve p recipient).filter fun c =>
      p ∈ (s.channel c).players && (s.channel c).canWrite (s.player p).priv

-- What a line makes of the sessions that it finds: what it says in the channel, which each message
-- is there for, what it puts into queues besides, and what it goes on with.
structure Outcome where
  said : Option (List (Post Nat Packet)) := none
  aside : List (Post Nat Packet) := []
  next : List Line := []

def Outcome.posts (outcome : Outcome) : List (Post Nat Packet) :=
  outcome.aside ++ outcome.said.getD []

def Line.outcome (texts : Texts) (s : Sessions) : Line → Outcome
  | sendMessage p text recipient =>
      match s.admits p text recipient with
      | none => {}
      | some c =>
          let msg := clip (strip text)
          let notice := s.clipNotice p (strip text)
          if texts.prefix_.isPrefixOf msg then { aside := notice, next := [command p c msg] }
          else if texts.nowPlaying msg then { aside := notice, next := [beatmap p c msg] }
          else { aside := notice, said := some (s.speak p c msg none) }
  | command p c msg =>
      match texts.processCommands s p c msg with
      | some cmd => { said := some (s.speak p c msg (some cmd)) }
      | none =>
          if texts.nowPlaying msg then { next := [beatmap p c msg] }
          else { said := some (s.speak p c msg none) }
  | beatmap p c msg =>
      if texts.fromBidRaises s p msg then {} else { said := some (s.speak p c msg none) }
  | respond _ => {}
  | meanwhile _ posts => { aside := posts }

def Line.perform (texts : Texts) (line : Line) (w : World) : World × List Line :=
  match line with
  | respond p => ({ w with boxes := w.boxes.flush p }, [])
  | meanwhile sessions posts => ({ sessions := sessions, boxes := w.boxes.post posts }, [])
  | sendMessage _ _ _ | command _ _ _ | beatmap _ _ _ =>
      ({ w with boxes := w.boxes.post (line.outcome texts w.sessions).posts },
        (line.outcome texts w.sessions).next)

abbrev Traffic := Tasks World Line

abbrev Event := Tasks.Event Request

def Traffic.step (texts : Texts) (t : Traffic) (e : Event) : Traffic :=
  Tasks.step (fun request : Request => [request.line]) (Line.perform texts) t e

-- All that a run puts into queues, in its order.
def log (texts : Texts) (t : Traffic) (run : List Event) : List (Post Nat Packet) :=
  (Tasks.ran (Traffic.step texts) t run).flatMap fun r =>
    (r.line.outcome texts r.world.sessions).posts

section Saying

namespace Sessions

-- The channel that a recipient stands for, to a client.
inductive Names (s : Sessions) (p : Nat) (recipient : Str) (c : Nat) : Prop
  | watching {host : Nat} (hname : recipient = "#spectator".toList)
      (hhost : (s.player p).spectating = some host)
      (hfound : s.getByName (s.spectatorChannelName host) = some c)
  | watched (hname : recipient = "#spectator".toList) (hhost : (s.player p).spectating = none)
      (hsome : (s.player p).spectators ≠ [])
      (hfound : s.getByName (s.spectatorChannelName p) = some c)
  | playing (hname : recipient = "#multiplayer".toList) (hchat : (s.player p).matchChat = some c)
  | listed (hopen : recipient ∉ IGNORED_CHANNELS) (hwatch : recipient ≠ "#spectator".toList)
      (hplay : recipient ≠ "#multiplayer".toList) (hfound : s.getByName recipient = some c)

-- A client that is not silenced has something to say, in a channel that it is in and may write to.
structure MaySay (s : Sessions) (p c : Nat) (text recipient : Str) : Prop where
  unsilenced : (s.player p).silenceEnd ≤ s.clock
  words : strip text ≠ []
  named : s.Names p recipient c
  member : p ∈ (s.channel c).players
  writes : (s.channel c).writePriv = 0 ∨ (s.player p).priv &&& (s.channel c).writePriv ≠ 0

-- In the channel, and no bot account.
def Attends (s : Sessions) (c q : Nat) : Prop :=
  q ∈ (s.channel c).players ∧ (s.player q).isBotClient = false

def OnStaff (s : Sessions) (q : Nat) : Prop :=
  q ∈ s.online ∧ (s.player q).priv &&& Privileges.STAFF ≠ 0

instance (s : Sessions) (c q : Nat) : Decidable (s.Attends c q) := by
  unfold Attends
  infer_instance

instance (s : Sessions) (q : Nat) : Decidable (s.OnStaff q) := by
  unfold OnStaff
  infer_instance

end Sessions

-- What each client gets of a message and of what it is answered: those in the channel that do not
-- block the sender, or the staff among them where the command is a hidden one.
structure Heard (s : Sessions) (p c : Nat) (msg : Str) (cmd : Option CommandResponse)
    (posts : List (Post Nat Packet)) : Prop where
  shown : (∀ command ∈ cmd, command.hidden = false) → ∀ q, seenBy q posts =
    (if s.Attends c q ∧ (s.player p).id ∉ (s.player q).blocks ∧ (s.player q).id ≠ (s.player p).id
      then [s.message p c msg] else []) ++
    if s.Attends c q then
      (cmd.bind (·.resp)).toList.map fun resp => s.message s.bot c (Sessions.clipBot resp)
    else []
  hidden : ∀ command ∈ cmd, command.hidden = true → ∀ q, seenBy q posts =
    (if s.Attends c q ∧ s.OnStaff q ∧ q ≠ p then [s.message p c msg] else []) ++
    if s.Attends c q ∧ (q = p ∨ s.OnStaff q) then command.resp.toList.map (s.message s.bot c)
    else []

variable {s : Sessions} {p c q : Nat} {text recipient msg : Str} {players : List Nat}

theorem resolve_iff : s.resolve p recipient = some c ↔ s.Names p recipient c := by
  by_cases hignored : IGNORED_CHANNELS.contains recipient
  · rw [Sessions.resolve, if_pos hignored]
    refine iff_of_false (by simp) ?_
    rintro (⟨rfl, -, -⟩ | ⟨rfl, -, -, -⟩ | ⟨rfl, -⟩ | ⟨hopen, -, -, -⟩)
    · exact absurd hignored (by decide)
    · exact absurd hignored (by decide)
    · exact absurd hignored (by decide)
    · exact hopen (List.contains_iff_mem.mp hignored)
  rw [Sessions.resolve, if_neg hignored]
  by_cases hwatch : recipient = "#spectator".toList
  · rw [if_pos hwatch]
    cases hhost : (s.player p).spectating with
    | some host =>
      refine ⟨fun h => .watching hwatch hhost h, ?_⟩
      rintro (⟨-, hother, hfound⟩ | ⟨-, hnone, -, -⟩ | ⟨hname, -⟩ | ⟨-, hother, -, -⟩)
      · cases hhost.symm.trans hother
        exact hfound
      · cases hhost.symm.trans hnone
      · exact absurd (hwatch.symm.trans hname) (by decide)
      · exact absurd hwatch hother
    | none =>
      by_cases hsome : (s.player p).spectators = []
      · rw [if_pos hsome]
        refine iff_of_false (by simp) ?_
        rintro (⟨-, hother, -⟩ | ⟨-, -, hany, -⟩ | ⟨hname, -⟩ | ⟨-, hother, -, -⟩)
        · cases hhost.symm.trans hother
        · exact hany hsome
        · exact absurd (hwatch.symm.trans hname) (by decide)
        · exact hother hwatch
      · rw [if_neg hsome]
        refine ⟨fun h => .watched hwatch hhost hsome h, ?_⟩
        rintro (⟨-, hother, -⟩ | ⟨-, -, -, hfound⟩ | ⟨hname, -⟩ | ⟨-, hother, -, -⟩)
        · cases hhost.symm.trans hother
        · exact hfound
        · exact absurd (hwatch.symm.trans hname) (by decide)
        · exact absurd hwatch hother
  rw [if_neg hwatch]
  by_cases hplay : recipient = "#multiplayer".toList
  · rw [if_pos hplay]
    refine ⟨fun h => .playing hplay h, ?_⟩
    rintro (⟨hname, -, -⟩ | ⟨hname, -, -, -⟩ | ⟨-, hchat⟩ | ⟨-, -, hother, -⟩)
    · exact absurd hname hwatch
    · exact absurd hname hwatch
    · exact hchat
    · exact absurd hplay hother
  · rw [if_neg hplay]
    refine ⟨fun h => .listed (fun hmem => hignored (List.contains_iff_mem.mpr hmem)) hwatch hplay h,
      ?_⟩
    rintro (⟨hname, -, -⟩ | ⟨hname, -, -, -⟩ | ⟨hname, -⟩ | ⟨-, -, -, hfound⟩)
    · exact absurd hname hwatch
    · exact absurd hname hwatch
    · exact absurd hname hplay
    · exact hfound

theorem silenced_iff : s.silenced p = true ↔ s.clock < (s.player p).silenceEnd := by
  unfold Sessions.silenced Sessions.remainingSilence
  rw [decide_eq_true_iff]
  omega

theorem canWrite_iff {channel : Channel} {priv : Privileges} : channel.canWrite priv = true ↔
    channel.writePriv = 0 ∨ priv &&& channel.writePriv ≠ 0 := by
  simp [Channel.canWrite, Privileges.has]

theorem admits_iff : s.admits p text recipient = some c ↔ s.MaySay p c text recipient := by
  unfold Sessions.admits
  by_cases hsilenced : s.silenced p
  · rw [if_pos hsilenced]
    refine iff_of_false (by simp) fun h => ?_
    exact absurd (silenced_iff.mp hsilenced) (Int.not_lt.mpr h.unsilenced)
  rw [if_neg hsilenced]
  by_cases hwords : strip text = []
  · rw [if_pos hwords]
    exact iff_of_false (by simp) fun h => h.words hwords
  rw [if_neg hwords, Option.filter_eq_some_iff, resolve_iff, Bool.and_eq_true, decide_eq_true_eq,
    canWrite_iff]
  have hspoken : (s.player p).silenceEnd ≤ s.clock :=
    Int.not_lt.mp fun h => hsilenced (silenced_iff.mpr h)
  constructor
  · rintro ⟨hnamed, hmember, hwrites⟩
    exact ⟨hspoken, hwords, hnamed, hmember, hwrites⟩
  · intro h
    exact ⟨h.named, h.member, h.writes⟩

theorem mem_clients : q ∈ s.clients players ↔ q ∈ players ∧ (s.player q).isBotClient = false := by
  simp [Sessions.clients]

theorem mem_staff : q ∈ s.staff ↔ s.OnStaff q := by
  simp [Sessions.staff, Sessions.OnStaff, Privileges.has]

theorem mem_send : q ∈ (s.send c p msg).audience ↔
    s.Attends c q ∧ (s.player p).id ∉ (s.player q).blocks ∧
      (s.player q).id ≠ (s.player p).id := by
  simp only [Sessions.send, mem_clients, List.mem_filter, decide_eq_true_eq, Sessions.Attends]
  tauto

theorem mem_sendBot : q ∈ (s.sendBot c msg).audience ↔ s.Attends c q := mem_clients

theorem mem_sendSelective : q ∈ (s.sendSelective c p msg players).audience ↔
    s.Attends c q ∧ q ∈ players := by
  simp only [Sessions.sendSelective, mem_clients, List.mem_filter, decide_eq_true_eq,
    Sessions.Attends]
  tauto

section Seen

variable {posts : List (Post Nat Packet)}

theorem seenBy_send : seenBy q (s.send c p msg :: posts) =
    (if s.Attends c q ∧ (s.player p).id ∉ (s.player q).blocks ∧ (s.player q).id ≠ (s.player p).id
      then [s.message p c msg] else []) ++ seenBy q posts := by
  rw [seenBy_cons, if_congr mem_send rfl rfl]
  rfl

theorem seenBy_sendBot : seenBy q (s.sendBot c msg :: posts) =
    (if s.Attends c q then [s.message s.bot c (Sessions.clipBot msg)] else []) ++
      seenBy q posts := by
  rw [seenBy_cons, if_congr mem_sendBot rfl rfl]
  rfl

theorem seenBy_sendSelective {told : Prop} [Decidable told] (h : q ∈ players ↔ told) :
    seenBy q (s.sendSelective c p msg players :: posts) =
      (if s.Attends c q ∧ told then [s.message p c msg] else []) ++ seenBy q posts := by
  rw [seenBy_cons, if_congr (mem_sendSelective.trans (and_congr_right fun _ => h)) rfl rfl]
  rfl

end Seen

theorem speak_heard (s : Sessions) (p c : Nat) (msg : Str) (cmd : Option CommandResponse) :
    Heard s p c msg cmd (s.speak p c msg cmd) := by
  constructor
  case shown =>
    intro hshown q
    cases cmd with
    | none => exact seenBy_send.trans (congrArg _ (ite_self []).symm)
    | some cmd =>
      have hspeak : s.speak p c msg (some cmd) =
          s.send c p msg :: (cmd.resp.map fun resp => s.sendBot c resp).toList := by
        simp only [Sessions.speak, hshown cmd rfl, Bool.false_eq_true, if_false]
      rw [hspeak, seenBy_send, Option.bind_some]
      cases cmd.resp with
      | none => exact congrArg _ (ite_self []).symm
      | some resp => exact congrArg _ (seenBy_sendBot.trans (List.append_nil _))
  case hidden =>
    rintro cmd rfl hhidden q
    have hspeak : s.speak p c msg (some cmd) =
        s.sendSelective c p msg (s.staff.dedup.filter (· ≠ p)) ::
          (cmd.resp.map fun resp => s.sendSelective c s.bot resp (p :: s.staff).dedup).toList := by
      simp only [Sessions.speak, hhidden, if_true]
    have hstaff : q ∈ s.staff.dedup.filter (· ≠ p) ↔ s.OnStaff q ∧ q ≠ p := by
      rw [List.mem_filter, List.mem_dedup, mem_staff, decide_eq_true_iff]
    have hasked : q ∈ (p :: s.staff).dedup ↔ q = p ∨ s.OnStaff q := by
      rw [List.mem_dedup, List.mem_cons, mem_staff]
    rw [hspeak, seenBy_sendSelective hstaff]
    cases cmd.resp with
    | none => exact congrArg _ (ite_self []).symm
    | some resp => exact congrArg _ ((seenBy_sendSelective hasked).trans (List.append_nil _))

end Saying

section Streams

variable {texts : Texts} {w : World} {line : Line} {q : Nat}

theorem stream_perform : (line.perform texts w).1.boxes.stream q =
    w.boxes.stream q ++ seenBy q (line.outcome texts w.sessions).posts := by
  cases line with
  | sendMessage p text recipient => exact stream_post
  | command p c msg => exact stream_post
  | beatmap p c msg => exact stream_post
  | respond p => exact stream_flush.trans (List.append_nil _).symm
  | meanwhile sessions posts =>
    have hposts : ((Line.meanwhile sessions posts).outcome texts w.sessions).posts = posts :=
      List.append_nil posts
    rw [hposts]
    exact stream_post

-- Any run meets a guard that asks for nothing.
theorem unguarded (texts : Texts) (t : Traffic) (run : List Event) :
    Guarded (Traffic.step texts) (Tasks.Meets fun _ _ _ => True) t run :=
  Guarded.mono (fun t e _ => Tasks.Meets.of_forall (fun _ _ _ => trivial) t e)
    (Guarded.of_forall fun _ _ => trivial)

-- Each client gets its part of what the lines put into queues, and in their order.
theorem stream_of_run (texts : Texts) (t : Traffic) (run : List Event) (q : Nat) :
    (runFrom (Traffic.step texts) t run).world.boxes.stream q =
      t.world.boxes.stream q ++ seenBy q (log texts t run) := by
  refine @Tasks.ran_invariant World Line Request (fun request : Request => [request.line])
    (Line.perform texts) t (fun _ _ _ => True)
    (fun state trace => state.world.boxes.stream q = t.world.boxes.stream q ++
      seenBy q (trace.flatMap fun r => (r.line.outcome texts r.world.sessions).posts))
    (fun _ _ _ h => h) (fun state trace i line rest h _ _ => ?_) run []
    (List.append_nil _).symm (unguarded texts t run)
  dsimp only
  rw [stream_perform, h, List.flatMap_append, List.flatMap_singleton, seenBy_append,
    List.append_assoc]

end Streams

-- What a message's own lines have said in the channel.
def said (texts : Texts) (past : List (World × Line)) : List (List (Post Nat Packet)) :=
  past.filterMap fun (w, line) => (line.outcome texts w.sessions).said

-- What process_commands has returned to them.
def commandOf (texts : Texts) (past : List (World × Line)) : Option CommandResponse :=
  past.findSome? fun (w, line) =>
    match line with
    | .command p c msg => texts.processCommands w.sessions p c msg
    | _ => none

-- They have got past the checks, and have called process_commands exactly if the text is a command.
structure Admitted (texts : Texts) (p c : Nat) (text recipient : Str)
    (past : List (World × Line)) : Prop where
  first : ∃ w, past.head? = some (w, .sendMessage p text recipient) ∧
    w.sessions.MaySay p c text recipient
  asked : (∃ w, (w, .command p c (clip (strip text))) ∈ past) ↔
    texts.prefix_.isPrefixOf (clip (strip text))

-- What has become of a message.
inductive Handled (texts : Texts) (p : Nat) (text recipient : Str) :
    List Line → List (World × Line) → Prop
  | waiting : Handled texts p text recipient [.sendMessage p text recipient] []
  | refused {w : World} (hrefused : ∀ c, ¬w.sessions.MaySay p c text recipient) :
      Handled texts p text recipient [] [(w, .sendMessage p text recipient)]
  | commanding {w : World} {c : Nat} (hadmits : w.sessions.MaySay p c text recipient)
      (hstarts : texts.prefix_.isPrefixOf (clip (strip text))) :
      Handled texts p text recipient [.command p c (clip (strip text))]
        [(w, .sendMessage p text recipient)]
  | looking {c : Nat} {past : List (World × Line)}
      (hadmitted : Admitted texts p c text recipient past) (hsaid : said texts past = [])
      (hcommand : commandOf texts past = none) (hplaying : texts.nowPlaying (clip (strip text))) :
      Handled texts p text recipient [.beatmap p c (clip (strip text))] past
  | failed {c : Nat} {past : List (World × Line)} {w : World}
      (hadmitted : Admitted texts p c text recipient past) (hsaid : said texts past = [])
      (hplaying : texts.nowPlaying (clip (strip text)))
      (hlast : past.getLast? = some (w, .beatmap p c (clip (strip text))))
      (hraises : texts.fromBidRaises w.sessions p (clip (strip text))) :
      Handled texts p text recipient [] past
  | spoken {c : Nat} {past : List (World × Line)} {w : World} {line : Line}
      (hadmitted : Admitted texts p c text recipient past)
      (hlast : past.getLast? = some (w, line))
      (hsaid : ∃ posts, said texts past = [posts] ∧
        Heard w.sessions p c (clip (strip text)) (commandOf texts past) posts) :
      Handled texts p text recipient [] past

section Handling

variable {texts : Texts} {p : Nat} {text recipient : Str} {w : World} {line : Line}
  {rest : List Line} {past : List (World × Line)}

theorem said_append {later : List (World × Line)} :
    said texts (past ++ later) = said texts past ++ said texts later := List.filterMap_append

theorem commandOf_append {later : List (World × Line)} :
    commandOf texts (past ++ later) = (commandOf texts past).or (commandOf texts later) :=
  List.findSome?_append

theorem commandOf_asked {w' : World} {c : Nat} {msg : Str} :
    commandOf texts [(w, .sendMessage p text recipient), (w', .command p c msg)] =
      texts.processCommands w'.sessions p c msg := by
  simp only [commandOf, List.findSome?_cons, List.findSome?_nil]
  cases texts.processCommands w'.sessions p c msg <;> rfl

theorem said_singleton (round : Option (List (Post Nat Packet)))
    (h : (line.outcome texts w.sessions).said = round) :
    said texts [(w, line)] = round.toList := by
  subst h
  simp only [said, List.filterMap_cons, List.filterMap_nil]
  cases (line.outcome texts w.sessions).said <;> rfl

theorem Admitted.append {c : Nat} (h : Admitted texts p c text recipient past)
    (hline : ∀ msg, line ≠ .command p c msg) :
    Admitted texts p c text recipient (past ++ [(w, line)]) := by
  obtain ⟨first, hhead, hadmits⟩ := h.first
  refine ⟨⟨first, ?_, hadmits⟩, ?_⟩
  · rw [List.head?_append, hhead, Option.some_or]
  · rw [← h.asked]
    constructor
    · rintro ⟨w', hmem⟩
      rcases List.mem_append.mp hmem with hpast | hnew
      · exact ⟨w', hpast⟩
      · cases List.mem_singleton.mp hnew
        exact absurd rfl (hline _)
    · rintro ⟨w', hpast⟩
      exact ⟨w', List.mem_append_left _ hpast⟩

theorem Handled.speaks {c : Nat} (hadmitted : Admitted texts p c text recipient past)
    (hlast : past.getLast? = some (w, line))
    (hsaid : said texts past =
      [w.sessions.speak p c (clip (strip text)) (commandOf texts past)]) :
    Handled texts p text recipient [] past :=
  .spoken hadmitted hlast ⟨_, hsaid, speak_heard _ _ _ _ _⟩

-- A message that gets past the checks, and is no command.
theorem Admitted.uncommanded {c : Nat} (hadmits : w.sessions.MaySay p c text recipient)
    (hstarts : texts.prefix_.isPrefixOf (clip (strip text)) = false) :
    Admitted texts p c text recipient [(w, .sendMessage p text recipient)] := by
  refine ⟨⟨w, rfl, hadmits⟩, ?_⟩
  rw [hstarts]
  constructor
  · rintro ⟨w', hmem⟩
    cases List.mem_singleton.mp hmem
  · intro h
    cases h

-- What the first line makes of a message.
theorem Handled.first :
    Handled texts p text recipient ((Line.sendMessage p text recipient).perform texts w).2
      [(w, .sendMessage p text recipient)] := by
  change Handled texts p text recipient
    ((Line.sendMessage p text recipient).outcome texts w.sessions).next _
  cases hadmits : w.sessions.admits p text recipient with
  | none =>
    simp only [Line.outcome, hadmits]
    refine .refused fun c hmay => ?_
    rw [admits_iff.mpr hmay] at hadmits
    cases hadmits
  | some c =>
    have hmay := admits_iff.mp hadmits
    cases hstarts : texts.prefix_.isPrefixOf (clip (strip text)) with
    | true =>
      simp only [Line.outcome, hadmits, hstarts, if_true]
      exact .commanding hmay hstarts
    | false =>
      have hadmitted := Admitted.uncommanded hmay hstarts
      cases hplaying : texts.nowPlaying (clip (strip text)) with
      | true =>
        simp only [Line.outcome, hadmits, hstarts, hplaying, Bool.false_eq_true, if_false, if_true]
        refine .looking hadmitted (said_singleton none ?_) rfl hplaying
        simp only [Line.outcome, hadmits, hstarts, hplaying, Bool.false_eq_true, if_false, if_true]
      | false =>
        simp only [Line.outcome, hadmits, hstarts, hplaying, Bool.false_eq_true, if_false]
        refine .speaks hadmitted rfl (said_singleton (some _) ?_)
        simp only [Line.outcome, hadmits, hstarts, hplaying, Bool.false_eq_true, if_false]
        rfl

-- What process_commands decides of a message that may be a command.
theorem Handled.commanded {w' : World} {c : Nat}
    (hadmits : w.sessions.MaySay p c text recipient)
    (hstarts : texts.prefix_.isPrefixOf (clip (strip text))) :
    Handled texts p text recipient ((Line.command p c (clip (strip text))).perform texts w').2
      [(w, .sendMessage p text recipient), (w', .command p c (clip (strip text)))] := by
  change Handled texts p text recipient
    ((Line.command p c (clip (strip text))).outcome texts w'.sessions).next _
  have hadmitted : Admitted texts p c text recipient
      [(w, .sendMessage p text recipient), (w', .command p c (clip (strip text)))] :=
    ⟨⟨w, rfl, hadmits⟩, iff_of_true ⟨w', by simp⟩ hstarts⟩
  have hfirst : said texts [(w, .sendMessage p text recipient)] = [] := by
    refine said_singleton none ?_
    simp only [Line.outcome, admits_iff.mpr hadmits, if_pos hstarts]
  have hsaid : said texts
      [(w, .sendMessage p text recipient), (w', .command p c (clip (strip text)))] =
        ((Line.command p c (clip (strip text))).outcome texts w'.sessions).said.toList := by
    rw [← List.singleton_append, said_append, hfirst, said_singleton _ rfl]
    rfl
  cases hcommand : texts.processCommands w'.sessions p c (clip (strip text)) with
  | some cmd =>
    simp only [Line.outcome, hcommand] at hsaid ⊢
    refine .speaks hadmitted rfl ?_
    rw [hsaid, commandOf_asked, hcommand]
    rfl
  | none =>
    have hnone : commandOf texts [(w, .sendMessage p text recipient),
        (w', .command p c (clip (strip text)))] = none := by
      rw [commandOf_asked, hcommand]
    cases hplaying : texts.nowPlaying (clip (strip text)) with
    | true =>
      simp only [Line.outcome, hcommand, hplaying, if_true] at hsaid ⊢
      exact .looking hadmitted hsaid hnone hplaying
    | false =>
      simp only [Line.outcome, hcommand, hplaying, Bool.false_eq_true, if_false] at hsaid ⊢
      refine .speaks hadmitted rfl ?_
      rw [hsaid, hnone]
      rfl

-- A message whose beatmap has been looked up, or has not been found out.
theorem Handled.looked {c : Nat} (hadmitted : Admitted texts p c text recipient past)
    (hsaid : said texts past = []) (hcommand : commandOf texts past = none)
    (hplaying : texts.nowPlaying (clip (strip text))) :
    Handled texts p text recipient ((Line.beatmap p c (clip (strip text))).perform texts w).2
      (past ++ [(w, .beatmap p c (clip (strip text)))]) := by
  change Handled texts p text recipient
    ((Line.beatmap p c (clip (strip text))).outcome texts w.sessions).next _
  have hnone : commandOf texts (past ++ [(w, .beatmap p c (clip (strip text)))]) = none := by
    rw [commandOf_append, hcommand]
    rfl
  have hlater : Admitted texts p c text recipient
      (past ++ [(w, .beatmap p c (clip (strip text)))]) := hadmitted.append fun _ => by simp
  have hround : said texts (past ++ [(w, .beatmap p c (clip (strip text)))]) =
      ((Line.beatmap p c (clip (strip text))).outcome texts w.sessions).said.toList := by
    rw [said_append, hsaid, List.nil_append]
    exact said_singleton _ rfl
  by_cases hraises : texts.fromBidRaises w.sessions p (clip (strip text))
  · simp only [Line.outcome, hraises, if_true] at hround ⊢
    exact .failed hlater hround hplaying List.getLast?_concat hraises
  · simp only [Line.outcome, hraises, Bool.false_eq_true, if_false] at hround ⊢
    refine .speaks hlater List.getLast?_concat ?_
    rw [hround, hnone]
    rfl

-- What a line of its own makes of a message.
theorem Handled.next (h : Handled texts p text recipient (line :: rest) past) :
    Handled texts p text recipient ((line.perform texts w).2 ++ rest) (past ++ [(w, line)]) := by
  cases h with
  | waiting =>
    rw [List.append_nil]
    exact Handled.first
  | commanding hadmits hstarts =>
    rw [List.append_nil]
    exact Handled.commanded hadmits hstarts
  | looking hadmitted hsaid hcommand hplaying =>
    rw [List.append_nil]
    exact Handled.looked hadmitted hsaid hcommand hplaying

-- In any run, whatever goes on while it waits, a message that the checks refuse is never said, nor
-- one whose beatmap cannot be looked up; any other is said once, as the sessions are by then, and
-- as process_commands has answered. All that is said is put into the queues it is for.
theorem handled_of_run {texts : Texts} {t : Traffic} (hidle : t.running = []) (run : List Event) :
    (∀ i p text recipient task, (begun run)[i]? = some (.sendMessage p text recipient) →
      (runFrom (Traffic.step texts) t run).running[i]? = some task →
        Handled texts p text recipient task (own i (ran (Traffic.step texts) t run))) ∧
      ∀ q, (runFrom (Traffic.step texts) t run).world.boxes.stream q =
        t.world.boxes.stream q ++ seenBy q (log texts t run) := by
  refine ⟨?_, stream_of_run texts t run⟩
  have hstages := @Stages.invariant World Line Request (fun request : Request => [request.line])
    (Line.perform texts) t
    (fun _ request task past => ∀ p text recipient, request = .sendMessage p text recipient →
      Handled texts p text recipient task past) (fun _ _ _ => True) ?_ ?_ ?_ hidle run
      (unguarded texts t run)
  · intro i p text recipient task hbegun htask
    exact hstages.stage i _ task hbegun htask p text recipient rfl
  · rintro w request p text recipient rfl
    exact .waiting
  · intro w request line rest past h p text recipient hrequest
    exact (h p text recipient hrequest).next
  · exact fun _ _ _ _ _ _ _ _ h => h

end Handling

def lounge (players : List Nat) (nodup : players.Nodup) : Sessions where
  player := fun id =>
    { id := id, name := Nat.toDigits 10 id, priv := 1, blocks := [], silenceEnd := 0,
      spectating := none, spectators := [], matchChat := none, isBotClient := id = 1 }
  channel := fun _ =>
    { realName := "#osu".toList, writePriv := 1, players := players, nodup := nodup }
  channels := [0]
  online := [1, 3, 4, 5]
  bot := 1
  clock := 9
  outside := 0

def rolls : Texts where
  prefix_ := ['!']
  nowPlaying := fun _ => false
  processCommands := fun _ _ _ msg =>
    if msg = "!roll".toList then some { resp := some ['6'], hidden := false } else none
  fromBidRaises := fun _ _ _ => false

-- 4 leaves, and 5 joins, while 3 waits for what it rolls.
theorem handled_of_run_rolling :
    let t : Traffic :=
      { world :=
          { sessions := lounge [3, 4] (by decide)
            boxes := { queue := fun _ => [], fetched := fun _ => [] } }
        running := [] }
    let run : List Event :=
      [.begin (.sendMessage 3 " !roll ".toList "#osu".toList), .resume 0,
        .begin (.meanwhile (lounge [3, 5] (by decide)) []), .resume 1, .resume 0]
    Handled rolls 3 " !roll ".toList "#osu".toList [] (own 0 (ran (Traffic.step rolls) t run)) ∧
      (runFrom (Traffic.step rolls) t run).world.boxes.queue 4 = [] ∧
      (runFrom (Traffic.step rolls) t run).world.boxes.queue 5 =
        [.sendMessage ['3'] "!roll".toList "#osu".toList 3,
          .sendMessage ['1'] ['6'] "#osu".toList 1] := by
  exact ⟨(handled_of_run rfl _).1 0 3 " !roll ".toList "#osu".toList [] rfl rfl, rfl, rfl⟩

end BanchoPrism.Chat
