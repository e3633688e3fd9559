import BanchoPrism.Library.Yields
import BanchoPrism.Multiplayer.Absorbing
import BanchoPrism.Multiplayer.Sendable

namespace BanchoPrism

open Library Prog

section Waiting

-- The numbers that a handler holds while it waits.
def Pause.OnWire : Pause → Prop
  | .map _ => True
  | .loadpool => True
  | .ban _ mods _ _ => mods < 2 ^ 31
  | .unban _ mods _ _ => mods < 2 ^ 31
  | .pick _ mods _ _ => mods < 2 ^ 31
  | .pickMap _ mods _ => mods < 2 ^ 31

def Reply.OnWire : Reply → Prop
  | .silent => True
  | .text _ => True
  | .await pause => pause.OnWire

def Suspended.OnWire : Suspended → Prop
  | .settings _ data => data.OnWire
  | .command _ _ pause => pause.OnWire

theorem yields_answer (msg : String) : Yields Reply.OnWire (answer msg) := Yields.pure trivial

theorem yields_oneArg {ctx : Context} {usage : String} {body : String → Handler Reply}
    (h : ∀ arg, Yields Reply.OnWire (body arg)) : Yields Reply.OnWire (oneArg ctx usage body) := by
  unfold oneArg
  split
  · exact h _
  · exact yields_answer usage

theorem mappoolPick_lt {text : String} {mods : Mods} {slot : Nat}
    (h : mappoolPick text = some (mods, slot)) : mods < 2 ^ 31 := by
  unfold mappoolPick at h
  dsimp only at h
  split at h
  · cases h
    exact Mods.fromModChars_lt _
  · cases h

theorem withPick_onWire (ctx : Context) (r : MatchRef) (usage noPool : String)
    {pause : String → Mods → Nat → Nat → Pause}
    (hpause : ∀ arg mods slot poolId, mods < 2 ^ 31 → (pause arg mods slot poolId).OnWire) :
    Yields Reply.OnWire (withPick ctx r usage noPool pause) := by
  refine yields_oneArg fun arg => Yields.after fun s => ?_
  split
  · exact yields_answer _
  split
  · exact yields_answer _
  · rename_i hpick
    exact Yields.pure (hpause _ _ _ _ (mappoolPick_lt hpick))

theorem mpMap_onWire (ctx : Context) (r : MatchRef) : Yields Reply.OnWire (mpMap ctx r) := by
  refine yields_oneArg fun arg => Yields.after fun s => ?_
  split
  · exact yields_answer _
  · exact Yields.ite (yields_answer _) (Yields.pure trivial)

theorem mpLoadpool_onWire (ctx : Context) (r : MatchRef) :
    Yields Reply.OnWire (mpLoadpool ctx r) := by
  refine yields_oneArg fun arg => Yields.after fun s => Yields.after fun host => ?_
  exact Yields.ite (Yields.pure trivial) (yields_answer _)

theorem yields_onlinePlayer {name : String} {body : PlayerRef → Handler Reply}
    (h : ∀ target, Yields Reply.OnWire (body target)) :
    Yields Reply.OnWire (onlinePlayer name body) := by
  refine Yields.after fun s => ?_
  split
  · exact h _
  · exact yields_answer _

-- A body that changes something and then answers.
theorem yields_done {α : Type} {x : Handler α} (msg : String) :
    Yields Reply.OnWire (x >>= fun _ => answer msg) :=
  Yields.after fun _ => yields_answer msg

theorem mpStart_onWire (ctx : Context) (r : MatchRef) : Yields Reply.OnWire (mpStart ctx r) := by
  refine Yields.after fun s => ?_
  dsimp only
  split
  · split
    · exact yields_answer _
    · exact Yields.ite (yields_answer _) (yields_done _)
  · split
    · split
      · exact yields_answer _
      · exact Yields.ite (yields_done _) (yields_answer _)
    · refine Yields.ite (Yields.ite (yields_answer _) (yields_done _)) ?_
      exact Yields.ite (yields_done _) (yields_answer _)
  · exact yields_answer _

theorem mpAbort_onWire (r : MatchRef) : Yields Reply.OnWire (mpAbort r) := by
  refine Yields.after fun s => Yields.ite ?_ (yields_answer _)
  exact Yields.after fun _ => Yields.after fun _ => Yields.after fun _ => Yields.after fun _ =>
    yields_done _

theorem mpMods_onWire (ctx : Context) (r : MatchRef) : Yields Reply.OnWire (mpMods ctx r) :=
  yields_oneArg fun _ => Yields.ite (yields_answer _) <|
    Yields.after fun _ => Yields.after fun _ => yields_done _

theorem mpFreemods_onWire (ctx : Context) (r : MatchRef) :
    Yields Reply.OnWire (mpFreemods ctx r) :=
  yields_oneArg fun _ => Yields.ite (Yields.after fun _ => yields_done _) (yields_answer _)

theorem mpHost_onWire (ctx : Context) (r : MatchRef) : Yields Reply.OnWire (mpHost ctx r) := by
  refine yields_oneArg fun _ => yields_onlinePlayer fun _ => Yields.after fun _ => ?_
  refine Yields.after fun _ => Yields.ite (yields_answer _) (Yields.ite ?_ (yields_answer _))
  exact Yields.after fun _ => yields_done _

theorem mpInvite_onWire (ctx : Context) (r : MatchRef) :
    Yields Reply.OnWire (mpInvite ctx r) := by
  refine yields_oneArg fun _ => yields_onlinePlayer fun _ => Yields.ite (yields_answer _) ?_
  exact Yields.ite (yields_answer _) (Yields.after fun _ => Yields.after fun _ => yields_answer _)

theorem mpAddref_onWire (ctx : Context) (r : MatchRef) :
    Yields Reply.OnWire (mpAddref ctx r) := by
  refine yields_oneArg fun _ => yields_onlinePlayer fun _ => Yields.after fun _ => ?_
  exact Yields.ite (Yields.after fun _ => Yields.ite (yields_answer _) (yields_done _))
    (yields_answer _)

theorem mpRmref_onWire (ctx : Context) (r : MatchRef) : Yields Reply.OnWire (mpRmref ctx r) := by
  refine yields_oneArg fun _ => yields_onlinePlayer fun _ => Yields.after fun _ => ?_
  refine Yields.after fun _ => Yields.after fun _ => Yields.ite ?_ (yields_answer _)
  exact Yields.ite (yields_answer _) (yields_done _)

theorem mpListref_onWire (r : MatchRef) : Yields Reply.OnWire (mpListref r) :=
  Yields.after fun _ => Yields.after fun _ => yields_answer _

theorem mpTeams_onWire (ctx : Context) (r : MatchRef) : Yields Reply.OnWire (mpTeams ctx r) := by
  refine yields_oneArg fun arg => ?_
  split
  · exact yields_answer _
  · exact Yields.after fun _ => Yields.after fun _ => Yields.after fun _ => yields_done _

theorem mpCondition_onWire (ctx : Context) (r : MatchRef) :
    Yields Reply.OnWire (mpCondition ctx r) := by
  refine yields_oneArg fun arg => Yields.after fun s => Yields.ite ?_ (Yields.after fun _ => ?_)
  · refine Yields.ite (yields_answer _) (Yields.ite (yields_answer _) ?_)
    exact Yields.after fun _ => yields_done _
  · split
    · exact yields_answer _
    · exact Yields.after fun _ => yields_done _

theorem mpScrim_onWire (ctx : Context) (r : MatchRef) : Yields Reply.OnWire (mpScrim ctx r) := by
  refine yields_oneArg fun arg => Yields.after fun s => ?_
  split
  · exact yields_answer _
  · refine Yields.ite (Yields.ite (Yields.ite (yields_answer _) ?_) ?_) (yields_answer _)
    · exact Yields.ite (yields_answer _) (yields_done _)
    · exact Yields.ite (yields_answer _) (yields_done _)

theorem mpRematch_onWire (ctx : Context) (r : MatchRef) :
    Yields Reply.OnWire (mpRematch ctx r) := by
  refine Yields.after fun s => Yields.ite (yields_answer _) (Yields.after fun host => ?_)
  refine Yields.ite (yields_answer _) (Yields.ite (Yields.ite (yields_answer _) (yields_done _)) ?_)
  split
  · exact yields_answer _
  · exact yields_answer _
  · exact yields_done _

theorem mpUnloadpool_onWire (ctx : Context) (r : MatchRef) :
    Yields Reply.OnWire (mpUnloadpool ctx r) := by
  refine Yields.after fun s => Yields.ite (yields_answer _) (Yields.after fun host => ?_)
  exact Yields.ite (yields_answer _) (Yields.ite (yields_answer _) (yields_done _))

-- Only the picks of a mappool bring numbers into what waits.
theorem MpCommand.run_onWire (ctx : Context) (r : MatchRef) (command : MpCommand) :
    Yields Reply.OnWire (command.run ctx r) := by
  cases command with
  | start => exact mpStart_onWire ctx r
  | abort => exact mpAbort_onWire r
  | map => exact mpMap_onWire ctx r
  | mods => exact mpMods_onWire ctx r
  | freemods => exact mpFreemods_onWire ctx r
  | host => exact mpHost_onWire ctx r
  | randpw => exact yields_done _
  | invite => exact mpInvite_onWire ctx r
  | addref => exact mpAddref_onWire ctx r
  | rmref => exact mpRmref_onWire ctx r
  | listref => exact mpListref_onWire r
  | lock => exact yields_done _
  | unlock => exact yields_done _
  | teams => exact mpTeams_onWire ctx r
  | condition => exact mpCondition_onWire ctx r
  | scrim => exact mpScrim_onWire ctx r
  | endscrim => exact Yields.after fun _ => Yields.ite (yields_done _) (yields_answer _)
  | rematch => exact mpRematch_onWire ctx r
  | force =>
    exact yields_oneArg fun _ => yields_onlinePlayer fun _ => Yields.after fun _ => yields_done _
  | loadpool => exact mpLoadpool_onWire ctx r
  | unloadpool => exact mpUnloadpool_onWire ctx r
  | ban => exact withPick_onWire ctx r _ _ fun _ _ _ _ h => h
  | unban => exact withPick_onWire ctx r _ _ fun _ _ _ _ h => h
  | pick => exact withPick_onWire ctx r _ _ fun _ _ _ _ h => h

theorem resumePick_onWire (r : MatchRef) (modsSlot : String) {mods : Mods} (slot : Nat)
    (found : Option Int) (hm : mods < 2 ^ 31) :
    Yields Reply.OnWire (resumePick r modsSlot mods slot found) := by
  refine Yields.after fun s => ?_
  split
  · exact yields_answer _
  · exact Yields.ite (yields_answer _) (Yields.pure hm)

theorem Pause.resume_onWire (r : MatchRef) (found : Lookup) {pause : Pause} (h : pause.OnWire) :
    Yields Reply.OnWire (pause.resume r found) := by
  cases pause with
  | map mapId =>
    change Yields Reply.OnWire (resumeMap r found.beatmap)
    unfold resumeMap
    split
    · exact yields_answer _
    · exact Yields.after fun _ => Yields.after fun _ => Yields.after fun _ => yields_answer _
  | loadpool =>
    refine Yields.after fun s => ?_
    split
    · exact yields_answer _
    · exact Yields.ite (yields_answer _) (yields_done _)
  | ban modsSlot mods slot poolId =>
    refine Yields.after fun s => Yields.ite (yields_answer _) ?_
    exact Yields.ite (yields_answer _) (yields_done _)
  | unban modsSlot mods slot poolId =>
    refine Yields.after fun s => Yields.ite (yields_answer _) ?_
    exact Yields.ite (yields_done _) (yields_answer _)
  | pick modsSlot mods slot poolId => exact resumePick_onWire r modsSlot slot found.mapPick h
  | pickMap modsSlot mods mapId =>
    change Yields Reply.OnWire (resumePickMap r modsSlot mods found.beatmap)
    unfold resumePickMap
    split
    · exact yields_answer _
    · refine Yields.after fun _ => Yields.after fun _ => Yields.after fun _ => ?_
      exact Yields.after fun _ => Yields.after fun _ => yields_answer _

def NextOnWire (next : Option Suspended) : Prop := ∀ x ∈ next, x.OnWire

theorem nextOnWire_none : NextOnWire none := fun _ h => absurd h (Option.not_mem_none _)

theorem finished_onWire (handler : Handler Unit) : Yields NextOnWire (finished handler) :=
  Yields.after fun _ => Yields.pure nextOnWire_none

theorem afterReply_onWire (call : Call) (elapsed : String) {reply : Option MatchRef × Reply}
    (h : reply.2.OnWire) : Yields NextOnWire (afterReply call elapsed reply) := by
  unfold afterReply
  split
  · refine Yields.pure fun x hx => ?_
    cases hx
    exact h
  · exact Yields.after fun _ => Yields.pure nextOnWire_none
  · exact Yields.after fun _ => Yields.pure nextOnWire_none

theorem commandFailed_onWire (r : Option MatchRef) (e : PyError) :
    Yields (fun reply => reply.2.OnWire) (commandFailed r e) := Yields.pure trivial

theorem ensureMatch_onWire (ctx : Context) (c : ChannelRef) (command : MpCommand) :
    Yields (fun reply => reply.2.OnWire) (ensureMatch ctx c command) := by
  refine Yields.after fun s => ?_
  split
  · exact Yields.pure trivial
  rename_i r _
  refine Yields.ite (Yields.pure trivial) (Yields.after fun refs => ?_)
  refine Yields.ite ?_ (Yields.pure trivial)
  exact Yields.bind (command.run_onWire ctx r) fun reply hreply => Yields.pure hreply

theorem sendMessage_onWire (p : PlayerRef) (text recipient : String)
    (mp : Option (String × List String)) (clock : Clock) :
    Yields NextOnWire (sendMessage p text recipient mp clock) := by
  refine Yields.after fun s => Yields.ite (Yields.pure nextOnWire_none) ?_
  split
  · exact Yields.pure nextOnWire_none
  refine Yields.ite (Yields.pure nextOnWire_none) (Yields.after fun msg => ?_)
  split
  · exact Yields.after fun _ => Yields.pure nextOnWire_none
  · exact Yields.bind (Yields.attempt (ensureMatch_onWire _ _ _) (commandFailed_onWire none))
      fun reply hreply => afterReply_onWire _ _ hreply

end Waiting

section Events

-- What the reader gives of a packet.
def Packet.OnWire : Packet → Prop
  | createMatch data => data.OnWire
  | changeSettings data => data.OnWire
  | changeMods mods => fitsI32 mods
  | _ => True

-- Ids from the database fit the signed column they are kept in.
def Event.OnWire : Event → Prop
  | .login profile => profile.id < 2 ^ 31
  | .packet _ sent _ => sent.OnWire
  | .resume _ found _ => ∀ bmap ∈ found.beatmap, fitsI32 bmap.id
  | _ => True

theorem Packet.handle_onWire {packet : Packet} (h : packet.OnWire) (p : PlayerRef)
    (clock : Clock) : Yields NextOnWire (packet.handle p clock) := by
  cases packet with
  | changeSettings data =>
    refine Yields.after fun awaits => Yields.pure ?_
    cases awaits with
    | false => exact nextOnWire_none
    | true =>
      intro x hx
      cases hx
      exact h
  | sendMessage text recipient mp => exact sendMessage_onWire p text recipient mp clock
  | _ => exact finished_onWire _

theorem Suspended.resume_onWire {next : Suspended} (h : next.OnWire) (found : Lookup)
    (elapsed : String) : Yields NextOnWire (next.resume found elapsed) := by
  cases next with
  | settings p data => exact finished_onWire _
  | command call r pause =>
    refine Yields.bind (Yields.attempt ?_ (commandFailed_onWire (some r))) fun reply hreply =>
      afterReply_onWire call elapsed hreply
    exact Yields.bind (pause.resume_onWire r found h) fun reply hreply => Yields.pure hreply

theorem Suspended.resume_sendable {next : Suspended} (h : next.OnWire) {found : Lookup}
    (hfound : ∀ bmap ∈ found.beatmap, fitsI32 bmap.id) (elapsed : String) :
    Within KeepsSendable (next.resume found elapsed) := by
  refine next.resume_lenient keepsSendable_lenient ?_ hfound ?_ elapsed
  · rintro p data rfl
    exact MultiplayerMatch.OnWire.mapId h
  · rintro call r modsSlot mods mapId rfl
    exact resumePickMap_sendable r modsSlot h hfound

theorem MpCommand.run_sendable (ctx : Context) (r : MatchRef) (command : MpCommand) :
    Within KeepsSendable (command.run ctx r) := by
  by_cases hmods : command = .mods
  · subst hmods
    exact mpMods_sendable ctx r
  by_cases hfreemods : command = .freemods
  · subst hfreemods
    exact mpFreemods_sendable ctx r
  · exact MpCommand.run_lenient keepsSendable_lenient ctx r hmods hfreemods

theorem Packet.handle_sendable {packet : Packet} (h : packet.OnWire) (p : PlayerRef)
    (clock : Clock) : Within KeepsSendable (packet.handle p clock) := by
  have hR := keepsSendable_lenient
  cases packet with
  | createMatch data =>
    have hcreate := hR.tolerant
    refine Within.bind (fun s => matchCreate_lenient hcreate p clock.now fun m hm id => ?_) fun _ =>
      Within.pure none
    obtain ⟨k, hnew⟩ := created_eq_some hm
    exact registerMatch_sendable id (newMatch_sendable h hnew)
  | changeSettings data =>
    refine Within.bind (fun s => ?_) fun _ => Within.pure _
    refine matchChangeSettings_restating hR.toRestating p data fun r _ _ _ _ => ?_
    exact changeFreemods_sendable r _ s
  | changeMods mods => exact finished_within (matchChangeMods_sendable p h)
  | sendMessage text recipient mp =>
    intro s
    exact sendMessage_lenient hR p text recipient mp clock fun sent given _ _ ctx _ _ =>
      given.1.run_sendable ctx given.2.2 _
  | _ => exact Packet.handle_lenient hR rfl p clock

end Events

section Runs

structure World.Sendable (w : World) : Prop where
  server : w.server.Sendable
  suspended : ∀ next ∈ w.suspended, next.OnWire

theorem World.Sendable.runHandler {w : World} (h : w.Sendable)
    {handler : Handler (Option Suspended)} (hkeeps : Within KeepsSendable handler)
    (hnext : Yields NextOnWire handler) : (w.runHandler handler).Sendable := by
  have hserver : (w.runHandler handler).server.Sendable := by
    rw [runHandler_server]
    exact hkeeps w.server h.server
  refine ⟨hserver, fun x hx => ?_⟩
  unfold World.runHandler at hx
  split at hx
  · rename_i next t hrun
    rcases List.mem_append.mp hx with hold | hnew
    · exact h.suspended x hold
    · exact hnext w.server (some next) t hrun x (List.mem_singleton.mp hnew ▸ rfl)
  · exact h.suspended x hx

theorem World.Sendable.finished {w : World} (h : w.Sendable) {handler : Handler Unit}
    (hkeeps : Within KeepsSendable handler) :
    (w.runHandler (BanchoPrism.finished handler)).Sendable :=
  h.runHandler (finished_within hkeeps) (finished_onWire handler)

theorem World.Sendable.runFor {w : World} (h : w.Sendable) {p : PlayerRef}
    {handler : Handler (Option Suspended)} (hkeeps : Within KeepsSendable handler)
    (hnext : Yields NextOnWire handler) : (w.runFor p handler).Sendable := by
  unfold World.runFor
  split
  · exact h.runHandler hkeeps hnext
  · exact h

theorem step_sendable {w : World} {event : Event} (hw : w.Sendable) (h : event.OnWire) :
    (w.step event).Sendable := by
  cases event with
  | login profile => exact hw.finished (login_sendable h)
  | packet p packet clock =>
    exact hw.runFor (packet.handle_sendable h p clock) (packet.handle_onWire h p clock)
  | resume i found elapsed =>
    unfold World.step
    dsimp only
    split
    · rename_i next hnext
      have hwaits := hw.suspended next (List.mem_of_getElem? hnext)
      have hrest : World.Sendable { w with suspended := w.suspended.eraseIdx i } :=
        ⟨hw.server, fun x hx => hw.suspended x (List.mem_of_mem_eraseIdx hx)⟩
      exact hrest.runHandler (next.resume_sendable hwaits h elapsed)
        (next.resume_onWire hwaits found elapsed)
    · exact hw
  | startTimer r => exact hw.finished (startTimerFires_lenient keepsSendable_lenient.tolerant r)
  | disconnect p =>
    have hlogout := logout_lenient keepsSendable_lenient.tolerant p
    exact hw.runFor (finished_within hlogout) (finished_onWire _)
  | silence p now duration =>
    have hkeeps := silence_lenient keepsSendable_lenient.tolerant p now duration
    exact hw.runFor (finished_within hkeeps) (finished_onWire _)

theorem start_sendable (setup : Setup) : setup.start.Sendable := by
  have hmatch : (default : Match).Sendable := by
    refine ⟨?_, ?_, rfl, rfl, fun i => Slot.Sendable.blank⟩ <;> decide
  unfold Setup.start
  extract_lets server bot
  have hstart : (server.modifyPlayer botRef fun _ => bot).Sendable := by
    refine ⟨fun _ => hmatch, fun q => ?_, fun id p hp => absurd hp (Option.not_mem_none p)⟩
    by_cases hq : q = botRef
    · subst hq
      simp [Server.modifyPlayer, bot]
    · simp [Server.modifyPlayer, hq, server]
  exact ⟨playersAppend_sendable hstart Nat.one_pos, fun _ hx => absurd hx List.not_mem_nil⟩

theorem run_sendable (setup : Setup) {run : List Event} (h : ∀ event ∈ run, event.OnWire) :
    (runFrom World.step setup.start run).Sendable := by
  have hguard : Guarded World.step (fun _ event => event.OnWire) setup.start run :=
    Guarded.of_forall h
  exact Guarded.invariant World.Sendable (fun _ _ => step_sendable) (start_sendable setup) hguard

end Runs

end BanchoPrism
