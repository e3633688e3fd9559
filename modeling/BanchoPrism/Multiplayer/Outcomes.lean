import BanchoPrism.Multiplayer.Arrivals

namespace BanchoPrism

open Library Prog

section Events

-- The play an event makes, if its player may make it.
def requestPlay (s : Server) (p : PlayerRef) (clock : Clock) : Packet → Option (MatchRef × Play)
  | .sendMessage text recipient mp =>
      (commandGiven s p text recipient mp clock).bind fun given =>
        commandPlay s given.1 given.2.1 given.2.2
  | request => packetPlay s p request

def eventPlay (w : World) : Event → Option (MatchRef × Play)
  | .packet p request clock =>
      if p < w.server.nextPlayer then requestPlay w.server p clock request else none
  | .startTimer r => timerPlay w.server r
  | _ => none

-- A player for whom join_match is called, with the match and the password.
structure Join where
  player : PlayerRef
  target : MatchRef
  passwd : String

def requestJoin (s : Server) (p : PlayerRef) (clock : Clock) : Packet → Option Join
  | .joinMatch matchId passwd => (joinTarget s matchId).map fun r => ⟨p, r, passwd⟩
  | .sendMessage text recipient mp =>
      (commandGiven s p text recipient mp clock).bind fun (ctx, r, command) =>
        if command = .force then
          (forceTarget s ctx).map fun target => ⟨target, r, (s.matchAt r).passwd⟩
        else none
  | _ => none

def eventJoin (w : World) : Event → Option Join
  | .packet p request clock =>
      if p < w.server.nextPlayer then requestJoin w.server p clock request else none
  | _ => none

-- The slot that a join gets.
def Join.slot (join : Join) (s : Server) : Option (Fin 16) :=
  if (s.player join.player).matchRef = none then picked s join.player join.target join.passwd
  else none

-- Who leaves the match they are in.
def leaver (s : Server) : Event → Option PlayerRef
  | .packet p .logout clock => if clock.now - (s.player p).loginTime < 1 then none else some p
  | .packet p .partMatch _ => some p
  | .disconnect p => some p
  | .silence p _ _ => some p
  | _ => none

-- What a step from s to t comes to, given the play, the join and the leaver.
inductive Outcome (s : Server) (turn : Option (MatchRef × Play)) (join : Option Join)
    (leaver : Option PlayerRef) (t : Server) : Prop
  | turn (h : Turn turn s t)
  | joined (asked : Join) (i : Fin 16) (hturn : turn = none) (hjoin : join = some asked)
      (hslot : asked.slot s = some i) (hfree : (s.player asked.player).matchRef = none)
      (h : Sat asked.player asked.target i s t)
  | left (p : PlayerRef) (r : MatchRef) (i : Fin 16) (hturn : turn = none)
      (hleaver : leaver = some p) (hr : (s.player p).matchRef = some r)
      (hi : (s.matchAt r).getSlotId p = some i) (h : Left p r i s t)
      (hcloses : s.Listed → Closes s p r i → t.matchList = (s.removeMatch r).matchList)
  | opened (k : Fin 64) (u : Server) (hturn : turn = none) (h : Opened k s u)
      (hsat : Steady u t ∨ ∃ p i, (s.player p).matchRef = none ∧ Sat p s.nextMatch i u t)

end Events

section Rules

variable {s t u : Server} {turn : Option (MatchRef × Play)} {join : Option Join}
  {leaver : Option PlayerRef}

theorem Turn.steady (h : Turn turn s t) (h' : Steady t u) : Turn turn s u := by
  rcases turn with _ | ⟨r, play⟩
  · exact Steady.trans h h'
  · exact Played.steady h h'

theorem Outcome.steady (h : Outcome s turn join leaver t) (h' : Steady t u) :
    Outcome s turn join leaver u := by
  cases h with
  | turn h => exact .turn (Turn.steady h h')
  | joined asked i hturn hjoin hslot hfree h =>
    exact .joined asked i hturn hjoin hslot hfree (h.steady h')
  | left p r i hturn hleaver hr hi h hcloses =>
    exact .left p r i hturn hleaver hr hi (h.steady h') fun hl hc =>
      h'.matchList.trans (hcloses hl hc)
  | opened k v hturn h hsat =>
    refine .opened k v hturn h ?_
    rcases hsat with hsteady | ⟨p, i, hfree, hsat⟩
    · exact Or.inl (hsteady.trans h')
    · exact Or.inr ⟨p, i, hfree, hsat.steady h'⟩

theorem Outcome.bind {α β : Type} {x : Handler α} {f : α → Handler β}
    (hx : Moves (fun s t => Outcome s turn join leaver t) s x) (hf : ∀ a, Within Steady (f a)) :
    Moves (fun s t => Outcome s turn join leaver t) s (x >>= f) :=
  Moves.bind_left (R := fun s t => Outcome s turn join leaver t) (S := Steady) Outcome.steady hx
    fun a t _ => hf a t

theorem Outcome.finished {handler : Handler Unit}
    (h : Moves (fun s t => Outcome s turn join leaver t) s handler) :
    Moves (fun s t => Outcome s turn join leaver t) s (finished handler) :=
  Outcome.bind h fun _ => Within.pure none

end Rules

section Handlers

variable {s : Server} {p : PlayerRef}

theorem leaveMatch_outcome (p : PlayerRef) (s : Server) :
    Outcome s none none (some p) (leaveMatch p s).2 := by
  rcases leaveMatch_left p s with ⟨-, hst⟩ | ⟨r, i, hr, hi, hleft⟩
  · exact .turn hst
  · exact .left p r i rfl rfl hr hi hleft fun hl hc => leaveMatch_closes hl hr hi hc

theorem logout_outcome (p : PlayerRef) (s : Server) :
    Outcome s none none (some p) (logout p s).2 :=
  Outcome.bind (leaveMatch_outcome p s) fun _ => (closeSession_calm p).steady

theorem joinMatch_outcome (join : Join) (s : Server) :
    Outcome s none (some join) none (joinMatch join.player join.target join.passwd s).2 := by
  rcases joinMatch_sat join.player join.target join.passwd s with hst | ⟨i, hfree, hpicked, hsat⟩
  · exact .turn hst
  · exact .joined join i rfl rfl ((if_pos hfree).trans hpicked) hfree hsat

theorem matchCreate_outcome (p : PlayerRef) (data : MultiplayerMatch) (now : Int) (s : Server) :
    Outcome s none none none (matchCreate p data now s).2 := by
  rcases matchCreate_opened p data now s with hst | ⟨k, u, hopened, hst | ⟨i, hfree, hsat⟩⟩
  · exact .turn hst
  · exact .opened k u rfl hopened (Or.inl hst)
  · exact .opened k u rfl hopened (Or.inr ⟨p, i, hfree, hsat⟩)

theorem matchJoin_outcome (p : PlayerRef) (matchId : Int) (passwd : String) (now : Int)
    (s : Server) :
    Outcome s none ((joinTarget s matchId).map fun r => ⟨p, r, passwd⟩) none
      (matchJoin p matchId passwd now s).2 := by
  unfold matchJoin
  rw [read_bind_run]
  rcases hfound : s.matchAtIndex matchId with e | found
  · exact .turn (Steady.refl s)
  rw [bind_run_ok (lift_ok_run found s)]
  rcases found with _ | r
  · exact .turn ((send_calm p _).steady s)
  have htarget : joinTarget s matchId = some r := by simp [joinTarget, hfound]
  have hrefuse : ∀ text, Moves (fun s t => Outcome s none (some ⟨p, r, passwd⟩) none t) s
      (refuseMultiplayer p text) := fun text =>
    .turn ((refuseMultiplayer_calm p text).steady s)
  rw [htarget]
  refine Moves.ite (fun _ => hrefuse _) fun _ => Moves.ite (fun _ => hrefuse _) fun _ => ?_
  exact Outcome.bind (joinMatch_outcome ⟨p, r, passwd⟩ s) fun _ => Within.pure ()

-- The player is silenced before the match is left.
theorem silence_outcome (p : PlayerRef) (now duration : Int) (s : Server) :
    Outcome s none none (some p) (silence p now duration s).2 := by
  let t := s.modifyPlayer p fun player => { player with silenceEnd := now + duration }
  have hst : Steady s t :=
    Calm.steady ⟨Quiet.of_modifyPlayer rfl rfl (List.Subset.refl _), fun _ => rfl⟩
  obtain ⟨sent, hend⟩ := send_run p (.silenceEnd duration) t
  obtain ⟨sent', hall⟩ := sendAll_run t.players.list (.userSilenced (t.player p).id)
    { t with sent := sent }
  let u : Server := { t with sent := sent' }
  have hsu : Steady s u := hst.trans (ChannelWork.of_sent t sent').calm.steady
  have hrun : silence p now duration s =
      (if (t.player p).matchRef.isSome then leaveMatch p else pure ()) u := by
    unfold silence
    rw [update_bind_run, read_bind_run, bind_run_ok hend]
    exact bind_run_ok hall
  rw [hrun]
  split
  swap
  · exact .turn hsu
  rcases leaveMatch_left p u with ⟨-, hleave⟩ | ⟨r, i, hr, hi, hleft⟩
  · exact .turn (hsu.trans hleave)
  have hr' : (s.player p).matchRef = some r := (hsu.place p).symm.trans hr
  refine .left p r i rfl rfl hr' hi (hsu.left hleft) fun hl hc => ?_
  have hc' : Closes u p r i := by
    unfold Closes Releases at *
    simp only [u, t]
    exact hc
  exact (leaveMatch_closes (hsu.listed hl) hr hi hc').trans (removeMatch_congr hsu.matchList)

theorem command_outcome (ctx : Context) (r : MatchRef) (command : MpCommand) (s : Server) :
    Outcome s (commandPlay s ctx r command)
      (if command = .force then
        (forceTarget s ctx).map fun target => ⟨target, r, (s.matchAt r).passwd⟩
      else none) none (command.run ctx r s).2 := by
  by_cases hforce : command = .force
  swap
  · exact .turn (commandPlay_turn ctx hforce)
  subst hforce
  show Outcome s none _ none (mpForce ctx r s).2
  rw [if_pos rfl]
  rcases mpForce_cases ctx r s with ⟨-, hsame⟩ | ⟨target, htarget, hjoin⟩
  · rw [hsame]
    exact .turn (Steady.refl s)
  · rw [hjoin, htarget]
    exact joinMatch_outcome ⟨target, r, (s.matchAt r).passwd⟩ s

-- What was sent before is no part of the outcome.
theorem Outcome.of_sent {turn : Option (MatchRef × Play)} {join : Option Join}
    {leaver : Option PlayerRef} {t : Server} {sent : List (PlayerRef × ServerPacket)}
    (h : Outcome { s with sent := sent } turn join leaver t) : Outcome s turn join leaver t := by
  have hst : Steady s { s with sent := sent } := (ChannelWork.of_sent s sent).calm.steady
  cases h with
  | turn h =>
    refine .turn ?_
    rcases turn with _ | ⟨r, play⟩
    · exact Steady.trans hst h
    · exact Steady.played hst h
  | joined asked i hturn hjoin hslot hfree h =>
    exact .joined asked i hturn hjoin hslot hfree (hst.sat h)
  | left p r i hturn hleaver hr hi h hcloses =>
    exact .left p r i hturn hleaver hr hi (hst.left h) fun hl hc =>
      (hcloses hl hc).trans (removeMatch_congr rfl)
  | opened k u hturn h hsat =>
    exact .opened k u hturn ⟨h.game, h.place, h.free, h.matchList, h.nextMatch, h.listed⟩ hsat

theorem sendMessage_outcome (p : PlayerRef) (text recipient : String)
    (mp : Option (String × List String)) (clock : Clock) (s : Server) :
    Outcome s (requestPlay s p clock (.sendMessage text recipient mp))
      (requestJoin s p clock (.sendMessage text recipient mp)) none
      (sendMessage p text recipient mp clock s).2 := by
  unfold requestPlay requestJoin
  dsimp only
  rcases sendMessage_cases p text recipient mp clock s with
    ⟨hnone, hcalm⟩ | ⟨ctx, r, command, sent, hgiven, hcalm⟩
  · rw [hnone]
    exact .turn hcalm.steady
  · rw [hgiven]
    have hplay : commandPlay { s with sent := sent } ctx r command = commandPlay s ctx r command := by
      cases command <;> rfl
    have hran := command_outcome ctx r command { s with sent := sent }
    rw [hplay] at hran
    exact (Outcome.of_sent hran).steady hcalm.steady

theorem handle_outcome (p : PlayerRef) (request : Packet) (clock : Clock) (s : Server) :
    Outcome s (requestPlay s p clock request) (requestJoin s p clock request)
      (leaver s (.packet p request clock)) (request.handle p clock s).2 := by
  have hturn : (request.playing ∨ (∃ slotId, request = .lock slotId) ∨
      ∃ slotId, request = .changeSlot slotId) → requestPlay s p clock request = packetPlay s p request →
      Outcome s (requestPlay s p clock request) (requestJoin s p clock request)
        (leaver s (.packet p request clock)) (request.handle p clock s).2 := fun hp hsame =>
    .turn (hsame ▸ packetPlay_turn hp clock)
  cases hp : request.playing with
  | true =>
    cases request with
    | ready | noBeatmap | notReady | hasBeatmap | start | scoreUpdate | complete | failed =>
      exact hturn (Or.inl hp) rfl
    | _ => cases hp
  | false =>
    cases hm : request.moving with
    | false =>
      have hnone : requestPlay s p clock request = none := by
        cases request <;> first | rfl | (cases hm; done) | cases hp
      rw [hnone]
      exact .turn (request.handle_calm hm hp p clock s).steady
    | true =>
      cases request with
      | logout =>
        refine Outcome.finished (Moves.read_bind ?_)
        by_cases hearly : clock.now - (s.player p).loginTime < 1
        · rw [if_pos hearly]
          exact .turn (Steady.refl s)
        · have hleaver : leaver s (.packet p .logout clock) = some p := if_neg hearly
          rw [if_neg hearly, hleaver]
          exact logout_outcome p s
      | createMatch data => exact Outcome.finished (matchCreate_outcome p data clock.now s)
      | joinMatch matchId passwd =>
        exact Outcome.finished (matchJoin_outcome p matchId passwd clock.now s)
      | partMatch => exact Outcome.finished (leaveMatch_outcome p s)
      | lock slotId => exact hturn (Or.inr (Or.inl ⟨slotId, rfl⟩)) rfl
      | changeSlot slotId => exact hturn (Or.inr (Or.inr ⟨slotId, rfl⟩)) rfl
      | transferHost slotId =>
        exact Outcome.finished (.turn (matchTransferHost_steady p slotId s))
      | sendMessage text recipient mp => exact sendMessage_outcome p text recipient mp clock s
      | _ => cases hm

theorem runFor_outcome {w : World} {p : PlayerRef} {handler : Handler (Option Suspended)}
    {turn : Option (MatchRef × Play)} {join : Option Join} {leaver : Option PlayerRef}
    (h : Outcome w.server turn join leaver (handler w.server).2) :
    Outcome w.server (if p < w.server.nextPlayer then turn else none)
      (if p < w.server.nextPlayer then join else none) leaver (w.runFor p handler).server := by
  unfold World.runFor
  split
  · rw [runHandler_server]
    exact h
  · exact .turn (Steady.refl _)

-- Every step is a play, a join, a leave or a new match, or moves nobody.
theorem step_outcome (w : World) (event : Event) :
    Outcome w.server (eventPlay w event) (eventJoin w event) (leaver w.server event)
      (w.step event).server := by
  cases event with
  | login profile =>
    exact (runHandler_server w _).symm ▸ Outcome.finished (.turn (login_steady profile _))
  | packet p request clock => exact runFor_outcome (handle_outcome p request clock w.server)
  | resume i found elapsed =>
    unfold World.step
    dsimp only
    split
    · rw [runHandler_server]
      exact .turn (resume_calm _ found elapsed _).steady
    · exact .turn (Steady.refl _)
  | startTimer r =>
    exact (runHandler_server w _).symm ▸ Outcome.finished (.turn (startTimerFires_turn r _))
  | disconnect p =>
    have h := runFor_outcome (p := p) (Outcome.finished (logout_outcome p w.server))
    simp only [ite_self] at h
    exact h
  | silence p now duration =>
    have h := runFor_outcome (p := p) (Outcome.finished (silence_outcome p now duration w.server))
    simp only [ite_self] at h
    exact h

theorem step_turn {w : World} {request : Packet} (h : request.playing) (p : PlayerRef)
    (clock : Clock) : Turn (eventPlay w (.packet p request clock)) w.server
      (w.step (.packet p request clock)).server := by
  have hsame : requestPlay w.server p clock request = packetPlay w.server p request := by
    cases request <;> first | rfl | cases h
  unfold World.step World.runFor eventPlay
  dsimp only
  split
  · rw [runHandler_server, hsame]
    exact packetPlay_turn (Or.inl h) clock
  · exact Steady.refl _

end Handlers

end BanchoPrism
