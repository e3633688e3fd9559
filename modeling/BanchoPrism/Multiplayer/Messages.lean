import BanchoPrism.Multiplayer.Plays

namespace BanchoPrism

open Library Prog

section Commands

variable {s : Server} {r : MatchRef}

-- !mp start, now
def startsNow (s : Server) (ctx : Context) (m : Match) : Bool :=
  match ctx.args with
  | [] => m.starting.isNone && !m.anySlot fun slot => decide (slot.status = .notReady)
  | [arg] => (s.decimal arg).isNone && (arg == "force" || arg == "f")
  | _ => false

-- The play that a command makes in the match it is for.
def commandPlay (s : Server) (ctx : Context) (r : MatchRef) : MpCommand → Option (MatchRef × Play)
  | .start => if startsNow s ctx (s.matchAt r) then some (startPlay s r) else none
  | .abort => if (s.matchAt r).inProgress then some (r, .abort) else none
  | _ => none

theorem startNow_played (r : MatchRef) (s : Server) :
    Moves (Turn (some (startPlay s r))) s (startNow r) :=
  Played.bind (startMatch_played r s) fun _ => within_answer _

theorem mpStart_turn (ctx : Context) :
    Moves (Turn (commandPlay s ctx r .start)) s (mpStart ctx r) := by
  have hnot : ∀ {x : Handler Reply}, startsNow s ctx (s.matchAt r) = false → Within Calm x →
      Moves (Turn (commandPlay s ctx r .start)) s x := by
    intro x hfalse hx
    have hnone : commandPlay s ctx r .start = none := by simp [commandPlay, hfalse]
    rw [hnone]
    exact (hx s).steady
  have hnow : startsNow s ctx (s.matchAt r) = true →
      Moves (Turn (commandPlay s ctx r .start)) s (startNow r) := by
    intro htrue
    have hsome : commandPlay s ctx r .start = some (startPlay s r) := if_pos htrue
    rw [hsome]
    exact startNow_played r s
  unfold mpStart
  refine Moves.read_bind ?_
  dsimp only
  split
  · rename_i hargs
    split
    · rename_i hstarting
      exact hnot (by simp [startsNow, hargs, hstarting]) (within_answer _)
    · rename_i hstarting
      refine Moves.ite (fun hnotReady => ?_) fun hready => ?_
      · exact hnot (by simp [startsNow, hargs, hnotReady]) (within_answer _)
      · exact hnow (by simp [startsNow, hargs, hstarting, hready])
  · rename_i arg hargs
    split
    · rename_i duration hdecimal
      refine hnot (by simp [startsNow, hargs, hdecimal]) ?_
      split
      · exact within_answer _
      · refine Within.ite ?_ (within_answer _)
        exact Within.bind (starting_calm r _) fun _ => within_answer _
    · rename_i hdecimal
      refine Moves.ite (fun hcancel => ?_) fun hcancel => Moves.ite (fun hforce => ?_) fun hforce => ?_
      · refine hnot ?_ (Within.ite (within_answer _)
          (Within.bind (starting_calm r none) fun _ => within_answer _))
        rcases hcancel with rfl | rfl <;> simp [startsNow, hargs]
      · exact hnow (by simpa [startsNow, hargs, hdecimal] using hforce)
      · exact hnot (by simpa [startsNow, hargs, hdecimal] using hforce) (within_answer _)
  · rename_i hnil hone
    refine hnot ?_ (within_answer _)
    unfold startsNow
    split
    · exact absurd ‹_› hnil
    · exact absurd ‹_› (hone _)
    · rfl

theorem mpAbort_turn (ctx : Context) :
    Moves (Turn (commandPlay s ctx r .abort)) s (mpAbort r) := by
  by_cases hin : (s.matchAt r).inProgress
  · have hsome : commandPlay s ctx r .abort = some (r, .abort) := if_pos hin
    rw [hsome]
    exact mpAbort_played r s hin
  · have hnone : commandPlay s ctx r .abort = none := if_neg hin
    rw [hnone]
    unfold mpAbort
    refine Moves.read_bind ?_
    rw [if_neg hin]
    exact Steady.refl s

-- What the timer of !mp start plays.
def timerPlay (s : Server) (r : MatchRef) : Option (MatchRef × Play) :=
  (s.matchAt r).starting.bind fun timer =>
    if inASlot (s.matchAt r) timer.1 then some (startPlay s r) else none

theorem startTimerFires_turn (r : MatchRef) (s : Server) :
    Moves (Turn (timerPlay s r)) s (startTimerFires r) := by
  unfold startTimerFires
  refine Moves.read_bind ?_
  dsimp only
  rcases hstarting : (s.matchAt r).starting with _ | ⟨p, time⟩
  · have hnone : timerPlay s r = none := by simp [timerPlay, hstarting]
    rw [hnone]
    exact Steady.refl s
  dsimp only
  let t := s.modifyMatch r fun m => { m with starting := none }
  have hst : Steady s t := Calm.steady ((starting_calm r none) s)
  unfold Moves
  rw [updateMatch_bind_run]
  by_cases hin : inASlot (s.matchAt r) p
  · have hsome : timerPlay s r = some (startPlay s r) := by simp [timerPlay, hstarting, hin]
    have hsame : startPlay t r = startPlay s r := by
      simp [startPlay, t, Server.modifyMatch]
    have hplayed := startMatch_played r t
    rw [hsome, if_pos hin]
    refine hst.played ?_
    have hrest : Moves (Turn (some (startPlay t r))) t (startMatch r >>= fun _ =>
        sendBot (s.matchAt r).chat "Starting match.") :=
      Played.bind hplayed fun _ => (sendBot_work _ _).calm
    rw [hsame] at hrest
    exact hrest
  · have hnone : timerPlay s r = none := by simp [timerPlay, hstarting, hin]
    rw [hnone, if_neg hin]
    exact hst.trans ((sendBot_work _ _).calm t).steady

theorem Steady.of_modifyMatch {f : Match → Match} (hs : ∀ m, (f m).game = m.game) :
    Steady s (s.modifyMatch r f) where
  game r' := by
    rw [Server.modifyMatch_game]
    split
    · rename_i hr
      rw [hs, hr]
      rfl
    · rfl
  place _ := rfl
  matchList := rfl
  nextMatch := rfl
  listed hl := hl

theorem setHost_steady (r : MatchRef) (p : PlayerRef) : Within Steady (setHost r p) := by
  intro s
  refine Moves.update_bind (Steady.of_modifyMatch fun _ => rfl) (Moves.read_bind ?_)
  exact Moves.lift_bind fun host _ => (send_calm host _).steady _

theorem mpHost_steady (ctx : Context) (r : MatchRef) : Within Steady (mpHost ctx r) := by
  refine within_oneArg fun arg => within_onlinePlayer fun target => Within.read_bind fun s => ?_
  refine Moves.lift_bind fun host _ => Within.moves (Within.ite (within_answer _) ?_)
  refine Within.ite (Within.bind (setHost_steady r target) fun _ => ?_) (within_answer _)
  exact Within.bind (enqueueState_calm r true).steady fun _ => within_answer _

theorem matchTransferHost_steady (p : PlayerRef) (slotId : Int) :
    Within Steady (matchTransferHost p slotId) := by
  refine within_asHost fun r => within_withSlotId fun i => Within.read_bind fun s => ?_
  split
  · exact Within.moves (Within.bind (setHost_steady r _) fun _ => (enqueueState_calm r true).steady)
  · exact Moves.pure ()

-- Every command but !mp force.
theorem commandPlay_turn (ctx : Context) {command : MpCommand} (h : command ≠ .force) :
    Moves (Turn (commandPlay s ctx r command)) s (command.run ctx r) := by
  cases hm : command.moving with
  | false =>
    have hnone : commandPlay s ctx r command = none := by
      cases command <;> first | rfl | cases hm
    rw [hnone]
    exact (MpCommand.run_calm ctx r hm).steady s
  | true =>
    cases command with
    | start => exact mpStart_turn ctx
    | abort => exact mpAbort_turn ctx
    | host => exact mpHost_steady ctx r s
    | force => exact absurd rfl h
    | _ => cases hm

end Commands

section Given

variable {s : Server} {p : PlayerRef}

-- What ensure_match lets through: the command, in the match that the channel is of.
def commandLet (s : Server) (ctx : Context) (c : ChannelRef) (command : MpCommand) :
    Option (Context × MatchRef × MpCommand) :=
  (s.player ctx.player).matchRef.bind fun r =>
    if (s.matchAt r).chat ≠ c then none
    else
      match matchRefs s (s.matchAt r) with
      | .error _ => none
      | .ok refs =>
          if ctx.player ∈ refs ∨ (s.player ctx.player).priv.has Privileges.TOURNEY_MANAGER then
            some (ctx, r, command)
          else none

-- The !mp command that a message gives, if it reaches its channel.
def commandGiven (s : Server) (p : PlayerRef) (text recipient : String)
    (mp : Option (String × List String)) (clock : Clock) :
    Option (Context × MatchRef × MpCommand) :=
  if (s.player p).silenced clock.now ∨ text = "" ∨ ignoredChannel recipient then none
  else
    (recipientChannel s p recipient).bind fun c =>
      if p ∉ (s.channel c).players ∨ !(s.channel c).canWrite (s.player p).priv then none
      else
        (mp.bind fun (trigger, args) =>
          (MpCommand.find trigger (s.player p).priv).map fun command => (command, args)).bind
            fun (command, args) =>
              commandLet s { player := p, args := args, now := clock.now, secret := clock.secret }
                c command

-- ensure_match changes nothing by itself.
theorem ensureMatch_cases (ctx : Context) (c : ChannelRef) (command : MpCommand) (s : Server) :
    (commandLet s ctx c command = none ∧ (ensureMatch ctx c command s).2 = s) ∨
      ∃ r, commandLet s ctx c command = some (ctx, r, command) ∧
        (ensureMatch ctx c command s).2 = (command.run ctx r s).2 := by
  unfold commandLet ensureMatch
  rw [read_bind_run]
  rcases hr : (s.player ctx.player).matchRef with _ | r
  · exact Or.inl ⟨rfl, rfl⟩
  dsimp only [Option.bind_some]
  by_cases hc : (s.matchAt r).chat ≠ c
  · rw [if_pos hc, if_pos hc]
    exact Or.inl ⟨rfl, rfl⟩
  rw [if_neg hc, if_neg hc]
  rcases hrefs : matchRefs s (s.matchAt r) with e | refs
  · exact Or.inl ⟨rfl, rfl⟩
  rw [bind_run_ok (lift_ok_run refs s)]
  dsimp only
  by_cases hmay : ctx.player ∈ refs ∨ (s.player ctx.player).priv.has Privileges.TOURNEY_MANAGER
  · rw [if_pos hmay, if_pos hmay]
    refine Or.inr ⟨r, rfl, ?_⟩
    rcases hrun : command.run ctx r s with ⟨e | reply, t⟩
    · rw [bind_run_error hrun]
    · rw [bind_run_ok hrun]
      rfl
  · rw [if_neg hmay, if_neg hmay]
    exact Or.inl ⟨rfl, rfl⟩

theorem attempt_server {body : Handler (Option MatchRef × Reply)} (s : Server) :
    (Prog.attempt body (commandFailed none) s).2 = (body s).2 := by
  unfold Prog.attempt
  rcases body s with ⟨e | a, t⟩ <;> rfl

-- A message runs the command it gives, between packets.
theorem sendMessage_cases (p : PlayerRef) (text recipient : String)
    (mp : Option (String × List String)) (clock : Clock) (s : Server) :
    (commandGiven s p text recipient mp clock = none ∧
        Calm s (sendMessage p text recipient mp clock s).2) ∨
      ∃ ctx r command sent, commandGiven s p text recipient mp clock = some (ctx, r, command) ∧
        Calm (command.run ctx r { s with sent := sent }).2
          (sendMessage p text recipient mp clock s).2 := by
  unfold commandGiven sendMessage
  rw [read_bind_run]
  by_cases hmute : (s.player p).silenced clock.now ∨ text = "" ∨ ignoredChannel recipient
  · rw [if_pos hmute, if_pos hmute]
    exact Or.inl ⟨rfl, Calm.refl s⟩
  rw [if_neg hmute, if_neg hmute]
  rcases hc : recipientChannel s p recipient with _ | c
  · exact Or.inl ⟨rfl, Calm.refl s⟩
  dsimp only [Option.bind_some]
  by_cases hwrite : p ∉ (s.channel c).players ∨ !(s.channel c).canWrite (s.player p).priv
  · rw [if_pos hwrite, if_pos hwrite]
    exact Or.inl ⟨rfl, Calm.refl s⟩
  rw [if_neg hwrite, if_neg hwrite]
  obtain ⟨msg, sent, hrun⟩ := truncateMessage_run p text s
  have hsent : Calm s { s with sent := sent } := (ChannelWork.of_sent s sent).calm
  rw [bind_run_ok hrun]
  rcases hmp : mp.bind fun (trigger, args) =>
      (MpCommand.find trigger (s.player p).priv).map fun command => (command, args) with _ | ⟨command, args⟩
  · left
    refine ⟨rfl, hsent.trans ?_⟩
    exact Within.bind (sendChannel_work c p msg).calm (fun _ => Within.pure none) _
  dsimp only
  let ctx : Context := { player := p, args := args, now := clock.now, secret := clock.secret }
  have hbody := ensureMatch_cases ctx c command { s with sent := sent }
  have hlet : commandLet { s with sent := sent } ctx c command = commandLet s ctx c command := rfl
  rw [hlet] at hbody
  have hafter : ∀ t, (ensureMatch ctx c command { s with sent := sent }).2 = t →
      Calm t (((Prog.attempt (ensureMatch ctx c command) (commandFailed none)) >>= fun reply =>
        afterReply { player := p, msg := msg, channel := c, command := command } clock.elapsed
          reply) { s with sent := sent }).2 := by
    intro t ht
    have hserver := @attempt_server (ensureMatch ctx c command) { s with sent := sent }
    rw [ht] at hserver
    rcases htry : Prog.attempt (ensureMatch ctx c command) (commandFailed none)
        { s with sent := sent } with ⟨e | reply, u⟩
    · rw [htry] at hserver
      rw [bind_run_error htry, ← hserver]
      exact Calm.refl _
    · rw [htry] at hserver
      rw [bind_run_ok htry, ← hserver]
      exact afterReply_calm _ _ reply _
  rcases hbody with ⟨hnone, hsame⟩ | ⟨r, hsome, hsame⟩
  · exact Or.inl ⟨hnone, hsent.trans (hafter _ hsame)⟩
  · exact Or.inr ⟨ctx, r, command, sent, hsome, hafter _ hsame⟩

-- Whom !mp force seats.
def forceTarget (s : Server) (ctx : Context) : Option PlayerRef :=
  match ctx.args with
  | [name] => s.getByName name
  | _ => none

theorem mpForce_cases (ctx : Context) (r : MatchRef) (s : Server) :
    (forceTarget s ctx = none ∧ (mpForce ctx r s).2 = s) ∨
      ∃ target, forceTarget s ctx = some target ∧
        (mpForce ctx r s).2 = (joinMatch target r (s.matchAt r).passwd s).2 := by
  unfold mpForce oneArg forceTarget onlinePlayer
  rcases hargs : ctx.args with _ | ⟨name, _ | ⟨other, rest⟩⟩
  · exact Or.inl ⟨rfl, rfl⟩
  · dsimp only
    rw [read_bind_run]
    rcases s.getByName name with _ | target
    · exact Or.inl ⟨rfl, rfl⟩
    · refine Or.inr ⟨target, rfl, ?_⟩
      dsimp only
      rw [read_bind_run]
      rcases hj : joinMatch target r (s.matchAt r).passwd s with ⟨e | joined, t⟩
      · rw [bind_run_error hj]
      · rw [bind_run_ok hj]
        rfl
  · exact Or.inl ⟨rfl, rfl⟩

end Given

end BanchoPrism
