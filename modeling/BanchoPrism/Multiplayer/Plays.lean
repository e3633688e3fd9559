import BanchoPrism.Multiplayer.SeatsAgree

namespace BanchoPrism

open Library Prog

-- What can happen in a game that has been set up.
inductive Play
  -- who has the map
  | start (hasMap : Fin 16 → Bool)
  -- a slot gets a status that is neither playing nor complete
  | idle (i : Fin 16)
  | frame (i : Fin 16) (playData : List UInt8)
  | fail (i : Fin 16)
  | complete (i : Fin 16)
  | abort
  | sit (p : PlayerRef) (i : Fin 16)
  | move (i j : Fin 16)
  | leave (i : Fin 16)

namespace Game

def Playing (g : Game) : Prop := ∃ i, (g.seats i).phase = .playing

instance (g : Game) : Decidable g.Playing := by
  unfold Playing
  infer_instance

def modifySeat (g : Game) (i : Fin 16) (f : Seat → Seat) : Game :=
  { g with seats := Function.update g.seats i (f (g.seats i)) }

theorem modifySeat_seats (g : Game) (i j : Fin 16) (f : Seat → Seat) :
    (g.modifySeat i f).seats j = if j = i then f (g.seats i) else g.seats j :=
  Function.update_apply _ _ _ _

-- The seats in one phase are idle again, and nobody plays any more.
def finish (g : Game) (phase : Phase) : Game :=
  { inProgress := false
    seats := fun i =>
      if (g.seats i).phase = phase then { g.seats i with phase := .idle } else g.seats i }

def emptySeat : Seat := { player := none, phase := .idle, frame := none, passed := true }

def play (g : Game) : Play → Game
  | .start hasMap =>
      { inProgress := true
        seats := fun i =>
          { player := (g.seats i).player
            phase := if (g.seats i).player.isSome ∧ hasMap i then .playing else (g.seats i).phase
            frame := none
            passed := true } }
  | .idle i => g.modifySeat i fun seat => { seat with phase := .idle }
  | .frame i playData => g.modifySeat i fun seat => { seat with frame := some playData }
  | .fail i => g.modifySeat i fun seat => { seat with passed := false }
  | .complete i =>
      let done := g.modifySeat i fun seat => { seat with phase := .complete }
      if done.Playing then done else done.finish .complete
  | .abort => g.finish .playing
  | .sit p i => g.modifySeat i fun seat => { seat with player := some p, phase := .idle }
  | .move i j =>
      (g.modifySeat j fun seat =>
        { seat with player := (g.seats i).player, phase := (g.seats i).phase }).modifySeat i
          fun _ => emptySeat
  | .leave i => g.modifySeat i fun _ => emptySeat

end Game

-- Nobody moves, and no game and no entry of the match list changes.
structure Steady (s t : Server) : Prop where
  game : ∀ r, t.game r = s.game r
  place : ∀ p, (t.player p).matchRef = (s.player p).matchRef
  matchList : t.matchList = s.matchList
  nextMatch : t.nextMatch = s.nextMatch
  listed : s.Listed → t.Listed

theorem Steady.refl (s : Server) : Steady s s :=
  ⟨fun _ => rfl, fun _ => rfl, rfl, rfl, fun h => h⟩

theorem Steady.trans {s t u : Server} (h : Steady s t) (h' : Steady t u) : Steady s u where
  game r := (h'.game r).trans (h.game r)
  place p := (h'.place p).trans (h.place p)
  matchList := h'.matchList.trans h.matchList
  nextMatch := h'.nextMatch.trans h.nextMatch
  listed hs := h'.listed (h.listed hs)

instance : Std.Refl Steady := ⟨Steady.refl⟩
instance : IsTrans Server Steady := ⟨fun _ _ _ => Steady.trans⟩

theorem Calm.steady {s t : Server} (h : Calm s t) : Steady s t :=
  ⟨h.game, h.place, h.matchList, h.nextMatch, h.listed⟩

theorem Library.Prog.Within.steady {α : Type} {x : Handler α} (h : Within Calm x) :
    Within Steady x := Within.mono (fun _ _ => Calm.steady) h

-- The same, but for a play in the game of r.
structure Played (r : MatchRef) (play : Play) (s t : Server) : Prop where
  game : ∀ r', t.game r' = if r' = r then (s.game r).play play else s.game r'
  place : ∀ p, (t.player p).matchRef = (s.player p).matchRef
  matchList : t.matchList = s.matchList
  nextMatch : t.nextMatch = s.nextMatch
  listed : s.Listed → t.Listed

section Played

variable {r : MatchRef} {play : Play} {s t u : Server}

theorem Played.steady (h : Played r play s t) (h' : Steady t u) : Played r play s u where
  game r' := (h'.game r').trans (h.game r')
  place p := (h'.place p).trans (h.place p)
  matchList := h'.matchList.trans h.matchList
  nextMatch := h'.nextMatch.trans h.nextMatch
  listed hs := h'.listed (h.listed hs)

theorem Steady.played (h : Steady s t) (h' : Played r play t u) : Played r play s u where
  game r' := by rw [h'.game, h.game, h.game]
  place p := (h'.place p).trans (h.place p)
  matchList := h'.matchList.trans h.matchList
  nextMatch := h'.nextMatch.trans h.nextMatch
  listed hs := h'.listed (h.listed hs)

theorem Played.bind {α β : Type} {x : Handler α} {f : α → Handler β}
    (hx : Moves (Played r play) s x) (hf : ∀ a, Within Calm (f a)) :
    Moves (Played r play) s (x >>= f) :=
  Moves.bind_left (R := Played r play) (S := Steady) Played.steady hx fun a t _ =>
    (hf a t).steady

-- An update of match r that makes the play in its game.
theorem Played.of_modifyMatch {f : Match → Match}
    (h : (f (s.matchAt r)).game = (s.game r).play play) : Played r play s (s.modifyMatch r f) where
  game r' := by rw [Server.modifyMatch_game, h]
  place _ := rfl
  matchList := rfl
  nextMatch := rfl
  listed hl := hl

theorem modifySlot_game (m : Match) (i : Fin 16) (f : Slot → Slot) :
    ({ m with slots := Function.update m.slots i (f (m.slots i)) } : Match).game =
      m.game.modifySeat i fun _ => (f (m.slots i)).seat := by
  unfold Match.game Game.modifySeat
  dsimp only
  congr 1
  funext j
  by_cases hj : j = i
  · subst hj
    simp
  · simp [hj]

theorem modifySlot_matchAt_game (s : Server) (r : MatchRef) (i : Fin 16) (f : Slot → Slot) :
    ((s.modifySlot r i f).matchAt r).game =
      (s.game r).modifySeat i fun _ => (f ((s.matchAt r).slots i)).seat := by
  unfold Server.modifySlot Server.modifyMatch
  dsimp only
  rw [Function.update_self]
  exact modifySlot_game _ _ _

theorem Played.of_modifySlot {i : Fin 16} {f : Slot → Slot}
    (h : ((s.game r).modifySeat i fun _ => (f ((s.matchAt r).slots i)).seat) =
      (s.game r).play play) : Played r play s (s.modifySlot r i f) := by
  refine Played.of_modifyMatch ?_
  rw [modifySlot_game]
  exact h

end Played

section Slots

variable {s : Server} {r : MatchRef} {i : Fin 16}

theorem ownStatus_played {status : SlotStatus} (hs : status.phase = .idle) :
    Moves (Played r (.idle i)) s (updateSlot r i fun slot => { slot with status := status }) := by
  refine Moves.update (Played.of_modifySlot ?_)
  simp only [Slot.seat, hs]
  rfl

theorem frame_played (playData : List UInt8) :
    Moves (Played r (.frame i playData)) s
      (updateSlot r i fun slot => { slot with lastScoreFrame := some playData }) :=
  Moves.update (Played.of_modifySlot rfl)

theorem fail_played :
    Moves (Played r (.fail i)) s (updateSlot r i fun slot => { slot with passed := false }) :=
  Moves.update (Played.of_modifySlot rfl)

theorem anySlot_playing (m : Match) :
    (m.anySlot fun slot => decide (slot.status = .playing)) ↔ m.game.Playing := by
  unfold Match.anySlot Game.Playing Match.game Slot.seat
  simp [← Option.ne_none_iff_isSome, playing_iff]

theorem startSlots_game (m : Match) : ({ m.startSlots with inProgress := true } : Match).game =
    m.game.play (.start fun i => decide ((m.slots i).status ≠ .noMap)) := by
  unfold Match.game Match.startSlots Match.mapSlots Game.play
  simp only [Game.mk.injEq, true_and]
  funext i
  simp only [Slot.seat, decide_eq_true_eq, Seat.mk.injEq, true_and, and_true]
  split <;> rfl

theorem unready_seat (slot : Slot) {expected : SlotStatus}
    (h : ∀ status : SlotStatus, status = expected ↔ status.phase = expected.phase) :
    (if slot.status = expected then { slot with status := .notReady } else slot).seat =
      if slot.seat.phase = expected.phase then { slot.seat with phase := .idle } else slot.seat := by
  by_cases hi : slot.status = expected
  · have hphase : slot.seat.phase = expected.phase := (h _).mp hi
    rw [if_pos hphase, if_pos hi]
    rfl
  · have hphase : slot.seat.phase ≠ expected.phase := fun hphase => hi ((h _).mpr hphase)
    rw [if_neg hphase, if_neg hi]

-- What MATCH_COMPLETE and !mp abort make of a match.
def Match.finish (m : Match) (expected : SlotStatus) : Match :=
  { (m.unreadyPlayers expected).resetPlayersLoadedStatus with inProgress := false }

theorem finish_game (m : Match) {expected : SlotStatus}
    (h : ∀ status : SlotStatus, status = expected ↔ status.phase = expected.phase) :
    (m.finish expected).game = m.game.finish expected.phase :=
  congrArg (Game.mk false) (funext fun i => unready_seat (m.slots i) h)

end Slots

section Handlers

variable {r : MatchRef} {play : Play} {s : Server}

theorem Played.within {t : Server} {α : Type} {x : Handler α} (h : Played r play s t)
    (hx : Within Calm x) : Played r play s (x t).2 := h.steady (hx t).steady

-- The slots change, then the match is in progress: only both together are a start.
theorem startMatch_played (r : MatchRef) (s : Server) :
    Moves (Played r (.start fun i => decide (((s.matchAt r).slots i).status ≠ .noMap))) s
      (startMatch r) := by
  unfold startMatch
  refine Moves.read_bind ?_
  unfold Moves
  rw [updateMatch_bind_run, updateMatch_bind_run, modifyMatch_modifyMatch]
  refine Played.within (Played.of_modifyMatch (startSlots_game _)) ?_
  refine Within.read_bind fun t => Moves.lift_bind fun packet _ => ?_
  exact Within.bind (enqueueMatch_calm r _ _ _) (fun _ => enqueueState_calm r true) t

theorem mpAbort_played (r : MatchRef) (s : Server) (h : (s.game r).inProgress) :
    Moves (Played r .abort) s (mpAbort r) := by
  unfold mpAbort
  have hin : (s.matchAt r).inProgress := h
  refine Moves.read_bind ?_
  rw [if_pos hin]
  unfold Moves
  rw [updateMatch_bind_run, updateMatch_bind_run, updateMatch_bind_run, modifyMatch_modifyMatch,
    modifyMatch_modifyMatch]
  refine Played.within (Played.of_modifyMatch (finish_game _ playing_iff)) ?_
  refine Within.bind (enqueueMatch_calm r _ _ _) fun _ => ?_
  exact Within.bind (enqueueState_calm r true) fun _ => within_answer _

theorem inMatch_run {p : PlayerRef} (body : MatchRef → Handler Unit)
    (hr : (s.player p).matchRef = some r) : inMatch p body s = body r s := by
  unfold inMatch
  rw [read_bind_run]
  simp only [hr]

theorem inMatch_run_none {p : PlayerRef} (body : MatchRef → Handler Unit)
    (hr : (s.player p).matchRef = none) : inMatch p body s = (.ok (), s) := by
  unfold inMatch
  rw [read_bind_run]
  simp only [hr]
  rfl

end Handlers

section Packets

-- At most one play.
def Turn : Option (MatchRef × Play) → Server → Server → Prop
  | none, s, t => Steady s t
  | some (r, play), s, t => Played r play s t

-- The match that p is in and has the host of.
def hosted (s : Server) (p : PlayerRef) : Option MatchRef :=
  (s.player p).matchRef.filter fun r => s.players.byId (s.matchAt r).hostId == some p

def ownPlay (s : Server) (p : PlayerRef) (f : Fin 16 → Play) : Option (MatchRef × Play) :=
  (s.player p).matchRef.bind fun r => ((s.matchAt r).getSlotId p).bind fun i => some (r, f i)

theorem toNat_slotId {slotId : Int} (h : 0 ≤ slotId ∧ slotId < 16) : slotId.toNat < 16 := by
  omega

def atSlotId {α : Type} (slotId : Int) (f : Fin 16 → Option α) : Option α :=
  if h : 0 ≤ slotId ∧ slotId < 16 then f ⟨slotId.toNat, toNat_slotId h⟩ else none

def startPlay (s : Server) (r : MatchRef) : MatchRef × Play :=
  (r, .start fun i => decide (((s.matchAt r).slots i).status ≠ .noMap))

def lockPlay (s : Server) (p : PlayerRef) (slotId : Int) : Option (MatchRef × Play) :=
  (hosted s p).bind fun r => atSlotId slotId fun i =>
    if ((s.matchAt r).slots i).status = .locked ∨ ((s.matchAt r).slots i).player = some p then none
    else some (r, .idle i)

def movePlay (s : Server) (p : PlayerRef) (slotId : Int) : Option (MatchRef × Play) :=
  (s.player p).matchRef.bind fun r => atSlotId slotId fun j =>
    if ((s.matchAt r).slots j).status ≠ .open_ then none
    else ((s.matchAt r).getSlotId p).bind fun i => some (r, .move i j)

-- The play a packet makes, if its sender may make it.
def packetPlay (s : Server) (p : PlayerRef) : Packet → Option (MatchRef × Play)
  | .ready | .noBeatmap | .notReady | .hasBeatmap => ownPlay s p .idle
  | .scoreUpdate playData => ownPlay s p fun i => .frame i playData
  | .failed => ownPlay s p .fail
  | .complete => ownPlay s p .complete
  | .start => (hosted s p).bind fun r => some (startPlay s r)
  | .lock slotId => lockPlay s p slotId
  | .changeSlot slotId => movePlay s p slotId
  | _ => none

variable {s : Server} {p : PlayerRef}

theorem Turn.finished {turn : Option (MatchRef × Play)} {handler : Handler Unit}
    (h : Moves (Turn turn) s handler) : Moves (Turn turn) s (BanchoPrism.finished handler) := by
  unfold Moves BanchoPrism.finished
  rcases hrun : handler s with ⟨e | _, t⟩
  · rw [bind_run_error hrun]
    simpa [Moves, hrun] using h
  · rw [bind_run_ok hrun]
    simpa [Moves, hrun] using h

theorem inMatch_turn {body : MatchRef → Handler Unit} {turn : MatchRef → Option (MatchRef × Play)}
    (h : ∀ r, (s.player p).matchRef = some r → Moves (Turn (turn r)) s (body r)) :
    Moves (Turn ((s.player p).matchRef.bind turn)) s (inMatch p body) := by
  unfold Moves inMatch
  rw [read_bind_run]
  rcases hr : (s.player p).matchRef with _ | r
  · exact Steady.refl s
  · exact h r hr

theorem inSlot_turn {body : MatchRef → Fin 16 → Handler Unit} {f : Fin 16 → Play}
    (h : ∀ r i, (s.player p).matchRef = some r → (s.matchAt r).getSlotId p = some i →
      Moves (Played r (f i)) s (body r i)) : Moves (Turn (ownPlay s p f)) s (inSlot p body) := by
  refine inMatch_turn fun r hr => Moves.read_bind ?_
  rcases hi : (s.matchAt r).getSlotId p with _ | i
  · exact Steady.refl s
  · exact h r i hr hi

-- Behind the host check the body runs, or the handler ends as it began.
theorem asHost_turn {body : MatchRef → Handler Unit} {turn : MatchRef → Option (MatchRef × Play)}
    (h : ∀ r, (s.player p).matchRef = some r → Moves (Turn (turn r)) s (body r)) :
    Moves (Turn ((hosted s p).bind turn)) s (asHost p body) := by
  unfold hosted
  rcases hr : (s.player p).matchRef with _ | r
  · unfold Moves asHost
    rw [inMatch_run_none _ hr]
    exact Steady.refl s
  unfold Moves asHost
  rw [inMatch_run _ hr, read_bind_run]
  rcases hhost : matchHost s (s.matchAt r) with e | host
  · have hfound : s.players.byId (s.matchAt r).hostId ≠ some p := fun hp => by
      rw [matchHost_ok.mpr hp] at hhost
      cases hhost
    rw [Option.filter_some_neg (by simpa using hfound)]
    exact Steady.refl s
  rw [bind_run_ok (lift_ok_run host s)]
  have hid := matchHost_ok.mp hhost
  by_cases hp : p = host
  · rw [if_pos hp, Option.filter_some_pos (by simp [hid, hp])]
    exact h r hr
  · have hne : ¬host = p := fun h => hp h.symm
    rw [if_neg hp, Option.filter_some_neg (by simp [hid, hne])]
    exact Steady.refl s

theorem withSlotId_turn {slotId : Int} {body : Fin 16 → Handler Unit}
    {turn : Fin 16 → Option (MatchRef × Play)} (h : ∀ i, Moves (Turn (turn i)) s (body i)) :
    Moves (Turn (atSlotId slotId turn)) s (withSlotId slotId body) := by
  unfold atSlotId withSlotId
  split
  · exact h _
  · exact Steady.refl s

theorem setOwnStatus_turn {status : SlotStatus} (hs : status.phase = .idle) :
    Moves (Turn (ownPlay s p .idle)) s (setOwnStatus p status) :=
  inSlot_turn fun r _ _ _ =>
    Played.bind (ownStatus_played hs) fun _ => enqueueState_calm r false

theorem matchScoreUpdate_turn (playData : List UInt8) :
    Moves (Turn (ownPlay s p fun i => .frame i playData)) s (matchScoreUpdate p playData) :=
  inSlot_turn (f := fun i => .frame i playData) fun r _ _ _ =>
    Played.bind (frame_played playData) fun _ =>
      Within.ite (Within.raise _) (enqueueMatch_calm r _ _ _)

theorem matchFailed_turn : Moves (Turn (ownPlay s p .fail)) s (matchFailed p) :=
  inSlot_turn fun r _ _ _ => Played.bind fail_played fun _ => enqueueMatch_calm r _ _ _

theorem matchStart_turn :
    Moves (Turn ((hosted s p).bind fun r => some (startPlay s r))) s (matchStart p) :=
  asHost_turn fun r _ => startMatch_played r s

-- The slot is complete; when nobody plays any more the game is over.
theorem matchComplete_turn : Moves (Turn (ownPlay s p .complete)) s (matchComplete p) := by
  refine inSlot_turn fun r i _ _ => ?_
  let f : Slot → Slot := fun slot => { slot with status := .complete }
  let t := s.modifySlot r i f
  have hdone : (t.matchAt r).game =
      (s.game r).modifySeat i fun seat => { seat with phase := .complete } :=
    modifySlot_matchAt_game s r i _
  have hplaying := anySlot_playing (t.matchAt r)
  unfold Moves
  rw [updateSlot_bind_run, read_bind_run]
  dsimp only
  by_cases hany : (t.matchAt r).anySlot fun slot => decide (slot.status = .playing)
  · have hgoes := hplaying.mp hany
    rw [if_pos hany]
    rw [hdone] at hgoes
    show Played r (.complete i) s t
    exact Played.of_modifySlot (if_pos hgoes).symm
  · have hover := mt hplaying.mpr hany
    rw [if_neg hany, updateMatch_bind_run, updateMatch_bind_run, updateMatch_bind_run,
      modifyMatch_modifyMatch, modifyMatch_modifyMatch]
    refine Played.within (t := t.modifyMatch r fun m => m.finish .complete) ?_
      (Within.bind (enqueueMatch_calm r _ _ _) fun _ => enqueueState_calm r true)
    rw [hdone] at hover
    have htwo : t.modifyMatch r (fun m => m.finish .complete) = s.modifyMatch r fun m =>
        ({ m with slots := Function.update m.slots i (f (m.slots i)) } : Match).finish .complete :=
      modifyMatch_modifyMatch s r _ _
    rw [htwo]
    refine Played.of_modifyMatch ?_
    rw [finish_game _ complete_iff, modifySlot_game (s.matchAt r) i f]
    exact (if_neg hover).symm

theorem unlock_steady {r : MatchRef} {i : Fin 16} (h : ((s.matchAt r).slots i).status = .locked) :
    Steady s (s.modifySlot r i fun slot => { slot with status := .open_ }) where
  game r' := by
    unfold Server.modifySlot
    rw [Server.modifyMatch_game]
    split
    · rename_i hr
      subst hr
      have hseat : ({ (s.matchAt r').slots i with status := .open_ } : Slot).seat =
          ((s.matchAt r').slots i).seat := by simp only [Slot.seat, h, SlotStatus.phase]
      refine (modifySlot_game _ i fun slot => { slot with status := .open_ }).trans ?_
      unfold Game.modifySeat Server.game Match.game
      rw [hseat, Function.update_eq_self]
    · rfl
  place _ := rfl
  matchList := rfl
  nextMatch := rfl
  listed hl := hl

theorem matchLock_turn (slotId : Int) :
    Moves (Turn (lockPlay s p slotId)) s (matchLock p slotId) := by
  refine asHost_turn fun r _ => withSlotId_turn fun i => Moves.read_bind ?_
  dsimp only
  by_cases hlocked : ((s.matchAt r).slots i).status = .locked
  · rw [if_pos hlocked, if_pos (Or.inl hlocked)]
    show Moves Steady s _
    exact Moves.update_bind (unlock_steady hlocked) ((enqueueState_calm r true).steady _)
  rw [if_neg hlocked]
  by_cases hown : ((s.matchAt r).slots i).player = some p
  · rw [if_pos hown, if_pos (Or.inr hown)]
    exact Steady.refl s
  · rw [if_neg hown, if_neg (not_or.mpr ⟨hlocked, hown⟩)]
    exact Played.bind (ownStatus_played rfl) fun _ => enqueueState_calm r true

theorem move_played {r : MatchRef} (i j : Fin 16) :
    Played r (.move i j) s ((s.modifySlot r j fun slot =>
      slot.copyFrom ((s.matchAt r).slots i)).modifySlot r i fun _ => Slot.reset .open_) := by
  unfold Server.modifySlot
  rw [modifyMatch_modifyMatch]
  refine Played.of_modifyMatch ?_
  rw [modifySlot_game _ i fun _ => Slot.reset .open_,
    modifySlot_game _ j fun slot => slot.copyFrom ((s.matchAt r).slots i)]
  rfl

theorem matchChangeSlot_turn (slotId : Int) :
    Moves (Turn (movePlay s p slotId)) s (matchChangeSlot p slotId) := by
  refine inMatch_turn fun r _ => withSlotId_turn fun j => Moves.read_bind ?_
  dsimp only
  by_cases hopen : ((s.matchAt r).slots j).status ≠ .open_
  · rw [if_pos hopen, if_pos hopen]
    exact Steady.refl s
  rw [if_neg hopen, if_neg hopen]
  rcases hi : (s.matchAt r).getSlotId p with _ | i
  · exact Steady.refl s
  · show Moves (Played r (.move i j)) s _
    dsimp only
    unfold Moves
    rw [updateSlot_bind_run, updateSlot_bind_run]
    exact Played.within (move_played i j) (enqueueState_calm r true)

theorem packetPlay_turn {packet : Packet} (h : packet.playing ∨ (∃ slotId, packet = .lock slotId) ∨
    ∃ slotId, packet = .changeSlot slotId) (clock : Clock) :
    Moves (Turn (packetPlay s p packet)) s (packet.handle p clock) := by
  rcases h with h | ⟨slotId, rfl⟩ | ⟨slotId, rfl⟩
  · cases packet with
    | ready => exact Turn.finished (setOwnStatus_turn rfl)
    | noBeatmap => exact Turn.finished (setOwnStatus_turn rfl)
    | notReady => exact Turn.finished (setOwnStatus_turn rfl)
    | hasBeatmap => exact Turn.finished (setOwnStatus_turn rfl)
    | scoreUpdate playData => exact Turn.finished (matchScoreUpdate_turn playData)
    | failed => exact Turn.finished matchFailed_turn
    | complete => exact Turn.finished matchComplete_turn
    | start => exact Turn.finished matchStart_turn
    | _ => cases h
  · exact Turn.finished (matchLock_turn slotId)
  · exact Turn.finished (matchChangeSlot_turn slotId)

end Packets

end BanchoPrism
