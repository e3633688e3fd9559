import BanchoPrism.Multiplayer.Lenient.Events
import BanchoPrism.Multiplayer.SeatsAgree

namespace BanchoPrism

open Library Prog

section Splits

-- Mods that change the speed, and nothing else.
def Mods.OnlySpeed (mods : Mods) : Prop := mods &&& Mods.SPEED_CHANGING_MODS = mods

def Mods.NoSpeed (mods : Mods) : Prop := mods &&& Mods.SPEED_CHANGING_MODS = 0

instance Mods.OnlySpeed.decidable (mods : Mods) : Decidable mods.OnlySpeed :=
  inferInstanceAs (Decidable (_ = _))

instance Mods.NoSpeed.decidable (mods : Mods) : Decidable mods.NoSpeed :=
  inferInstanceAs (Decidable (_ = _))

theorem Mods.onlySpeed_and (mods : Mods) : (mods &&& Mods.SPEED_CHANGING_MODS).OnlySpeed := by
  unfold Mods.OnlySpeed
  rw [Nat.and_assoc, Nat.and_self]

theorem Mods.noSpeed_and_invert (mods : Mods) :
    (mods &&& Mods.invert Mods.SPEED_CHANGING_MODS).NoSpeed := by
  have hdisjoint : Mods.invert Mods.SPEED_CHANGING_MODS &&& Mods.SPEED_CHANGING_MODS = 0 := by
    decide
  unfold Mods.NoSpeed
  rw [Nat.and_assoc, hdisjoint, Nat.and_zero]

theorem Mods.OnlySpeed.without {mods : Mods} (h : mods.OnlySpeed) :
    mods.without Mods.SPEED_CHANGING_MODS = Mods.NOMOD := by
  have hdisjoint : Mods.SPEED_CHANGING_MODS &&& Mods.invert Mods.SPEED_CHANGING_MODS = 0 := by
    decide
  unfold Mods.without
  rw [← h, Nat.and_assoc, hdisjoint, Nat.and_zero]
  rfl

theorem Mods.noSpeed_nomod : Mods.NOMOD.NoSpeed := by decide

-- How the mods are split between a match and its slots.
def Match.ModsSplit (m : Match) : Prop :=
  if m.freemods then m.mods.OnlySpeed ∧ ∀ i, (m.slots i).mods.NoSpeed
  else ∀ i, (m.slots i).mods = Mods.NOMOD

instance Match.ModsSplit.decidable (m : Match) : Decidable m.ModsSplit :=
  inferInstanceAs (Decidable (if m.freemods then _ else _))

-- A slot with mods of its own has a player, and freemods are on.
def Slot.Fits (slot : Slot) (freemods : Bool) : Prop :=
  slot.mods = Mods.NOMOD ∨ freemods ∧ slot.mods.NoSpeed ∧ slot.player.isSome

structure Match.Tidy (m : Match) : Prop where
  mods : m.freemods → m.mods.OnlySpeed
  slots : ∀ i, (m.slots i).Fits m.freemods

def Server.Tidy (s : Server) : Prop := ∀ r, (s.matchAt r).Tidy

def KeepsTidy (s t : Server) : Prop := s.Tidy → t.Tidy

instance : Std.Refl KeepsTidy := ⟨fun _ => id⟩
instance : IsTrans Server KeepsTidy := ⟨fun _ _ _ h h' hs => h' (h hs)⟩

theorem Match.Tidy.modsSplit {m : Match} (h : m.Tidy) : m.ModsSplit := by
  unfold Match.ModsSplit
  split
  · rename_i hon
    refine ⟨h.mods hon, fun i => ?_⟩
    rcases h.slots i with hnone | ⟨-, hspeed, -⟩
    · exact hnone ▸ Mods.noSpeed_nomod
    · exact hspeed
  · rename_i hoff
    intro i
    rcases h.slots i with hnone | ⟨hon, -⟩
    · exact hnone
    · exact absurd hon hoff

end Splits

section Updates

variable {s : Server} {r : MatchRef} {f : Match → Match}

theorem Server.Tidy.modifyMatch (h : s.Tidy) (hf : (f (s.matchAt r)).Tidy) :
    (s.modifyMatch r f).Tidy := by
  intro r'
  by_cases hr : r' = r
  · subst hr
    simpa [Server.modifyMatch] using hf
  · simpa [Server.modifyMatch, hr] using h r'

theorem Server.Tidy.modifySlot (h : s.Tidy) {i : Fin 16} {f : Slot → Slot}
    (hf : (f ((s.matchAt r).slots i)).Fits (s.matchAt r).freemods) : (s.modifySlot r i f).Tidy := by
  refine h.modifyMatch ⟨(h r).mods, fun j => ?_⟩
  by_cases hj : j = i
  · subst hj
    simpa using hf
  · simpa [hj] using (h r).slots j

-- Whoever comes or goes, a slot without a player has no mods.
theorem keepsTidy_lenient : Lenient (fun _ => True) KeepsTidy where
  cleared := trivial
  work hwork h r := by
    rw [hwork.matchAt]
    exact h r
  plain := by
    intro s r f hplain h
    refine h.modifyMatch ⟨fun hon => ?_, fun i => ?_⟩
    · rw [hplain.freemods] at hon
      exact hplain.mods ▸ (h r).mods hon
    · have hslot := hplain.slots i
      unfold Slot.Fits
      rw [hslot.mods, hslot.player, hplain.freemods]
      exact (h r).slots i
  player _ h := h
  players _ h := h
  matchList _ _ h := h
  seat := by
    intro s r i p f hplayer _ hmods h
    refine h.modifySlot ?_
    unfold Slot.Fits
    rw [hmods, hplayer]
    exact ((h r).slots i).imp id fun ⟨hon, hspeed, _⟩ => ⟨hon, hspeed, rfl⟩
  reset _ _ h := h.modifySlot (.inl rfl)
  copy s r i j h := h.modifySlot ((h r).slots i)

end Updates

section Switching

variable {s : Server} {r : MatchRef} {i : Fin 16}

-- The slot of the host, if switching freemods off will find one.
def hostSlot (s : Server) (r : MatchRef) : Option (Fin 16) :=
  match s.hostSlotId (s.matchAt r) with
  | .ok found => found
  | .error _ => none

theorem changeFreemods_on (r : MatchRef) (s : Server) : changeFreemods r true s =
    (.ok (), s.modifyMatch r fun m => freemodsOn { m with freemods := true }) := by
  unfold changeFreemods
  rw [updateMatch_bind_run, if_pos rfl]
  exact congrArg (Prod.mk _) (modifyMatch_modifyMatch s r _ _)

theorem changeFreemods_off_seated (h : hostSlot s r = some i) : changeFreemods r false s =
    (.ok (), s.modifyMatch r fun m => freemodsOff { m with freemods := false } i) := by
  have hhost : s.hostSlotId (s.matchAt r) = .ok (some i) := by
    unfold hostSlot at h
    split at h
    · rw [← h]
      assumption
    · cases h
  let t := s.modifyMatch r fun m => { m with freemods := false }
  have hat : t.matchAt r = { s.matchAt r with freemods := false } := by simp [t, Server.modifyMatch]
  have hhost' : t.hostSlotId (t.matchAt r) = .ok (some i) := by
    rw [hat]
    exact hhost
  unfold changeFreemods
  rw [updateMatch_bind_run, if_neg Bool.false_ne_true, read_bind_run, hhost',
    bind_run_ok (lift_ok_run _ _)]
  exact congrArg (Prod.mk (Except.ok ())) (modifyMatch_modifyMatch s r _ fun m => freemodsOff m i)

theorem changeFreemods_off_raises (h : hostSlot s r = none) :
    ∃ e, changeFreemods r false s =
      (.error e, s.modifyMatch r fun m => { m with freemods := false }) := by
  let t := s.modifyMatch r fun m => { m with freemods := false }
  have hat : t.matchAt r = { s.matchAt r with freemods := false } := by simp [t, Server.modifyMatch]
  have hsame : t.hostSlotId (t.matchAt r) = s.hostSlotId (s.matchAt r) := by
    rw [hat]
    rfl
  unfold changeFreemods
  rw [updateMatch_bind_run, if_neg Bool.false_ne_true, read_bind_run, hsame]
  unfold hostSlot at h
  split at h
  · rename_i found hfound
    subst h
    rw [hfound, bind_run_ok (lift_ok_run _ _)]
    exact ⟨_, rfl⟩
  · rename_i e hfound
    rw [hfound]
    exact ⟨e, rfl⟩

theorem changeFreemods_off_unseated (h : hostSlot s r = none) : (changeFreemods r false s).2 =
    s.modifyMatch r fun m => { m with freemods := false } := by
  obtain ⟨e, hrun⟩ := changeFreemods_off_raises h
  rw [hrun]

theorem mapPlayers_fits {m : Match} {f : Slot → Slot} {old new : Bool}
    (hf : ∀ slot, slot.player.isSome → (f slot).Fits new) (hm : ∀ i, (m.slots i).Fits old)
    (i : Fin 16) : ((m.mapPlayers f).slots i).Fits new := by
  show (if (m.slots i).player.isSome then f (m.slots i) else m.slots i).Fits new
  split
  · exact hf _ ‹_›
  · rename_i hvacant
    exact .inl (((hm i).resolve_right fun h => hvacant h.2.2))

theorem Match.Tidy.freemodsOn {m : Match} (h : m.Tidy) :
    (BanchoPrism.freemodsOn { m with freemods := true }).Tidy := by
  refine ⟨fun _ => Mods.onlySpeed_and _, ?_⟩
  refine mapPlayers_fits (m := { m with freemods := true })
    (f := fun slot => { slot with mods := m.mods.without Mods.SPEED_CHANGING_MODS })
    (fun slot hplayer => ?_) h.slots
  exact .inr ⟨rfl, Mods.noSpeed_and_invert _, hplayer⟩

theorem Match.Tidy.cleared {m : Match} (h : m.Tidy) (mods : Mods) :
    ({ m.mapPlayers fun slot => { slot with mods := Mods.NOMOD } with
      freemods := false, mods := mods } : Match).Tidy := by
  refine ⟨fun hon => absurd hon Bool.false_ne_true, ?_⟩
  exact mapPlayers_fits (f := fun slot => { slot with mods := Mods.NOMOD }) (fun _ _ => .inl rfl)
    h.slots

-- Switching freemods off leaves the mods of the slots behind if the host has none.
def MaySwitch (s : Server) (r : MatchRef) (freemods : Bool) : Prop :=
  freemods ∨ (hostSlot s r).isSome ∨ ∀ i, ((s.matchAt r).slots i).mods = Mods.NOMOD

instance MaySwitch.decidable (s : Server) (r : MatchRef) (freemods : Bool) :
    Decidable (MaySwitch s r freemods) := inferInstanceAs (Decidable (_ ∨ _ ∨ _))

theorem changeFreemods_tidy {freemods : Bool} (h : MaySwitch s r freemods) :
    Moves KeepsTidy s (changeFreemods r freemods) := by
  intro htidy
  cases freemods with
  | true =>
    rw [changeFreemods_on]
    dsimp only
    refine htidy.modifyMatch ?_
    exact (htidy r).freemodsOn
  | false =>
    cases hi : hostSlot s r with
    | some i =>
      rw [changeFreemods_off_seated hi]
      dsimp only
      refine htidy.modifyMatch ?_
      exact (htidy r).cleared _
    | none =>
      have hnone : ∀ i, ((s.matchAt r).slots i).mods = Mods.NOMOD := by
        simpa [MaySwitch, hi] using h
      rw [changeFreemods_off_unseated hi]
      refine htidy.modifyMatch ⟨fun hon => absurd hon Bool.false_ne_true, fun i => ?_⟩
      exact .inl (hnone i)

end Switching

section Mods

variable {s : Server} {r : MatchRef}

theorem setSlotMods_tidy (p : PlayerRef) {mods : Mods} (hmods : mods.NoSpeed)
    (hon : (s.matchAt r).freemods) : Moves KeepsTidy s (setSlotMods p r mods) := by
  refine Moves.read_bind ?_
  split
  · rename_i i hi
    have hplayer : ((s.matchAt r).slots i).player.isSome := by
      rw [getSlotId_player hi]
      rfl
    refine Moves.update fun htidy => htidy.modifySlot ?_
    exact .inr ⟨hon, hmods, hplayer⟩
  · exact Moves.raise _

-- With freemods the host decides on the speed, before everyone sets mods of their own.
theorem hostMods_tidy {α : Type} {body : Handler α} {c : Prop} [Decidable c] {mods : Mods}
    (hmods : mods.OnlySpeed) (hon : (s.matchAt r).freemods)
    (hbody : ∀ t : Server, (t.matchAt r).freemods → Moves KeepsTidy t body) :
    Moves KeepsTidy s (do
      Prog.onlyIf c (updateMatch r fun m => { m with mods := mods })
      body) := by
  by_cases hc : c
  · have hkept : ((s.modifyMatch r fun m => { m with mods := mods }).matchAt r).freemods := by
      simpa [Server.modifyMatch] using hon
    rw [Prog.onlyIf, if_pos hc]
    refine Moves.update_bind (fun htidy => htidy.modifyMatch ?_) (hbody _ hkept)
    exact ⟨fun _ => hmods, (htidy r).slots⟩
  · rw [Prog.onlyIf, if_neg hc]
    exact hbody s hon

theorem matchMods_tidy {mods : Mods} (hoff : ¬(s.matchAt r).freemods) :
    Moves KeepsTidy s (updateMatch r fun m => { m with mods := mods }) := by
  refine Moves.update fun htidy => htidy.modifyMatch ?_
  exact ⟨fun hon => absurd hon hoff, (htidy r).slots⟩

theorem matchChangeMods_tidy (p : PlayerRef) (mods : Int) :
    Within KeepsTidy (matchChangeMods p mods) := by
  have hR := keepsTidy_lenient
  refine within_inMatch fun r => Within.read_bind fun s => Moves.lift_bind fun host _ => ?_
  refine Moves.ite (fun hon => ?_) fun hoff => Moves.ite (fun _ => ?_) fun _ => Moves.pure ()
  · refine hostMods_tidy (Mods.onlySpeed_and _) hon fun t hon => ?_
    refine Moves.bind (setSlotMods_tidy p ?_ hon) fun _ u _ => hR.along (enqueueState_work r true) u
    exact Mods.noSpeed_and_invert _
  · exact Moves.bind (matchMods_tidy hoff) fun _ u _ => hR.along (enqueueState_work r true) u

theorem setCommandMods_tidy (p : PlayerRef) (r : MatchRef) (mods : Mods) :
    Within KeepsTidy (setCommandMods p r mods) := by
  refine Within.read_bind fun s => Moves.ite (fun hon => ?_) fun hoff => matchMods_tidy hoff
  refine Moves.lift_bind fun host _ => hostMods_tidy (Mods.onlySpeed_and _) hon fun t hon => ?_
  exact setSlotMods_tidy p (Mods.noSpeed_and_invert _) hon

theorem mpMods_tidy (ctx : Context) (r : MatchRef) : Within KeepsTidy (mpMods ctx r) := by
  have hR := keepsTidy_lenient
  refine within_oneArg fun arg => Within.ite (within_answer _) (Within.read_bind fun s => ?_)
  refine Within.moves (Within.bind (setCommandMods_tidy ctx.player r _) fun _ => ?_)
  exact Within.bind (hR.along (enqueueState_work r true)) fun _ => within_answer _

theorem mpFreemods_tidy {ctx : Context}
    (h : ∀ arg, ctx.args = [arg] → MaySwitch s r (arg ≠ "off")) :
    Moves KeepsTidy s (mpFreemods ctx r) := by
  have hR := keepsTidy_lenient
  unfold mpFreemods oneArg
  split
  · rename_i arg harg
    refine Moves.ite (fun hknown => ?_) fun _ => within_answer _ s
    have hsame : decide (arg = "on") = decide (arg ≠ "off") := by
      rcases hknown with rfl | rfl <;> decide
    refine Moves.bind (changeFreemods_tidy (hsame ▸ h arg harg)) fun _ t _ => ?_
    exact Within.bind (hR.along (enqueueState_work r true)) (fun _ => within_answer _) t
  · exact within_answer _ s

-- Freemods are off by the time that the match gets its mods.
theorem pickedMods_tidy {α : Type} {body : Handler α} (r : MatchRef) (mods : Mods)
    (hbody : Within KeepsTidy body) : Within KeepsTidy (do
      updateMatch r fun m =>
        if m.freemods then
          { m.mapPlayers fun slot => { slot with mods := Mods.NOMOD } with freemods := false }
        else m
      updateMatch r fun m => { m with mods := mods }
      body) := by
  intro s
  unfold Moves
  rw [updateMatch_bind_run, updateMatch_bind_run, modifyMatch_modifyMatch]
  refine trans_of KeepsTidy (fun htidy => htidy.modifyMatch ?_) (hbody _)
  by_cases hon : (s.matchAt r).freemods
  · rw [if_pos hon]
    exact (htidy r).cleared mods
  · rw [if_neg hon]
    exact ⟨fun h => absurd h hon, (htidy r).slots⟩

theorem resumePickMap_tidy (r : MatchRef) (modsSlot : String) (mods : Mods)
    (found : Option Beatmap) : Within KeepsTidy (resumePickMap r modsSlot mods found) := by
  have hR := keepsTidy_lenient
  cases found with
  | none => exact within_answer _
  | some bmap =>
    refine Within.bind (hR.updateMatch fun m => Plain.of_map trivial rfl) fun _ => ?_
    refine pickedMods_tidy r mods (Within.bind (hR.along (enqueueState_work r true)) fun _ => ?_)
    exact Within.read_bind fun t => within_answer _ t

theorem registerMatch_tidy (id : Fin 64) {m : Match} (hm : m.Tidy) :
    Within KeepsTidy (registerMatch id m) := by
  refine registerMatch_lenient keepsTidy_lenient.tolerant fun t h r => ?_
  by_cases hr : r = t.nextMatch
  · subst hr
    simpa using hm
  · simpa [hr] using h r

end Mods

section Steps

variable {s : Server}

-- The match whose freemods a settings packet switches.
def switched (s : Server) (p : PlayerRef) (data : MultiplayerMatch) : Option MatchRef := do
  let r ← (s.player p).matchRef
  let host ← (matchHost s (s.matchAt r)).toOption
  if validateMatchData data (s.player p).id ∧ p = host ∧
      data.freemods ≠ (s.matchAt r).freemods then
    some r
  else none

-- What a message gives to !mp freemods, and the match it is for.
def switchedBy : Option (MpCommand × List String × MatchRef) → Option (MatchRef × String)
  | some (.freemods, [arg], r) => some (r, arg)
  | _ => none

-- A match that is made with freemods is given only mods that change the speed, and freemods go
-- off where the host has a slot.
def Packet.Splits (s : Server) (p : PlayerRef) (clock : Clock) : Packet → Prop
  | .createMatch data =>
      (created s p data clock.now).isSome ∧ data.freemods → (Mods.ofInt data.mods).OnlySpeed
  | .changeSettings data => ∀ r ∈ switched s p data, MaySwitch s r data.freemods
  | .sendMessage text recipient mp =>
      ∀ given ∈ switchedBy (commanded s p clock.now text recipient mp),
        MaySwitch s given.1 (given.2 ≠ "off")
  | _ => True

instance Packet.Splits.decidable (s : Server) (p : PlayerRef) (clock : Clock) (packet : Packet) :
    Decidable (packet.Splits s p clock) :=
  match packet with
  | .createMatch data =>
      inferInstanceAs (Decidable ((created s p data clock.now).isSome ∧ data.freemods →
        (Mods.ofInt data.mods).OnlySpeed))
  | .changeSettings data =>
      inferInstanceAs (Decidable (∀ r ∈ switched s p data, MaySwitch s r data.freemods))
  | .sendMessage text recipient mp =>
      inferInstanceAs (Decidable (∀ given ∈ switchedBy
        (commanded s p clock.now text recipient mp), MaySwitch s given.1 (given.2 ≠ "off")))
  | .logout | .partLobby | .joinLobby | .joinMatch _ _ | .partMatch | .changeSlot _ | .ready
  | .lock _ | .start | .scoreUpdate _ | .complete | .changeMods _ | .loadComplete | .noBeatmap
  | .notReady | .failed | .hasBeatmap | .skipRequest | .channelJoin _ | .channelPart _
  | .transferHost _ | .tourneyMatchInfo _ | .tourneyJoinChannel _ | .tourneyLeaveChannel _
  | .changeTeam | .invite _ | .changePassword _ | .startSpectating _ | .stopSpectating
  | .cantSpectate => isTrue trivial

def Event.Splits (w : World) : Event → Prop
  | .packet p request clock => request.Splits w.server p clock
  | _ => True

instance Event.Splits.decidable (w : World) (event : Event) : Decidable (event.Splits w) :=
  match event with
  | .packet p request clock => inferInstanceAs (Decidable (request.Splits w.server p clock))
  | .login _ | .resume _ _ _ | .startTimer _ | .disconnect _ | .silence _ _ _ => isTrue trivial

theorem newMatch_mods {id : Fin 64} {chat : ChannelRef} {m : Match} {data : MultiplayerMatch}
    (h : newMatch data id chat = .ok m) :
    m.freemods = data.freemods ∧ m.mods = Mods.ofInt data.mods := by
  obtain ⟨mode, -, h⟩ := of_bind_ok h
  obtain ⟨winCondition, -, h⟩ := of_bind_ok h
  obtain ⟨teamType, -, h⟩ := of_bind_ok h
  cases h
  exact ⟨rfl, rfl⟩

theorem newMatch_tidy {id : Fin 64} {chat : ChannelRef} {m : Match} {data : MultiplayerMatch}
    (h : newMatch data id chat = .ok m)
    (hspeed : data.freemods → (Mods.ofInt data.mods).OnlySpeed) : m.Tidy := by
  obtain ⟨hfreemods, hmods⟩ := newMatch_mods h
  obtain ⟨-, -, -, -, -, -, hslots⟩ := newMatch_ok h
  refine ⟨fun hon => ?_, fun i => .inl ?_⟩
  · rw [hmods]
    exact hspeed (hfreemods ▸ hon)
  · rw [hslots i]

theorem MpCommand.run_tidy {ctx : Context} {r : MatchRef} {command : MpCommand}
    (h : ∀ arg, command = .freemods → ctx.args = [arg] → MaySwitch s r (arg ≠ "off")) :
    Moves KeepsTidy s (command.run ctx r) := by
  by_cases hmods : command = .mods
  · subst hmods
    exact mpMods_tidy ctx r s
  by_cases hfreemods : command = .freemods
  · subst hfreemods
    exact mpFreemods_tidy fun arg => h arg rfl
  · exact MpCommand.run_lenient keepsTidy_lenient ctx r hmods hfreemods s

theorem Packet.handle_tidy {packet : Packet} {p : PlayerRef} {clock : Clock}
    (h : packet.Splits s p clock) (hmodding : packet.modding) :
    Moves KeepsTidy s (packet.handle p clock) := by
  have hR := keepsTidy_lenient
  cases packet with
  | createMatch data =>
    refine Moves.bind (matchCreate_lenient hR.tolerant p clock.now fun m hm id => ?_) fun _ _ _ =>
      Moves.pure none
    obtain ⟨k, hnew⟩ := created_eq_some hm
    refine registerMatch_tidy id (newMatch_tidy hnew fun hon => h ⟨?_, hon⟩)
    exact Option.isSome_iff_exists.mpr ⟨m, hm⟩
  | changeSettings data =>
    refine Moves.bind ?_ fun _ _ _ => Moves.pure _
    refine matchChangeSettings_restating hR.toRestating p data fun r hr hhost hvalid hswitch => ?_
    refine changeFreemods_tidy (h r ?_)
    simp [switched, hr, hhost, hvalid, hswitch, Except.toOption]
  | changeMods mods =>
    exact Moves.bind (matchChangeMods_tidy p mods s) fun _ _ _ => Moves.pure none
  | sendMessage text recipient mp =>
    refine sendMessage_lenient hR p text recipient mp clock ?_
    intro sent given hgiven _ ctx _ hargs
    obtain ⟨command, args, r⟩ := given
    refine MpCommand.run_tidy fun arg hcommand harg => ?_
    have hfound : (r, arg) ∈ switchedBy (commanded s p clock.now text recipient mp) := by
      obtain rfl : args = [arg] := hargs.symm.trans harg
      subst hcommand
      rw [Option.mem_def.mp hgiven]
      rfl
    exact h (r, arg) hfound
  | _ => cases hmodding

theorem login_tidy (profile : Profile) : Within KeepsTidy (login profile) := by
  intro s htidy
  obtain ⟨players, h⟩ := playersAppend_eq s.nextPlayer (freshSession s profile)
  rw [login_run, h]
  exact htidy

theorem step_tidy {w : World} {event : Event} (h : event.Splits w) :
    KeepsTidy w.server (w.step event).server := by
  refine keepsTidy_lenient.step (fun profile _ => login_tidy profile w.server) ?_ ?_
  · rintro p packet clock rfl hmodding
    exact Packet.handle_tidy h hmodding
  · rintro i found elapsed next rfl -
    have hpick := fun r modsSlot mods => resumePickMap_tidy r modsSlot mods found.beatmap
    exact next.resume_lenient keepsTidy_lenient (fun _ _ _ => trivial) (fun _ _ => trivial)
      (fun _ r modsSlot mods _ _ => hpick r modsSlot mods) elapsed

theorem start_tidy (setup : Setup) : setup.start.server.Tidy := by
  intro r
  rw [(start_matches setup).2]
  exact ⟨fun hon => absurd hon Bool.false_ne_true, fun _ => .inl rfl⟩

theorem run_tidy (setup : Setup) {run : List Event}
    (h : Guarded World.step (fun w event => event.Splits w) setup.start run) :
    (runFrom World.step setup.start run).server.Tidy :=
  Guarded.invariant (fun w => w.server.Tidy) (fun _ _ hw hsplits => step_tidy hsplits hw)
    (start_tidy setup) h

end Steps

section Paths

variable {s : Server} {p : PlayerRef} {r : MatchRef}

-- match.mods and the mods of the slots
def Match.allMods (m : Match) : Mods × (Fin 16 → Mods) := (m.mods, fun i => (m.slots i).mods)

def SameMods (s t : Server) : Prop := ∀ r, (t.matchAt r).allMods = (s.matchAt r).allMods

instance : Std.Refl SameMods := ⟨fun _ _ => rfl⟩
instance : IsTrans Server SameMods := ⟨fun _ _ _ h h' r => (h' r).trans (h r)⟩

theorem sameMods_restating : Restating (fun _ => True) SameMods where
  cleared := trivial
  work h r := by rw [h.matchAt]
  plain := by
    intro s r f hplain r'
    by_cases hr : r' = r
    · subst hr
      have hslots : ∀ i, ((f (s.matchAt r')).slots i).mods = ((s.matchAt r').slots i).mods :=
        fun i => (hplain.slots i).mods
      simp [Match.allMods, Server.modifyMatch, hplain.mods, hslots]
    · simp [Server.modifyMatch, hr]

theorem sameMods_after {α β : Type} (x : Handler α) {f : α → Handler β}
    (h : ∀ a, Within SameMods (f a)) (s : Server) : SameMods (x s).2 ((x >>= f) s).2 := by
  rw [bind_run]
  rcases x s with ⟨e | a, t⟩
  · exact refl_of SameMods t
  · exact h a t

-- Switching freemods to what they are would change nothing.
def Settled (s : Server) (r : MatchRef) (freemods : Bool) : Prop :=
  freemods = (s.matchAt r).freemods →
    if freemods then ∀ i, ((s.matchAt r).slots i).mods = Mods.NOMOD
    else hostSlot s r = none ∨ (s.matchAt r).mods.OnlySpeed

theorem modifyMatch_allMods (s : Server) (r : MatchRef) (f : Match → Match) :
    ((s.modifyMatch r f).matchAt r).allMods = (f (s.matchAt r)).allMods := by
  simp [Server.modifyMatch]

theorem Match.allMods_eq_iff {m m' : Match} : m'.allMods = m.allMods ↔
    m'.mods = m.mods ∧ ∀ i, (m'.slots i).mods = (m.slots i).mods := by
  unfold Match.allMods
  rw [Prod.mk.injEq, funext_iff]

-- A slot without a player has no mods to lose.
theorem clearedSlots_iff {m : Match} (h : m.Tidy) :
    (∀ i, (if (m.slots i).player.isSome then { m.slots i with mods := Mods.NOMOD }
      else m.slots i).mods = (m.slots i).mods) ↔ ∀ i, (m.slots i).mods = Mods.NOMOD := by
  refine forall_congr' fun i => ?_
  split
  · exact eq_comm
  · rename_i hvacant
    have hnone := (h.slots i).resolve_right fun hown => hvacant hown.2.2
    exact ⟨fun _ => hnone, fun _ => rfl⟩

theorem freemodsOn_same_iff {m : Match} (h : m.Tidy) (hon : m.freemods) :
    (freemodsOn { m with freemods := true }).allMods = m.allMods ↔
      ∀ i, (m.slots i).mods = Mods.NOMOD := by
  have hspeed := h.mods hon
  rw [Match.allMods_eq_iff, ← clearedSlots_iff h, ← hspeed.without]
  exact and_iff_right hspeed

theorem freemodsOff_same_iff {m : Match} (h : m.Tidy) (hoff : ¬m.freemods) (i : Fin 16) :
    (freemodsOff { m with freemods := false } i).allMods = m.allMods ↔ m.mods.OnlySpeed := by
  have hnone : ∀ i, (m.slots i).mods = Mods.NOMOD := fun i =>
    (h.slots i).resolve_right fun hown => hoff hown.1
  have hmods : (freemodsOff { m with freemods := false } i).mods =
      m.mods &&& Mods.SPEED_CHANGING_MODS := by
    show m.mods &&& Mods.SPEED_CHANGING_MODS ||| (m.slots i).mods = _
    rw [hnone i]
    exact Nat.or_zero _
  rw [Match.allMods_eq_iff, hmods]
  exact and_iff_left ((clearedSlots_iff h).mpr hnone)

theorem changeFreemods_same_iff (h : s.Tidy) :
    ((changeFreemods r (s.matchAt r).freemods s).2.matchAt r).allMods = (s.matchAt r).allMods ↔
      Settled s r (s.matchAt r).freemods := by
  unfold Settled
  rw [forall_prop_of_true rfl]
  cases hfreemods : (s.matchAt r).freemods with
  | true =>
    rw [changeFreemods_on, modifyMatch_allMods, if_pos rfl]
    exact freemodsOn_same_iff (h r) hfreemods
  | false =>
    rw [if_neg Bool.false_ne_true]
    cases hslot : hostSlot s r with
    | none =>
      rw [changeFreemods_off_unseated hslot, modifyMatch_allMods]
      exact ⟨fun _ => .inl rfl, fun _ => rfl⟩
    | some i =>
      have hoff : ¬(s.matchAt r).freemods := by simp [hfreemods]
      rw [changeFreemods_off_seated hslot, modifyMatch_allMods,
        freemodsOff_same_iff (h r) hoff i]
      exact (or_iff_right (Option.some_ne_none i)).symm

-- The mods that the settings packet of a host and !mp freemods leave.
def SwitchesAgree (s : Server) (p : PlayerRef) (r : MatchRef) (data : MultiplayerMatch)
    (ctx : Context) : Prop :=
  let before := (s.matchAt r).allMods
  let byPacket := ((matchChangeSettings p data s).2.matchAt r).allMods
  let byCommand := ((mpFreemods ctx r s).2.matchAt r).allMods
  byCommand = byPacket ∧
    (data.freemods = (s.matchAt r).freemods → byPacket = before ∧ byCommand = before)

def freemodsArg (freemods : Bool) : String := if freemods then "on" else "off"

theorem mpFreemods_mods {ctx : Context} {freemods : Bool} (h : ctx.args = [freemodsArg freemods]) :
    SameMods (changeFreemods r freemods s).2 (mpFreemods ctx r s).2 := by
  have hknown : freemodsArg freemods = "on" ∨ freemodsArg freemods = "off" := by
    cases freemods
    · exact .inr rfl
    · exact .inl rfl
  have hon : decide (freemodsArg freemods = "on") = freemods := by
    cases freemods <;> rfl
  unfold mpFreemods oneArg
  rw [h]
  dsimp only
  rw [if_pos hknown, hon]
  refine sameMods_after _ (fun _ => ?_) s
  refine Within.bind (sameMods_restating.along (enqueueState_work r true)) fun _ => ?_
  exact within_answer _

theorem matchChangeSettings_mods {data : MultiplayerMatch} (hr : (s.player p).matchRef = some r)
    (hhost : matchHost s (s.matchAt r) = .ok p)
    (hvalid : validateMatchData data (s.player p).id) :
    SameMods (Prog.onlyIf (data.freemods ≠ (s.matchAt r).freemods)
      (changeFreemods r data.freemods) s).2 (matchChangeSettings p data s).2 := by
  rw [matchChangeSettings_host hr hhost hvalid]
  exact sameMods_after _ (fun _ => changeSelected_restating sameMods_restating s p r data) s

theorem switchesAgree_iff {data : MultiplayerMatch} {ctx : Context} (h : s.Tidy)
    (hr : (s.player p).matchRef = some r) (hhost : matchHost s (s.matchAt r) = .ok p)
    (hvalid : validateMatchData data (s.player p).id)
    (hargs : ctx.args = [freemodsArg data.freemods]) :
    SwitchesAgree s p r data ctx ↔ Settled s r data.freemods := by
  have hpacket := matchChangeSettings_mods hr hhost hvalid r
  have hcommand := mpFreemods_mods (s := s) (r := r) hargs r
  unfold SwitchesAgree
  dsimp only
  rw [hpacket, hcommand]
  by_cases hsame : data.freemods = (s.matchAt r).freemods
  · rw [hsame, Prog.onlyIf, if_neg (not_not.mpr rfl), ← changeFreemods_same_iff h]
    exact ⟨fun hboth => hboth.1, fun hkept => ⟨hkept, fun _ => ⟨rfl, hkept⟩⟩⟩
  · rw [Prog.onlyIf, if_pos hsame]
    exact ⟨fun _ hno => absurd hno hsame, fun _ => ⟨rfl, fun hno => absurd hno hsame⟩⟩

end Paths

section Runs

-- Along a run whose packets split the mods, they are split in every match; the packet of a host
-- and the command then differ exactly where freemods are switched to what they are already.
theorem freemods_of_splits (setup : Setup) (run : List Event)
    (h : Guarded World.step (fun w event => event.Splits w) setup.start run) :
    let s := (runFrom World.step setup.start run).server
    (∀ r, (s.matchAt r).ModsSplit) ∧
      ∀ p r data ctx, (s.player p).matchRef = some r → matchHost s (s.matchAt r) = .ok p →
        validateMatchData data (s.player p).id → ctx.args = [freemodsArg data.freemods] →
        (SwitchesAgree s p r data ctx ↔ Settled s r data.freemods) := by
  intro s
  have htidy : s.Tidy := run_tidy setup h
  refine ⟨fun r => (htidy r).modsSplit, fun p r data ctx hr hhost hvalid hargs => ?_⟩
  exact switchesAgree_iff htidy hr hhost hvalid hargs

-- A match with freemods, where the host has HD and DT.
def freemodsMatch : List Event :=
  [visit 11, .packet 1 (.createMatch { plainMatch 11 with freemods := true, mods := 64 })
      { now := 10 },
    .packet 1 (.changeMods 72) { now := 10 }]

theorem freemods_of_splits_off :
    (∀ r, ((runFrom World.step (Setup.start {}) (freemodsMatch ++
      [.packet 1 (.changeSettings (plainMatch 11)) { now := 10 },
        .packet 1 (.sendMessage "!mp freemods on" "#multiplayer" (some ("freemods", ["on"])))
          { now := 10 }])).server.matchAt r).ModsSplit) ∧
      SwitchesAgree (runFrom World.step (Setup.start {}) freemodsMatch).server 1 0 (plainMatch 11)
        { player := 1, args := ["off"], now := 10, secret := "" } := by
  refine ⟨(freemods_of_splits {} _ (by decide)).1, ?_⟩
  have hagree := (freemods_of_splits {} freemodsMatch (by decide)).2 1 0 (plainMatch 11)
    { player := 1, args := ["off"], now := 10, secret := "" } rfl rfl rfl rfl
  exact hagree.mpr fun hsame => absurd hsame (by decide)

-- Created with freemods and HD, a match has HD for itself; in a match with freemods, switching
-- them on by the command takes HD from the host.
theorem not_freemods_split :
    ¬((runFrom World.step (Setup.start {})
        [visit 11, .packet 1 (.createMatch { plainMatch 11 with freemods := true, mods := 8 })
          { now := 10 }]).server.matchAt 0).ModsSplit ∧
      ¬SwitchesAgree (runFrom World.step (Setup.start {}) freemodsMatch).server 1 0
        { plainMatch 11 with freemods := true }
        { player := 1, args := ["on"], now := 10, secret := "" } := by
  refine ⟨by decide, fun hagree => ?_⟩
  have hslot := congrFun (congrArg Prod.snd (hagree.2 rfl).2) 0
  revert hslot
  decide

end Runs

end BanchoPrism
