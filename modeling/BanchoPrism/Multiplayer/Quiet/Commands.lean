import BanchoPrism.Multiplayer.Quiet.Packets

namespace BanchoPrism

open Library Prog

section Guards

variable {R : Server → Server → Prop} [Std.Refl R]

theorem within_answer (msg : String) : Within R (answer msg) := Within.pure _

theorem within_oneArg {ctx : Context} {usage : String} {body : String → Handler Reply}
    (h : ∀ arg, Within R (body arg)) : Within R (oneArg ctx usage body) := by
  unfold oneArg
  split
  · exact h _
  · exact within_answer usage

theorem within_onlinePlayer {name : String} {body : PlayerRef → Handler Reply}
    (h : ∀ target, Within R (body target)) : Within R (onlinePlayer name body) := by
  refine Within.read_bind fun s => ?_
  split
  · exact h _ s
  · exact within_answer _ s

end Guards

theorem startNow_quiet (r : MatchRef) : Within Quiet (startNow r) :=
  Within.bind (startMatch_quiet r) fun _ => within_answer _

theorem starting_calm (r : MatchRef) (starting : Option (PlayerRef × Int)) :
    Within Calm (updateMatch r fun m => { m with starting := starting }) :=
  calm_of_slots_eq (fun _ => rfl) (fun _ => rfl) (fun _ => rfl) fun _ => rfl

theorem mpStart_quiet (ctx : Context) (r : MatchRef) : Within Quiet (mpStart ctx r) := by
  refine Within.read_bind fun s => ?_
  dsimp only
  split
  · split
    · exact within_answer _ s
    · exact Within.moves (Within.ite (within_answer _) (startNow_quiet r))
  · split
    · split
      · exact within_answer _ s
      · refine Within.moves (Within.ite ?_ (within_answer _))
        exact Within.bind (starting_calm r _).toQuiet fun _ => within_answer _
    · refine Within.moves (Within.ite (Within.ite (within_answer _) ?_) ?_)
      · exact Within.bind (starting_calm r none).toQuiet fun _ => within_answer _
      · exact Within.ite (startNow_quiet r) (within_answer _)
  · exact within_answer _ s

theorem startTimerFires_quiet (r : MatchRef) : Within Quiet (startTimerFires r) := by
  refine Within.read_bind fun s => ?_
  dsimp only
  split
  · exact Moves.pure ()
  · refine Within.moves (Within.bind (starting_calm r none).toQuiet fun _ => ?_)
    refine Within.ite ?_ (sendBot_work _ _).quiet
    exact Within.bind (startMatch_quiet r) fun _ => (sendBot_work _ _).quiet

theorem mpAbort_quiet (r : MatchRef) : Within Quiet (mpAbort r) := by
  refine Within.read_bind fun s => Within.moves (Within.ite ?_ (within_answer _))
  refine Within.bind (unreadyPlayers_quiet r rfl) fun _ => ?_
  refine Within.bind (resetPlayersLoadedStatus_calm r).toQuiet fun _ => Within.bind ?_ fun _ => ?_
  · exact quiet_of_slots_eq (fun _ => rfl) (fun _ => rfl) fun _ => rfl
  · refine Within.bind (enqueueMatch_quiet r _ _ _) fun _ => ?_
    exact Within.bind (enqueueState_quiet r true) fun _ => within_answer _

theorem mpMap_calm (ctx : Context) (r : MatchRef) : Within Calm (mpMap ctx r) := by
  refine within_oneArg fun arg => Within.read_bind fun s => ?_
  split
  · exact within_answer _ s
  · exact Within.moves (Within.ite (within_answer _) (Within.pure _))

theorem resumeMap_calm (r : MatchRef) (found : Option Beatmap) : Within Calm (resumeMap r found) := by
  unfold resumeMap
  split
  · exact within_answer _
  · refine Within.bind ?_ fun _ => Within.bind (enqueueState_calm r true) fun _ => ?_
    · exact calm_of_slots_eq (fun _ => rfl) (fun _ => rfl) (fun _ => rfl) fun _ => rfl
    · exact Within.read_bind fun t => within_answer _ t

theorem setCommandMods_calm (p : PlayerRef) (r : MatchRef) (mods : Mods) :
    Within Calm (setCommandMods p r mods) := by
  refine Within.read_bind fun s => Moves.ite (fun _ => ?_) fun _ => Within.moves ?_
  · refine Moves.lift_bind fun host _ => Within.moves (Within.bind (Within.onlyIf ?_) fun _ => ?_)
    · exact calm_of_slots_eq (fun _ => rfl) (fun _ => rfl) (fun _ => rfl) fun _ => rfl
    · exact setSlotMods_calm p r _
  · exact calm_of_slots_eq (fun _ => rfl) (fun _ => rfl) (fun _ => rfl) fun _ => rfl

theorem mpMods_calm (ctx : Context) (r : MatchRef) : Within Calm (mpMods ctx r) := by
  refine within_oneArg fun arg => Within.ite (within_answer _) (Within.read_bind fun s => ?_)
  refine Within.moves (Within.bind (setCommandMods_calm ctx.player r _) fun _ => ?_)
  exact Within.bind (enqueueState_calm r true) fun _ => within_answer _

theorem mpFreemods_calm (ctx : Context) (r : MatchRef) : Within Calm (mpFreemods ctx r) := by
  refine within_oneArg fun arg => Within.ite ?_ (within_answer _)
  refine Within.bind (changeFreemods_calm r _) fun _ => ?_
  exact Within.bind (enqueueState_calm r true) fun _ => within_answer _

theorem mpRandpw_calm (ctx : Context) (r : MatchRef) : Within Calm (mpRandpw ctx r) :=
  Within.bind (calm_of_slots_eq (fun _ => rfl) (fun _ => rfl) (fun _ => rfl) fun _ => rfl) fun _ => within_answer _

theorem mpInvite_calm (ctx : Context) (r : MatchRef) : Within Calm (mpInvite ctx r) := by
  refine within_oneArg fun arg => within_onlinePlayer fun target => ?_
  refine Within.ite (within_answer _) (Within.ite (within_answer _) ?_)
  refine Within.bind (sendInvite_calm ctx.player target r) fun _ => ?_
  exact Within.read_bind fun s => within_answer _ s

theorem mpAddref_calm (ctx : Context) (r : MatchRef) : Within Calm (mpAddref ctx r) := by
  refine within_oneArg fun arg => within_onlinePlayer fun target => Within.read_bind fun s => ?_
  refine Moves.ite (fun _ => Moves.lift_bind fun refs _ => ?_) fun _ => within_answer _ s
  refine Within.moves (Within.ite (within_answer _) (Within.bind ?_ fun _ => within_answer _))
  exact calm_of_slots_eq (fun _ => rfl) (fun _ => rfl) (fun _ => rfl) fun _ => rfl

theorem mpRmref_calm (ctx : Context) (r : MatchRef) : Within Calm (mpRmref ctx r) := by
  refine within_oneArg fun arg => within_onlinePlayer fun target => Within.read_bind fun s => ?_
  refine Moves.lift_bind fun refs _ => Moves.lift_bind fun host _ => Within.moves ?_
  refine Within.ite (Within.ite (within_answer _) (Within.bind ?_ fun _ => within_answer _))
    (within_answer _)
  exact calm_of_slots_eq (fun _ => rfl) (fun _ => rfl) (fun _ => rfl) fun _ => rfl

theorem mpListref_calm (r : MatchRef) : Within Calm (mpListref r) :=
  Within.read_bind fun s => Moves.lift_bind fun _ _ => within_answer _ s

-- Locking and unlocking only unused slots moves nobody.
theorem convertSlots_calm (r : MatchRef) {old new : SlotStatus}
    (h : new.hasPlayer = old.hasPlayer) (hphase : new.phase = old.phase) :
    Within Calm (convertSlots r old new) := by
  refine Within.bind (calm_updateMatch (fun m => ?_) fun m => mapSlots_game m fun i => ?_) fun _ =>
    enqueueState_calm r true
  · refine SlotsKept.of_mapSlots m (fun i => ?_) fun i => ?_
    · split <;> rfl
    · split
      · rename_i hold
        exact .inl (by rw [hold]; exact h)
      · exact StatusKept.refl _
  · split
    · rename_i hold
      simp only [Slot.seat, hold, hphase]
    · rfl

theorem mpLock_calm (r : MatchRef) : Within Calm (mpLock r) :=
  Within.bind (convertSlots_calm r rfl rfl) fun _ => within_answer _

theorem mpUnlock_calm (r : MatchRef) : Within Calm (mpUnlock r) :=
  Within.bind (convertSlots_calm r rfl rfl) fun _ => within_answer _

theorem mpTeams_calm (ctx : Context) (r : MatchRef) : Within Calm (mpTeams ctx r) := by
  refine within_oneArg fun arg => ?_
  split
  · exact within_answer _
  · refine Within.bind ?_ fun _ => Within.bind ?_ fun _ => Within.bind ?_ fun _ => ?_
    · exact calm_of_slots_eq (fun _ => rfl) (fun _ => rfl) (fun _ => rfl) fun _ => rfl
    · exact calm_updateMatch (fun m => SlotsKept.of_mapPlayers m (fun _ => rfl) fun _ => rfl)
        fun m => mapPlayers_game m fun _ => rfl
    · exact calm_updateMatch (fun m => by split <;> exact SlotsKept.of_slots_eq rfl rfl rfl)
        fun m => by split <;> rfl
    · exact Within.bind (enqueueState_calm r true) fun _ => within_answer _

theorem mpCondition_calm (ctx : Context) (r : MatchRef) : Within Calm (mpCondition ctx r) := by
  have husePp : ∀ b, Within Calm (updateMatch r fun m => { m with usePpScoring := b }) :=
    fun _ => calm_of_slots_eq (fun _ => rfl) (fun _ => rfl) (fun _ => rfl) fun _ => rfl
  refine within_oneArg fun arg => Within.read_bind fun s => Within.moves (Within.ite ?_ ?_)
  · refine Within.ite (within_answer _) (Within.ite (within_answer _) ?_)
    refine Within.bind (husePp true) fun _ => ?_
    exact Within.bind (enqueueState_calm r false) fun _ => within_answer _
  · refine Within.bind (husePp false) fun _ => ?_
    split
    · exact within_answer _
    · refine Within.bind ?_ fun _ =>
        Within.bind (enqueueState_calm r false) fun _ => within_answer _
      exact calm_of_slots_eq (fun _ => rfl) (fun _ => rfl) (fun _ => rfl) fun _ => rfl

theorem mpScrim_calm (ctx : Context) (r : MatchRef) : Within Calm (mpScrim ctx r) := by
  refine within_oneArg fun arg => Within.read_bind fun s => ?_
  split
  · exact within_answer _ s
  · refine Within.moves (Within.ite (Within.ite ?_ ?_) (within_answer _))
    · refine Within.ite (within_answer _) (Within.ite (within_answer _) ?_)
      refine Within.bind ?_ fun _ => within_answer _
      exact calm_of_slots_eq (fun _ => rfl) (fun _ => rfl) (fun _ => rfl) fun _ => rfl
    · refine Within.ite (within_answer _) (Within.bind ?_ fun _ => within_answer _)
      exact calm_of_slots_eq (fun _ => rfl) (fun _ => rfl) (fun _ => rfl) fun _ => rfl

theorem mpEndscrim_calm (r : MatchRef) : Within Calm (mpEndscrim r) := by
  refine Within.read_bind fun s => Within.moves (Within.ite ?_ (within_answer _))
  refine Within.bind ?_ fun _ => within_answer _
  exact calm_of_slots_eq (fun _ => rfl) (fun _ => rfl) (fun _ => rfl) fun _ => rfl

theorem mpRematch_calm (ctx : Context) (r : MatchRef) : Within Calm (mpRematch ctx r) := by
  refine Within.read_bind fun s => Moves.ite (fun _ => within_answer _ s) fun _ => ?_
  refine Moves.lift_bind fun host _ => Within.moves (Within.ite (within_answer _) (Within.ite ?_ ?_))
  · refine Within.ite (within_answer _) (Within.bind ?_ fun _ => within_answer _)
    exact calm_of_slots_eq (fun _ => rfl) (fun _ => rfl) (fun _ => rfl) fun _ => rfl
  · split
    · exact within_answer _
    · exact within_answer _
    · refine Within.bind ?_ fun _ => within_answer _
      exact calm_of_slots_eq (fun _ => rfl) (fun _ => rfl) (fun _ => rfl) fun _ => rfl

theorem mpLoadpool_calm (ctx : Context) (r : MatchRef) : Within Calm (mpLoadpool ctx r) :=
  within_oneArg fun _ => Within.read_bind fun _ => Moves.lift_bind fun _ _ =>
    Within.moves (Within.ite (Within.pure _) (within_answer _))

theorem resumeLoadpool_calm (r : MatchRef) (found : Option TourneyPool) :
    Within Calm (resumeLoadpool r found) := by
  refine Within.read_bind fun s => ?_
  split
  · exact within_answer _ s
  · refine Within.moves (Within.ite (within_answer _) (Within.bind ?_ fun _ => within_answer _))
    exact calm_of_slots_eq (fun _ => rfl) (fun _ => rfl) (fun _ => rfl) fun _ => rfl

theorem mpUnloadpool_calm (ctx : Context) (r : MatchRef) : Within Calm (mpUnloadpool ctx r) := by
  refine Within.read_bind fun s => Moves.ite (fun _ => within_answer _ s) fun _ => ?_
  refine Moves.lift_bind fun host _ => Within.moves (Within.ite (within_answer _) ?_)
  refine Within.ite (within_answer _) (Within.bind ?_ fun _ => within_answer _)
  exact calm_of_slots_eq (fun _ => rfl) (fun _ => rfl) (fun _ => rfl) fun _ => rfl

theorem withPick_calm (ctx : Context) (r : MatchRef) (usage noPool : String)
    (pause : String → Mods → Nat → Nat → Pause) :
    Within Calm (withPick ctx r usage noPool pause) := by
  refine within_oneArg fun arg => Within.read_bind fun s => ?_
  split
  · exact within_answer _ s
  · split
    · exact within_answer _ s
    · exact Moves.pure _

theorem changeBans_calm (r : MatchRef) (f : List (Mods × Nat) → List (Mods × Nat)) :
    Within Calm (updateMatch r fun m => { m with bans := f m.bans }) :=
  calm_of_slots_eq (fun _ => rfl) (fun _ => rfl) (fun _ => rfl) fun _ => rfl

theorem resumeBan_calm (r : MatchRef) (modsSlot : String) (mods : Mods) (slot : Nat)
    (found : Option Int) : Within Calm (resumeBan r modsSlot mods slot found) := by
  refine Within.read_bind fun s => Within.moves (Within.ite (within_answer _) ?_)
  refine Within.ite (within_answer _) (Within.bind ?_ fun _ => within_answer _)
  exact changeBans_calm r (·.insert (mods, slot))

theorem resumeUnban_calm (r : MatchRef) (modsSlot : String) (mods : Mods) (slot : Nat)
    (found : Option Int) : Within Calm (resumeUnban r modsSlot mods slot found) := by
  refine Within.read_bind fun s => Within.moves (Within.ite (within_answer _) ?_)
  refine Within.ite (Within.bind ?_ fun _ => within_answer _) (within_answer _)
  exact changeBans_calm r (·.erase (mods, slot))

theorem resumePick_calm (r : MatchRef) (modsSlot : String) (mods : Mods) (slot : Nat)
    (found : Option Int) : Within Calm (resumePick r modsSlot mods slot found) := by
  refine Within.read_bind fun s => ?_
  split
  · exact within_answer _ s
  · exact Within.moves (Within.ite (within_answer _) (Within.pure _))

theorem resumePickMap_calm (r : MatchRef) (modsSlot : String) (mods : Mods)
    (found : Option Beatmap) : Within Calm (resumePickMap r modsSlot mods found) := by
  unfold resumePickMap
  split
  · exact within_answer _
  · refine Within.bind ?_ fun _ => Within.bind ?_ fun _ => Within.bind ?_ fun _ => ?_
    · exact calm_of_slots_eq (fun _ => rfl) (fun _ => rfl) (fun _ => rfl) fun _ => rfl
    · refine calm_updateMatch (fun m => ?_) fun m => ?_
      · split
        · exact (SlotsKept.of_mapPlayers m (f := fun slot => { slot with mods := Mods.NOMOD })
            (fun _ => rfl) fun _ => rfl).trans (SlotsKept.of_slots_eq rfl rfl rfl)
        · exact SlotsKept.of_slots_eq rfl rfl rfl
      · split
        · exact mapPlayers_game m (f := fun slot => { slot with mods := Mods.NOMOD }) fun _ => rfl
        · rfl
    · exact calm_of_slots_eq (fun _ => rfl) (fun _ => rfl) (fun _ => rfl) fun _ => rfl
    · refine Within.bind (enqueueState_calm r true) fun _ => ?_
      exact Within.read_bind fun t => within_answer _ t

theorem Pause.resume_calm (r : MatchRef) (found : Lookup) (pause : Pause) :
    Within Calm (pause.resume r found) := by
  cases pause with
  | map mapId => exact resumeMap_calm r found.beatmap
  | loadpool => exact resumeLoadpool_calm r found.pool
  | ban modsSlot mods slot poolId => exact resumeBan_calm r modsSlot mods slot found.mapPick
  | unban modsSlot mods slot poolId => exact resumeUnban_calm r modsSlot mods slot found.mapPick
  | pick modsSlot mods slot poolId => exact resumePick_calm r modsSlot mods slot found.mapPick
  | pickMap modsSlot mods mapId => exact resumePickMap_calm r modsSlot mods found.beatmap

-- The commands that touch the game, seat a player or name a host.
def MpCommand.moving : MpCommand → Bool
  | start | abort | host | force => true
  | _ => false

theorem MpCommand.run_calm (ctx : Context) (r : MatchRef) {command : MpCommand}
    (h : command.moving = false) : Within Calm (command.run ctx r) := by
  cases command with
  | start => cases h
  | abort => cases h
  | host => cases h
  | force => cases h
  | map => exact mpMap_calm ctx r
  | mods => exact mpMods_calm ctx r
  | freemods => exact mpFreemods_calm ctx r
  | randpw => exact mpRandpw_calm ctx r
  | invite => exact mpInvite_calm ctx r
  | addref => exact mpAddref_calm ctx r
  | rmref => exact mpRmref_calm ctx r
  | listref => exact mpListref_calm r
  | lock => exact mpLock_calm r
  | unlock => exact mpUnlock_calm r
  | teams => exact mpTeams_calm ctx r
  | condition => exact mpCondition_calm ctx r
  | scrim => exact mpScrim_calm ctx r
  | endscrim => exact mpEndscrim_calm r
  | rematch => exact mpRematch_calm ctx r
  | loadpool => exact mpLoadpool_calm ctx r
  | unloadpool => exact mpUnloadpool_calm ctx r
  | ban => exact withPick_calm ctx r _ _ _
  | unban => exact withPick_calm ctx r _ _ _
  | pick => exact withPick_calm ctx r _ _ _

-- Every command but the two that seat a player or name a host.
theorem MpCommand.run_quiet (ctx : Context) (r : MatchRef) {command : MpCommand}
    (hhost : command ≠ .host) (hforce : command ≠ .force) :
    Within Quiet (command.run ctx r) := by
  by_cases hm : command.moving = false
  · exact (run_calm ctx r hm).toQuiet
  cases command with
  | start => exact mpStart_quiet ctx r
  | abort => exact mpAbort_quiet r
  | host => exact absurd rfl hhost
  | force => exact absurd rfl hforce
  | _ => exact absurd rfl hm

end BanchoPrism
