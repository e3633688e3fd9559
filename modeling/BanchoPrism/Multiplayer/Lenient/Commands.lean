import BanchoPrism.Multiplayer.Lenient.Packets
import BanchoPrism.Multiplayer.Quiet.Commands

namespace BanchoPrism

open Library Prog

variable {maps : Int → Prop} {R : Server → Server → Prop} [Std.Refl R]

section Asking

theorem mpMap_still (ctx : Context) (r : MatchRef) : Within R (mpMap ctx r) := by
  refine within_oneArg fun arg => Within.read_bind fun s => ?_
  split
  · exact within_answer _ s
  · exact Within.moves (Within.ite (within_answer _) (Within.pure _))

theorem mpListref_still (r : MatchRef) : Within R (mpListref r) :=
  Within.read_bind fun s => Moves.lift_bind fun _ _ => within_answer _ s

theorem mpLoadpool_still (ctx : Context) (r : MatchRef) : Within R (mpLoadpool ctx r) :=
  within_oneArg fun _ => Within.read_bind fun _ => Moves.lift_bind fun _ _ =>
    Within.moves (Within.ite (Within.pure _) (within_answer _))

theorem withPick_still (ctx : Context) (r : MatchRef) (usage noPool : String)
    (pause : String → Mods → Nat → Nat → Pause) :
    Within R (withPick ctx r usage noPool pause) := by
  refine within_oneArg fun arg => Within.read_bind fun s => ?_
  split
  · exact within_answer _ s
  · split
    · exact within_answer _ s
    · exact Moves.pure _

theorem resumePick_still (r : MatchRef) (modsSlot : String) (mods : Mods) (slot : Nat)
    (found : Option Int) : Within R (resumePick r modsSlot mods slot found) := by
  refine Within.read_bind fun s => ?_
  split
  · exact within_answer _ s
  · exact Within.moves (Within.ite (within_answer _) (Within.pure _))

end Asking

variable [IsTrans Server R]

section Games

theorem startNow_lenient (hR : Tolerant maps R) (r : MatchRef) : Within R (startNow r) :=
  Within.bind (startMatch_lenient hR r) fun _ => within_answer _

theorem mpStart_lenient (hR : Tolerant maps R) (ctx : Context) (r : MatchRef) :
    Within R (mpStart ctx r) := by
  refine Within.read_bind fun s => ?_
  dsimp only
  split
  · split
    · exact within_answer _ s
    · exact Within.moves (Within.ite (within_answer _) (startNow_lenient hR r))
  · split
    · split
      · exact within_answer _ s
      · refine Within.moves (Within.ite ?_ (within_answer _))
        exact Within.bind (hR.unmentioned (fun _ => rfl) fun _ => rfl) fun _ => within_answer _
    · refine Within.moves (Within.ite (Within.ite (within_answer _) ?_) ?_)
      · exact Within.bind (hR.unmentioned (fun _ => rfl) fun _ => rfl) fun _ => within_answer _
      · exact Within.ite (startNow_lenient hR r) (within_answer _)
  · exact within_answer _ s

theorem startTimerFires_lenient (hR : Tolerant maps R) (r : MatchRef) :
    Within R (startTimerFires r) := by
  refine Within.read_bind fun s => ?_
  dsimp only
  split
  · exact Moves.pure ()
  · refine Within.moves (Within.bind ?_ fun _ => ?_)
    · exact hR.unmentioned (fun _ => rfl) fun _ => rfl
    refine Within.ite ?_ (hR.along (sendBot_work _ _))
    exact Within.bind (startMatch_lenient hR r) fun _ => hR.along (sendBot_work _ _)

theorem mpAbort_lenient (hR : Tolerant maps R) (r : MatchRef) : Within R (mpAbort r) := by
  refine Within.read_bind fun s => Within.moves (Within.ite ?_ (within_answer _))
  refine Within.bind (hR.updateMatch (fun m => Plain.unreadyPlayers rfl) fun m => ?_) fun _ => ?_
  · exact SameTeams.unreadyPlayers _
  refine Within.bind (hR.updateMatch (fun m => ?_) fun m => ?_) fun _ => ?_
  · exact Plain.of_mapSlots fun _ => ⟨rfl, rfl, .inl, .inl rfl⟩
  · exact SameTeams.mapSlots fun _ => rfl
  refine Within.bind (hR.unmentioned (fun _ => rfl) fun _ => rfl) fun _ => ?_
  refine Within.bind (hR.along (enqueueMatch_work r _ _ _)) fun _ => ?_
  exact Within.bind (hR.along (enqueueState_work r true)) fun _ => within_answer _

end Games

section Maps

theorem resumeMap_lenient (hR : Tolerant maps R) (r : MatchRef) {found : Option Beatmap}
    (hfound : ∀ bmap ∈ found, maps bmap.id) : Within R (resumeMap r found) := by
  cases found with
  | none => exact within_answer _
  | some bmap =>
    have hmap := hfound bmap rfl
    refine Within.bind (hR.updateMatch (fun _ => Plain.of_map hmap rfl) fun _ => ?_) fun _ => ?_
    · exact ⟨rfl, fun _ => rfl⟩
    refine Within.bind (hR.along (enqueueState_work r true)) fun _ => ?_
    exact Within.read_bind fun t => within_answer _ t

end Maps

section People

theorem mpHost_lenient (hR : Tolerant maps R) (ctx : Context) (r : MatchRef) :
    Within R (mpHost ctx r) := by
  refine within_oneArg fun arg => within_onlinePlayer fun target => Within.read_bind fun s => ?_
  refine Moves.lift_bind fun host _ => Within.moves (Within.ite (within_answer _) ?_)
  refine Within.ite (Within.bind (setHost_lenient hR r target) fun _ => ?_) (within_answer _)
  exact Within.bind (hR.along (enqueueState_work r true)) fun _ => within_answer _

theorem mpForce_lenient (hR : Tolerant maps R) (ctx : Context) (r : MatchRef) :
    Within R (mpForce ctx r) := by
  refine within_oneArg fun arg => within_onlinePlayer fun target => Within.read_bind fun s => ?_
  exact Within.moves (Within.bind (joinMatch_lenient hR target r _) fun _ => within_answer _)

theorem mpRandpw_lenient (hR : Tolerant maps R) (ctx : Context) (r : MatchRef) :
    Within R (mpRandpw ctx r) := by
  refine Within.bind ?_ fun _ => within_answer _
  exact hR.unmentioned (fun _ => rfl) fun _ => rfl

theorem mpInvite_lenient (hR : Tolerant maps R) (ctx : Context) (r : MatchRef) :
    Within R (mpInvite ctx r) := by
  refine within_oneArg fun arg => within_onlinePlayer fun target => ?_
  refine Within.ite (within_answer _) (Within.ite (within_answer _) ?_)
  refine Within.bind (hR.along (sendInvite_work ctx.player target r)) fun _ => ?_
  exact Within.read_bind fun s => within_answer _ s

theorem mpAddref_lenient (hR : Tolerant maps R) (ctx : Context) (r : MatchRef) :
    Within R (mpAddref ctx r) := by
  refine within_oneArg fun arg => within_onlinePlayer fun target => Within.read_bind fun s => ?_
  refine Moves.ite (fun _ => Moves.lift_bind fun refs _ => ?_) fun _ => within_answer _ s
  refine Within.moves (Within.ite (within_answer _) (Within.bind ?_ fun _ => within_answer _))
  exact hR.unmentioned (fun _ => rfl) fun _ => rfl

theorem mpRmref_lenient (hR : Tolerant maps R) (ctx : Context) (r : MatchRef) :
    Within R (mpRmref ctx r) := by
  refine within_oneArg fun arg => within_onlinePlayer fun target => Within.read_bind fun s => ?_
  refine Moves.lift_bind fun refs _ => Moves.lift_bind fun host _ => Within.moves ?_
  refine Within.ite (Within.ite (within_answer _) (Within.bind ?_ fun _ => within_answer _))
    (within_answer _)
  exact hR.unmentioned (fun _ => rfl) fun _ => rfl

end People

section Settings

omit [Std.Refl R] in
-- Only unused slots are locked and unlocked.
theorem convertSlots_lenient (hR : Tolerant maps R) (r : MatchRef) {old new : SlotStatus}
    (hnew : new.hasPlayer = false) (hquit : new ≠ .quit) : Within R (convertSlots r old new) := by
  refine Within.bind (hR.updateMatch (fun m => Plain.of_mapSlots fun slot => ?_) fun m => ?_)
    fun _ => hR.along (enqueueState_work r true)
  · split
    · refine ⟨rfl, rfl, fun htaken => ?_, .inr hquit⟩
      change new.hasPlayer = true at htaken
      rw [hnew] at htaken
      cases htaken
    · exact Restated.refl slot
  · exact SameTeams.mapSlots fun slot => by split <;> rfl

theorem mpLock_lenient (hR : Tolerant maps R) (r : MatchRef) : Within R (mpLock r) :=
  Within.bind (convertSlots_lenient hR r rfl nofun) fun _ => within_answer _

theorem mpUnlock_lenient (hR : Tolerant maps R) (r : MatchRef) : Within R (mpUnlock r) :=
  Within.bind (convertSlots_lenient hR r rfl nofun) fun _ => within_answer _

theorem mpCondition_lenient (hR : Tolerant maps R) (ctx : Context) (r : MatchRef) :
    Within R (mpCondition ctx r) := by
  have husePp : ∀ b, Within R (updateMatch r fun m => { m with usePpScoring := b }) :=
    fun _ => hR.unmentioned (fun _ => rfl) fun _ => rfl
  refine within_oneArg fun arg => Within.read_bind fun s => Within.moves (Within.ite ?_ ?_)
  · refine Within.ite (within_answer _) (Within.ite (within_answer _) ?_)
    refine Within.bind (husePp true) fun _ => ?_
    exact Within.bind (hR.along (enqueueState_work r false)) fun _ => within_answer _
  · refine Within.bind (husePp false) fun _ => ?_
    split
    · exact within_answer _
    · refine Within.bind ?_ fun _ =>
        Within.bind (hR.along (enqueueState_work r false)) fun _ => within_answer _
      exact hR.unmentioned (fun _ => rfl) fun _ => rfl

theorem mpScrim_lenient (hR : Tolerant maps R) (ctx : Context) (r : MatchRef) :
    Within R (mpScrim ctx r) := by
  refine within_oneArg fun arg => Within.read_bind fun s => ?_
  split
  · exact within_answer _ s
  rename_i best hbest
  refine Moves.ite (fun _ => Moves.ite (fun hpts => ?_) fun hnone => ?_) fun _ => within_answer _ s
  · refine Moves.ite (fun _ => within_answer _ s) fun hoff => ?_
    refine Moves.ite (fun _ => within_answer _ s) fun _ => ?_
    refine Moves.bind (Moves.update (hR.plain ?_ ⟨rfl, fun _ => rfl⟩)) fun _ t _ =>
      within_answer _ t
    exact Plain.of_scrim (.single (.start (s.matchAt r).scrim (best / 2 + 1) hoff hpts)) rfl
  -- half of a number and one is not zero
  · exact absurd (Nat.succ_ne_zero _) hnone

theorem mpEndscrim_lenient (hR : Tolerant maps R) (r : MatchRef) : Within R (mpEndscrim r) := by
  refine Within.read_bind fun s => Within.moves (Within.ite ?_ (within_answer _))
  refine Within.bind (hR.updateMatch (fun m => ?_) fun _ => ⟨rfl, fun _ => rfl⟩) fun _ =>
    within_answer _
  exact Plain.of_scrim (.single (.finish m.scrim)) rfl

theorem mpRematch_lenient (hR : Tolerant maps R) (ctx : Context) (r : MatchRef) :
    Within R (mpRematch ctx r) := by
  refine Within.read_bind fun s => Moves.ite (fun _ => within_answer _ s) fun _ => ?_
  refine Moves.lift_bind fun host _ => Moves.ite (fun _ => within_answer _ s) fun _ => ?_
  refine Moves.ite (fun hoff => ?_) fun _ => ?_
  · refine Moves.ite (fun _ => within_answer _ s) fun hpts => ?_
    refine Moves.bind (Moves.update (hR.plain ?_ ⟨rfl, fun _ => rfl⟩)) fun _ t _ =>
      within_answer _ t
    have hoff : ¬(s.matchAt r).isScrimming := by simpa using hoff
    exact Plain.of_scrim (.single (.start (s.matchAt r).scrim _ hoff hpts)) rfl
  · split
    · exact within_answer _ s
    · exact within_answer _ s
    · rename_i winner hlast
      refine Moves.bind (Moves.update (hR.plain ?_ ⟨rfl, fun _ => rfl⟩)) fun _ t _ =>
        within_answer _ t
      exact Plain.of_scrim (.single (.takeBack (s.matchAt r).scrim winner hlast)) rfl

end Settings

section Pools

theorem resumeLoadpool_lenient (hR : Tolerant maps R) (r : MatchRef) (found : Option TourneyPool) :
    Within R (resumeLoadpool r found) := by
  refine Within.read_bind fun s => ?_
  split
  · exact within_answer _ s
  · refine Within.moves (Within.ite (within_answer _) (Within.bind ?_ fun _ => within_answer _))
    exact hR.unmentioned (fun _ => rfl) fun _ => rfl

theorem mpUnloadpool_lenient (hR : Tolerant maps R) (ctx : Context) (r : MatchRef) :
    Within R (mpUnloadpool ctx r) := by
  refine Within.read_bind fun s => Moves.ite (fun _ => within_answer _ s) fun _ => ?_
  refine Moves.lift_bind fun host _ => Within.moves (Within.ite (within_answer _) ?_)
  refine Within.ite (within_answer _) (Within.bind ?_ fun _ => within_answer _)
  exact hR.unmentioned (fun _ => rfl) fun _ => rfl

theorem resumeBan_lenient (hR : Tolerant maps R) (r : MatchRef) (modsSlot : String) (mods : Mods)
    (slot : Nat)
    (found : Option Int) : Within R (resumeBan r modsSlot mods slot found) := by
  refine Within.read_bind fun s => Within.moves (Within.ite (within_answer _) ?_)
  refine Within.ite (within_answer _) (Within.bind ?_ fun _ => within_answer _)
  exact hR.unmentioned (fun _ => rfl) fun _ => rfl

theorem resumeUnban_lenient (hR : Tolerant maps R) (r : MatchRef) (modsSlot : String) (mods : Mods)
    (slot : Nat)
    (found : Option Int) : Within R (resumeUnban r modsSlot mods slot found) := by
  refine Within.read_bind fun s => Within.moves (Within.ite (within_answer _) ?_)
  refine Within.ite (Within.bind ?_ fun _ => within_answer _) (within_answer _)
  exact hR.unmentioned (fun _ => rfl) fun _ => rfl

end Pools

section Running

-- The two commands that are about the mods are not among these, nor is the one about the teams.
theorem MpCommand.run_tolerant (hR : Tolerant maps R) (ctx : Context) (r : MatchRef)
    {command : MpCommand} (hmods : command ≠ .mods) (hfreemods : command ≠ .freemods)
    (hteams : command ≠ .teams) : Within R (command.run ctx r) := by
  cases command with
  | start => exact mpStart_lenient hR ctx r
  | abort => exact mpAbort_lenient hR r
  | host => exact mpHost_lenient hR ctx r
  | force => exact mpForce_lenient hR ctx r
  | map => exact mpMap_still ctx r
  | mods => exact absurd rfl hmods
  | freemods => exact absurd rfl hfreemods
  | randpw => exact mpRandpw_lenient hR ctx r
  | invite => exact mpInvite_lenient hR ctx r
  | addref => exact mpAddref_lenient hR ctx r
  | rmref => exact mpRmref_lenient hR ctx r
  | listref => exact mpListref_still r
  | lock => exact mpLock_lenient hR r
  | unlock => exact mpUnlock_lenient hR r
  | teams => exact absurd rfl hteams
  | condition => exact mpCondition_lenient hR ctx r
  | scrim => exact mpScrim_lenient hR ctx r
  | endscrim => exact mpEndscrim_lenient hR r
  | rematch => exact mpRematch_lenient hR ctx r
  | loadpool => exact mpLoadpool_still ctx r
  | unloadpool => exact mpUnloadpool_lenient hR ctx r
  | ban => exact withPick_still ctx r _ _ _
  | unban => exact withPick_still ctx r _ _ _
  | pick => exact withPick_still ctx r _ _ _

theorem mpTeams_lenient (hR : Lenient maps R) (ctx : Context) (r : MatchRef) :
    Within R (mpTeams ctx r) := by
  refine within_oneArg fun arg => ?_
  split
  · exact within_answer _
  · refine Within.bind ?_ fun _ => Within.bind ?_ fun _ => Within.bind ?_ fun _ => ?_
    · exact hR.unmentioned fun _ => rfl
    · exact hR.updateMatch fun m => Plain.of_mapPlayers fun _ => ⟨rfl, rfl, .inl, .inl rfl⟩
    · refine hR.updateMatch fun m => ?_
      split
      · exact Plain.of_scrim (.single (.reset m.scrim)) rfl
      · exact Plain.of_kept rfl
    · exact Within.bind (hR.along (enqueueState_work r true)) fun _ => within_answer _

theorem MpCommand.run_lenient (hR : Lenient maps R) (ctx : Context) (r : MatchRef)
    {command : MpCommand} (hmods : command ≠ .mods) (hfreemods : command ≠ .freemods) :
    Within R (command.run ctx r) := by
  by_cases hteams : command = .teams
  · subst hteams
    exact mpTeams_lenient hR ctx r
  · exact MpCommand.run_tolerant hR.tolerant ctx r hmods hfreemods hteams

end Running

end BanchoPrism
