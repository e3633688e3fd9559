import BanchoPrism.Multiplayer.Freemods
import BanchoPrism.Multiplayer.Rounds

namespace BanchoPrism

open Library Prog

section Slots

-- Red or blue where there are teams, and neutral elsewhere.
def Match.Teamed (m : Match) : Prop :=
  ∀ i, (m.slots i).player.isSome →
    if m.teamType.ffa then (m.slots i).team = .neutral
    else (m.slots i).team = .red ∨ (m.slots i).team = .blue

instance Match.Teamed.decidable (m : Match) : Decidable m.Teamed :=
  inferInstanceAs (Decidable (∀ i : Fin 16, (m.slots i).player.isSome →
    if m.teamType.ffa then (m.slots i).team = .neutral
    else (m.slots i).team = .red ∨ (m.slots i).team = .blue))

-- A slot has a team where there are teams and somebody is in it, and nowhere else.
def Slot.Colored (teamType : MatchTeamTypes) (slot : Slot) : Prop :=
  slot.team = .neutral ↔ teamType.ffa ∨ slot.player = none

def Match.Colored (m : Match) : Prop := ∀ i, (m.slots i).Colored m.teamType

variable {m m' : Match} {teamType : MatchTeamTypes} {slot : Slot}

theorem Match.Colored.teamed (h : m.Colored) : m.Teamed := by
  intro i hi
  have hteam := h i
  unfold Slot.Colored at hteam
  split
  · rename_i hffa
    exact hteam.mpr (.inl hffa)
  · rename_i hffa
    have hne : (m.slots i).team ≠ .neutral := fun hneutral => by
      rcases hteam.mp hneutral with hsame | hnone
      · exact hffa hsame
      · rw [hnone] at hi
        cases hi
    cases hslot : (m.slots i).team with
    | neutral => exact absurd hslot hne
    | blue => exact .inr rfl
    | red => exact .inl rfl

theorem Slot.colored_reset (status : SlotStatus) : (Slot.reset status).Colored teamType :=
  ⟨fun _ => .inr rfl, fun _ => rfl⟩

theorem MatchTeamTypes.defaultTeam_neutral : teamType.defaultTeam = .neutral ↔ teamType.ffa := by
  cases teamType <;> decide

-- Whoever sits down gets the default team, or what the slot has where there are no teams.
theorem Slot.Colored.seat {slot' : Slot} (h : slot.Colored teamType) (hplayer : slot'.player.isSome)
    (hteam : slot'.team = if teamType.defaultTeam = .red then .red else slot.team) :
    slot'.Colored teamType := by
  have hne : slot'.player ≠ none := Option.isSome_iff_ne_none.mp hplayer
  unfold Slot.Colored at h ⊢
  rw [hteam]
  cases teamType <;> simp_all [MatchTeamTypes.defaultTeam, MatchTeamTypes.ffa]

theorem Match.Colored.sameTeams (h : m.Colored) (hteams : SameTeams m m')
    (hplayer : ∀ i, (m'.slots i).player = (m.slots i).player) : m'.Colored := by
  intro i
  unfold Slot.Colored
  rw [hteams.slots i, hteams.teamType, hplayer i]
  exact h i

-- Everybody gets one team, which is that of the type that the match has then.
theorem Match.Colored.retyped (h : m.Colored) {team : MatchTeams}
    (hteam : ∀ i, (m'.slots i).team = if (m.slots i).player.isSome then team else (m.slots i).team)
    (hplayer : ∀ i, (m'.slots i).player = (m.slots i).player)
    (hnew : ∀ i, (m.slots i).player.isSome → (team = .neutral ↔ m'.teamType.ffa)) : m'.Colored := by
  intro i
  unfold Slot.Colored
  rw [hteam i, hplayer i]
  cases hp : (m.slots i).player with
  | none =>
    have hneutral : (m.slots i).team = .neutral := (h i).mpr (.inr hp)
    simp [hneutral]
  | some p => simpa using hnew i (by rw [hp]; rfl)

end Slots

section Writers

-- The matches whose slots have the teams they should keep such slots.
def KeepsColors (s t : Server) : Prop := ∀ r, (s.matchAt r).Colored → (t.matchAt r).Colored

instance : Std.Refl KeepsColors := ⟨fun _ _ => id⟩
instance : IsTrans Server KeepsColors := ⟨fun _ _ _ h h' r => h' r ∘ h r⟩

variable {s : Server} {r : MatchRef}

theorem keepsColors_modifyMatch {f : Match → Match}
    (h : (s.matchAt r).Colored → (f (s.matchAt r)).Colored) :
    KeepsColors s (s.modifyMatch r f) := by
  intro r'
  by_cases hr : r' = r
  · subst hr
    simpa [Server.modifyMatch] using h
  · simp [Server.modifyMatch, hr]

theorem keepsColors_modifySlot {i : Fin 16} {f : Slot → Slot}
    (h : (s.matchAt r).Colored → (f ((s.matchAt r).slots i)).Colored (s.matchAt r).teamType) :
    KeepsColors s (s.modifySlot r i f) := by
  refine keepsColors_modifyMatch fun hcolors j => ?_
  by_cases hj : j = i
  · subst hj
    simpa using h hcolors
  · simpa [hj] using hcolors j

theorem keepsColors_tolerant : Tolerant (fun _ => True) KeepsColors where
  cleared := trivial
  work h r hcolors := by
    rw [h.matchAt]
    exact hcolors
  plain h hteams := keepsColors_modifyMatch fun hcolors =>
    hcolors.sameTeams hteams fun i => (h.slots i).player
  player _ _ := id
  players _ _ := id
  matchList _ _ _ := id
  seat hplayer _ _ hteam := keepsColors_modifySlot fun hcolors =>
    (hcolors _).seat (by rw [hplayer]; rfl) (hteam _)
  reset _ _ := keepsColors_modifySlot fun _ => Slot.colored_reset _
  copy _ _ i _ := keepsColors_modifySlot fun hcolors => hcolors i

theorem keepsColors_sideless : Sideless KeepsColors where
  work := keepsColors_tolerant.work
  sides h := keepsColors_modifyMatch fun hcolors => hcolors.sameTeams h.toSameTeams h.player

-- A player of a match without teams must not change teams.
theorem matchChangeTeam_colors {p : PlayerRef}
    (h : ∀ r ∈ (s.player p).matchRef, (s.matchAt r).teamType.ffa →
      (s.matchAt r).getSlotId p = none) : Moves KeepsColors s (matchChangeTeam p) := by
  refine Moves.read_bind ?_
  split
  · rename_i r hr
    refine Moves.read_bind ?_
    split
    · rename_i i hi
      have hteams : ¬(s.matchAt r).teamType.ffa := fun hffa => by
        rw [h r hr hffa] at hi
        cases hi
      refine Moves.bind (Moves.update (keepsColors_modifySlot fun _ => ?_)) fun _ t _ =>
        keepsColors_tolerant.along (enqueueState_work r false) t
      have hplayer := getSlotId_player hi
      simp only [Slot.Colored, hplayer, hteams, reduceCtorEq, or_self, iff_false]
      split <;> exact nofun
    · exact Moves.raise _
  · exact Moves.pure ()

-- Where a settings packet with this type does no harm: an unknown type is refused only after
-- everybody in a slot was made red.
def Match.Admits (m : Match) (teamType : Int) : Prop :=
  (MatchTeamTypes.ofValue teamType).isSome ∨ m.isScrimming ∨ ¬m.teamType.ffa ∨ m.allEmpty

instance Match.Admits.decidable (m : Match) (teamType : Int) : Decidable (m.Admits teamType) :=
  inferInstanceAs (Decidable (_ ∨ _ ∨ _ ∨ _))

theorem Match.Admits.sides {m m' : Match} {teamType : Int} (h : m.Admits teamType)
    (hsides : SameSides m m') : m'.Admits teamType := by
  have hscrim : m'.isScrimming = m.isScrimming := congrArg Scrim.isScrimming hsides.scrim
  have hempty : m'.allEmpty = m.allEmpty := by
    unfold Match.allEmpty Slot.empty
    simp only [hsides.player]
  unfold Match.Admits
  rw [hscrim, hsides.teamType, hempty]
  exact h

theorem MatchTeamTypes.newTeam_neutral {value : Int} {teamType : MatchTeamTypes}
    (h : ofValue value = some teamType) :
    (if value = 0 ∨ value = 1 then MatchTeams.neutral else .red) = .neutral ↔ teamType.ffa := by
  unfold ofValue at h
  split at h <;> cases h <;> decide

theorem mapPlayers_team (m : Match) (team : MatchTeams) (i : Fin 16) :
    ((m.mapPlayers fun slot => { slot with team := team }).slots i).team =
      if (m.slots i).player.isSome then team else (m.slots i).team := by
  simp only [Match.mapPlayers, Match.mapSlots]
  split <;> rfl

theorem mapPlayers_player (m : Match) (team : MatchTeams) (i : Fin 16) :
    ((m.mapPlayers fun slot => { slot with team := team }).slots i).player =
      (m.slots i).player := by
  simp only [Match.mapPlayers, Match.mapSlots]
  split <;> rfl

-- Where no scrim is on, the type is looked up after the slots have their teams.
theorem changeTeamType_run {teamType : Int} (hoff : ¬(s.matchAt r).isScrimming) :
    (changeTeamType r teamType s).2 =
      let newTeam := if teamType = 0 ∨ teamType = 1 then MatchTeams.neutral else .red
      let given := s.modifyMatch r fun m => m.mapPlayers fun slot => { slot with team := newTeam }
      match MatchTeamTypes.ofValue teamType with
      | some known => given.modifyMatch r fun m => { m with teamType := known }
      | none => given := by
  unfold changeTeamType
  rw [read_bind_run, if_neg hoff, updateMatch_bind_run, bind_run]
  cases MatchTeamTypes.ofValue teamType <;> rfl

theorem changeTeamType_colors {teamType : Int} (h : (s.matchAt r).Admits teamType) :
    Moves KeepsColors s (changeTeamType r teamType) := by
  by_cases hon : (s.matchAt r).isScrimming
  · refine Moves.read_bind (Moves.ite (fun _ => ?_) fun hoff => absurd hon hoff)
    exact Moves.lift_bind fun name _ => keepsColors_tolerant.along (sendBot_work _ _) s
  unfold Moves
  rw [changeTeamType_run hon]
  dsimp only
  cases htype : MatchTeamTypes.ofValue teamType with
  | some known =>
    dsimp only
    rw [modifyMatch_modifyMatch]
    refine keepsColors_modifyMatch fun hcolors => ?_
    exact hcolors.retyped (mapPlayers_team _ _) (mapPlayers_player _ _) fun i _ =>
      MatchTeamTypes.newTeam_neutral htype
  | none =>
    refine keepsColors_modifyMatch fun hcolors => ?_
    refine hcolors.retyped (mapPlayers_team _ _) (mapPlayers_player _ _) fun i hi => ?_
    have hred : ¬(teamType = 0 ∨ teamType = 1) := by
      rintro (rfl | rfl) <;> cases htype
    have hteams : ¬(s.matchAt r).teamType.ffa := by
      rcases h with hknown | hscrim | hteams | hempty
      · rw [htype] at hknown
        cases hknown
      · exact absurd hscrim hon
      · exact hteams
      · rw [(allEmpty_iff _).mp hempty i] at hi
        cases hi
    rw [if_neg hred]
    exact ⟨nofun, fun hffa => absurd hffa hteams⟩

theorem mpTeams_colors (ctx : Context) (r : MatchRef) : Within KeepsColors (mpTeams ctx r) := by
  refine within_oneArg fun arg => ?_
  split
  · exact within_answer _
  · rename_i teamType _
    intro s
    refine Moves.update_update_bind (R := KeepsColors) ?_ (Within.moves ?_)
    · rw [modifyMatch_modifyMatch]
      refine keepsColors_modifyMatch fun hcolors => ?_
      exact hcolors.retyped (mapPlayers_team _ _) (mapPlayers_player _ _) fun i _ =>
        MatchTeamTypes.defaultTeam_neutral
    · refine Within.bind (Within.update fun _ => keepsColors_modifyMatch fun hcolors => ?_)
        fun _ => ?_
      · split
        · exact hcolors
        · exact hcolors
      · exact Within.bind (keepsColors_tolerant.along (enqueueState_work r true)) fun _ =>
          within_answer _

theorem newMatch_colored {data : MultiplayerMatch} {id : Fin 64} {chat : ChannelRef} {m : Match}
    (h : newMatch data id chat = .ok m) : m.Colored := by
  obtain ⟨mode, -, h⟩ := of_bind_ok h
  obtain ⟨winCondition, -, h⟩ := of_bind_ok h
  obtain ⟨teamType, -, h⟩ := of_bind_ok h
  cases h
  exact fun _ => ⟨fun _ => .inr rfl, fun _ => rfl⟩

theorem matchCreate_colors (p : PlayerRef) (data : MultiplayerMatch) (now : Int) :
    Within KeepsColors (matchCreate p data now) := by
  intro s
  refine matchCreate_lenient keepsColors_tolerant p now fun m hm id => ?_
  obtain ⟨k, hnew⟩ := created_eq_some hm
  refine registerMatch_lenient keepsColors_tolerant fun t r => ?_
  by_cases hr : r = t.nextMatch
  · subst hr
    simpa using fun _ => newMatch_colored hnew
  · simp [hr]

end Writers

section Settings

variable {s : Server} {p : PlayerRef} {r : MatchRef} {data : MultiplayerMatch}

-- Freemods are switched off only where the host has a slot, or else the packet ends there.
def switches (s : Server) (r : MatchRef) (data : MultiplayerMatch) : Bool :=
  data.freemods = (s.matchAt r).freemods || data.freemods || (hostSlot s r).isSome

theorem switches_of_ok (h : (Prog.onlyIf (data.freemods ≠ (s.matchAt r).freemods)
    (changeFreemods r data.freemods) s).1 = .ok ()) : switches s r data := by
  by_contra hstops
  simp only [switches, Bool.or_eq_true, decide_eq_true_eq, not_or, Bool.not_eq_true,
    Option.isSome_eq_false_iff, Option.isNone_iff_eq_none] at hstops
  obtain ⟨⟨hswitch, hoff⟩, hslot⟩ := hstops
  obtain ⟨e, hrun⟩ := changeFreemods_off_raises hslot
  unfold Prog.onlyIf at h
  rw [if_pos hswitch, hoff, hrun] at h
  cases h

-- The match that a settings packet gets as far as the types of.
def retyped (s : Server) (p : PlayerRef) (data : MultiplayerMatch) : Option MatchRef := do
  let r ← (s.player p).matchRef
  let host ← (matchHost s (s.matchAt r)).toOption
  if validateMatchData data (s.player p).id ∧ p = host ∧ switches s r data ∧
      (data.mapId = -1 ∨ (s.matchAt r).mapId ≠ -1) then
    some r
  else none

theorem changeTypes_colors (hr : (s.player p).matchRef = some r)
    (h : (s.matchAt r).Admits data.teamType) : Moves KeepsColors s (changeTypes p data) := by
  refine changeTypes_lenient keepsColors_tolerant.toSparing p data fun r' hr' _ => ?_
  obtain rfl := Option.some.inj (hr.symm.trans hr')
  exact changeTeamType_colors h

theorem matchChangeSettings_colors
    (h : ∀ r ∈ retyped s p data, (s.matchAt r).Admits data.teamType) :
    Moves KeepsColors s (matchChangeSettings p data) := by
  refine matchChangeSettings_lenient keepsColors_tolerant.toSparing p data ?_ ?_
  · exact fun r _ _ _ _ => changeFreemods_sideless keepsColors_sideless r _ s
  · intro r hr hhost hvalid hreached hok t ht
    have hadmits := h r (by
      simp [retyped, hr, hhost, hvalid, hreached, switches_of_ok hok, Except.toOption])
    exact changeTypes_colors ((ht.matchRef p).trans hr) (hadmits.sides (ht.sides r))

-- The mode that a match gets with the map that was looked up.
def chosenMode (s : Server) (r : MatchRef) (data : MultiplayerMatch) :
    Option Beatmap → Option GameMode
  | none => GameMode.ofValue data.mode
  | some _ => (matchHost s (s.matchAt r)).toOption.bind fun host =>
      GameMode.ofValue (s.player host).mode.asVanilla

theorem chosenMode_of_ok {found : Option Beatmap} (h : (chooseMap r data found s).1 = .ok ()) :
    (chosenMode s r data found).isSome := by
  cases found with
  | none =>
    simp only [chooseMap] at h
    rw [updateMatch_bind_run, bind_run] at h
    unfold chosenMode
    cases hmode : GameMode.ofValue data.mode with
    | none =>
      rw [hmode] at h
      cases h
    | some mode => rfl
  | some bmap =>
    let chosen := fun m : Match =>
      { m with mapId := bmap.id, mapMd5 := bmap.md5, mapName := bmap.fullName }
    have hsame : matchHost (s.modifyMatch r chosen) ((s.modifyMatch r chosen).matchAt r) =
        matchHost s (s.matchAt r) := by
      have hat : (s.modifyMatch r chosen).matchAt r = chosen (s.matchAt r) := by
        simp [Server.modifyMatch]
      rw [hat]
      rfl
    simp only [chooseMap] at h
    rw [updateMatch_bind_run, read_bind_run, hsame] at h
    unfold chosenMode
    cases hhost : matchHost s (s.matchAt r) with
    | error e =>
      rw [hhost] at h
      cases h
    | ok host =>
      rw [hhost, bind_run_ok (lift_ok_run host _), bind_run] at h
      cases hmode : GameMode.ofValue (s.player host).mode.asVanilla with
      | none =>
        have hmode' : GameMode.ofValue ((s.modifyMatch r chosen).player host).mode.asVanilla =
          none := hmode
        rw [hmode'] at h
        cases h
      | some mode => simp [Except.toOption, hmode]

theorem resumeChangeSettings_colors {found : Option Beatmap}
    (h : ∀ r ∈ (s.player p).matchRef, (chosenMode s r data found).isSome →
      (s.matchAt r).Admits data.teamType) :
    Moves KeepsColors s (resumeChangeSettings p data found) := by
  refine Moves.read_bind ?_
  split
  · exact Moves.raise _
  · rename_i r hr
    refine Moves.bind ?_ fun _ t ht => ?_
    · exact chooseMap_sideless keepsColors_sideless r data found s
    · have hkept : KeepsSides s t :=
        Within.run (chooseMap_sideless keepsSides_sideless r data found) ht
      have hadmits := h r hr (chosenMode_of_ok (congrArg Prod.fst ht))
      exact changeTypes_colors ((hkept.matchRef p).trans hr) (hadmits.sides (hkept.sides r))

end Settings

section Steps

variable {s : Server} {p : PlayerRef}

-- Nobody changes teams in a match without teams, and no unknown type comes to one.
def Packet.TeamSafe (s : Server) (p : PlayerRef) : Packet → Prop
  | .changeTeam => ∀ r ∈ (s.player p).matchRef, (s.matchAt r).teamType.ffa →
      (s.matchAt r).getSlotId p = none
  | .changeSettings data => ∀ r ∈ retyped s p data, (s.matchAt r).Admits data.teamType
  | _ => True

instance Packet.TeamSafe.decidable (s : Server) (p : PlayerRef) (packet : Packet) :
    Decidable (packet.TeamSafe s p) :=
  match packet with
  | .changeTeam => inferInstanceAs (Decidable (∀ r ∈ (s.player p).matchRef, _ → _))
  | .changeSettings data =>
      inferInstanceAs (Decidable (∀ r ∈ retyped s p data, (s.matchAt r).Admits data.teamType))
  | .logout | .partLobby | .joinLobby | .joinMatch _ _ | .partMatch | .changeSlot _ | .ready
  | .lock _ | .start | .scoreUpdate _ | .complete | .changeMods _ | .loadComplete | .noBeatmap
  | .notReady | .failed | .hasBeatmap | .skipRequest | .channelJoin _ | .channelPart _
  | .transferHost _ | .tourneyMatchInfo _ | .tourneyJoinChannel _ | .tourneyLeaveChannel _
  | .createMatch _ | .sendMessage _ _ _ | .invite _ | .changePassword _ | .startSpectating _
  | .stopSpectating | .cantSpectate => isTrue trivial

-- The same for the settings of a host who waited for the map.
def Suspended.TeamSafe (s : Server) (found : Lookup) : Suspended → Prop
  | .settings p data => ∀ r ∈ (s.player p).matchRef,
      (chosenMode s r data found.beatmap).isSome → (s.matchAt r).Admits data.teamType
  | .command _ _ _ => True

instance Suspended.TeamSafe.decidable (s : Server) (found : Lookup) (next : Suspended) :
    Decidable (next.TeamSafe s found) :=
  match next with
  | .settings p _ => inferInstanceAs (Decidable (∀ r ∈ (s.player p).matchRef, _ → _))
  | .command _ _ _ => isTrue trivial

def Event.TeamSafe (w : World) : Event → Prop
  | .packet p request _ => request.TeamSafe w.server p
  | .resume i found _ => ∀ next ∈ w.suspended[i]?, next.TeamSafe w.server found
  | _ => True

instance Event.TeamSafe.decidable (w : World) (event : Event) : Decidable (event.TeamSafe w) :=
  match event with
  | .packet p request _ => inferInstanceAs (Decidable (request.TeamSafe w.server p))
  | .resume i found _ =>
      inferInstanceAs (Decidable (∀ next ∈ w.suspended[i]?, next.TeamSafe w.server found))
  | .login _ | .startTimer _ | .disconnect _ | .silence _ _ _ => isTrue trivial

theorem MpCommand.run_colors {command : MpCommand} (h : command.modding ∨ command.teaming)
    (ctx : Context) (r : MatchRef) : Within KeepsColors (command.run ctx r) := by
  cases command with
  | mods => exact mpMods_sideless keepsColors_sideless ctx r
  | freemods => exact mpFreemods_sideless keepsColors_sideless ctx r
  | teams => exact mpTeams_colors ctx r
  | _ => rcases h with h | h <;> cases h

theorem Packet.handle_colors {packet : Packet} (h : packet.TeamSafe s p) (clock : Clock)
    (hsides : packet.modding ∨ packet = .changeTeam) :
    Moves KeepsColors s (packet.handle p clock) := by
  cases packet with
  | createMatch data => exact finished_within (matchCreate_colors p data clock.now) s
  | changeSettings data =>
    exact Moves.bind (matchChangeSettings_colors h) fun _ _ _ => Moves.pure _
  | changeMods mods =>
    exact finished_within (matchChangeMods_sideless keepsColors_sideless p mods) s
  | sendMessage text recipient mp =>
    refine sendMessage_tolerant keepsColors_tolerant p text recipient mp clock ?_
    exact fun _ given _ hgiven ctx _ _ => MpCommand.run_colors hgiven ctx given.2.2 _
  | changeTeam => exact Moves.bind (matchChangeTeam_colors h) fun _ _ _ => Moves.pure none
  | _ => rcases hsides with hsides | hsides <;> cases hsides

theorem login_colors (profile : Profile) : Within KeepsColors (login profile) := by
  intro s r
  obtain ⟨players, h⟩ := playersAppend_eq s.nextPlayer (freshSession s profile)
  rw [login_run, h]
  exact id

theorem step_colors {w : World} {event : Event} (h : event.TeamSafe w) :
    KeepsColors w.server (w.step event).server := by
  refine keepsColors_tolerant.step (fun profile _ => login_colors profile w.server) ?_ ?_
  · rintro p packet clock rfl hsides
    exact Packet.handle_colors h clock hsides
  · rintro i found elapsed next rfl hnext
    have hsafe : next.TeamSafe w.server found := h next hnext
    refine next.resume_tolerant keepsColors_tolerant ?_ (fun _ _ => trivial) ?_ elapsed
    · rintro p data rfl
      exact resumeChangeSettings_colors hsafe
    · exact fun _ r modsSlot mods _ _ =>
        resumePickMap_sideless keepsColors_sideless r modsSlot mods found.beatmap

end Steps

section Rounds

variable {σ : Type} {num : Numbers σ} {s : Server} {r : MatchRef}

theorem takePoint_colors (r : MatchRef) (scores : List (Contestant × σ)) (winner : Contestant) :
    Within KeepsColors (takePoint num r scores winner) := by
  have hend : Within KeepsColors (updateMatch r Match.endScrim) :=
    Within.update fun _ => keepsColors_modifyMatch id
  refine Within.read_bind fun s => ?_
  split
  · refine Within.moves (Within.read_bind fun t => Within.moves (Within.ite ?_ (Within.pure _)))
    exact Within.bind hend fun _ => Within.pure _
  · refine Within.moves (Within.read_bind fun t => Moves.lift_bind fun wname _ =>
      Moves.lift_bind fun lname _ => Within.moves ?_)
    refine Within.bind (Within.update fun _ => keepsColors_modifyMatch id) fun _ => ?_
    refine Within.read_bind fun u => Within.moves (Within.ite ?_ (Within.pure _))
    exact Within.bind hend fun _ => Within.pure _
  · exact Moves.raise _

theorem awardPoint_colors (r : MatchRef) (scores : List (Contestant × σ))
    (didntSubmit : List (Option PlayerRef)) :
    Within KeepsColors (awardPoint num r scores didntSubmit) := by
  have hsay : ∀ chat msg, Within KeepsColors (sendBot chat msg) := fun chat msg =>
    keepsColors_tolerant.along (sendBot_work chat msg)
  refine Within.read_bind fun s => Within.moves ?_
  refine Within.bind (Within.each (fun _ => hsay _ _) _) fun _ => ?_
  cases scores with
  | nil => exact hsay _ _
  | cons first rest =>
    refine Within.ite ?_ ?_
    · exact Within.bind (Within.update fun _ => keepsColors_modifyMatch id) fun _ => hsay _ _
    · refine Within.bind (Within.update fun _ => keepsColors_modifyMatch id) fun _ => ?_
      refine Within.bind (takePoint_colors r (first :: rest) _) fun msg => ?_
      exact Within.bind (Within.onlyIf (hsay _ _)) fun _ => Within.each (fun _ => hsay _ _) msg

theorem Update.resume_colors (u : Update σ) (seen : Sighting σ) :
    Within KeepsColors (u.resume num seen) := by
  refine Within.read_bind fun s => ?_
  dsimp only
  split
  · exact Moves.pure _
  · exact Within.moves (Within.bind (awardPoint_colors _ _ _) fun _ => Within.pure none)
  · refine Moves.lift_bind fun w _ => Within.moves (Within.ite ?_ (Within.pure _))
    exact Within.bind (awardPoint_colors _ _ _) fun _ => Within.pure none

end Rounds

section Totals

variable {σ : Type} {num : Numbers σ} {m : Match} {seen : Sighting σ} {u : Update σ} {s : Server}

-- The contestants that an update has totals for once it has looked at the slots.
def Update.totalled (num : Numbers σ) (m : Match) (seen : Sighting σ) (u : Update σ) :
    List Contestant :=
  match u.waiting m seen with
  | none => []
  | some w => w.scores.map Prod.fst ++
      (w.slots.takeWhile (w.scored m seen)).filterMap (w.counted num m seen)

-- An update by teams counts nobody in a match that has no teams any more.
def Update.TeamSafe (num : Numbers σ) (m : Match) (seen : Sighting σ) (u : Update σ) : Prop :=
  ∀ w ∈ u.waiting m seen, w.ffa = false → m.teamType.ffa →
    ∀ i ∈ w.slots.takeWhile (w.scored m seen), w.counted num m seen i = none

instance Update.TeamSafe.decidable (num : Numbers σ) (m : Match) (seen : Sighting σ)
    (u : Update σ) : Decidable (u.TeamSafe num m seen) :=
  inferInstanceAs (Decidable (∀ w ∈ u.waiting m seen, _ → _ → _))

-- The totals of an update that waits are those of contestants.
def Update.Contested (u : Update σ) : Prop :=
  ∀ w, u.stage = .waiting w → .team .neutral ∉ w.scores.map Prod.fst

theorem waiting_contested {w : Waiting σ} (h : u.Contested) (hw : u.waiting m seen = some w) :
    .team .neutral ∉ w.scores.map Prod.fst := by
  unfold Update.waiting at hw
  cases hstage : u.stage with
  | spawned =>
    rw [hstage] at hw
    cases hw
  | fetching ffa winCond =>
    rw [hstage] at hw
    obtain ⟨totalLength, -, rfl⟩ := Option.map_eq_some_iff.mp hw
    exact List.not_mem_nil
  | waiting before =>
    rw [hstage] at hw
    obtain rfl := Option.some.inj hw
    have hslept : (before.slept m).scores = before.scores := by
      unfold Waiting.slept
      dsimp only
      split
      · split <;> rfl
      · rfl
    rw [hslept]
    exact h before hstage

-- A slot that is counted for no team has nobody in it, or its match has no teams.
theorem counted_neutral {w : Waiting σ} {i : Fin 16} (hcolors : m.Colored)
    (h : w.counted num m seen i = some (.team .neutral)) : w.ffa = false ∧ m.teamType.ffa := by
  unfold Waiting.counted at h
  obtain ⟨p, hp, h⟩ := Option.bind_eq_some_iff.mp h
  obtain ⟨score, -, h⟩ := Option.bind_eq_some_iff.mp h
  split at h
  · have hkey := Option.some.inj h
    unfold Waiting.key at hkey
    split at hkey
    · cases hkey
    · rename_i hffa
      rcases (hcolors i).mp (Contestant.team.inj hkey) with hteams | hnone
      · exact ⟨Bool.not_eq_true _ ▸ hffa, hteams⟩
      · rw [hp] at hnone
        cases hnone
  · cases h

theorem Update.Contested.totalled (h : u.Contested) (hcolors : m.Colored)
    (hsafe : u.TeamSafe num m seen) : .team .neutral ∉ u.totalled num m seen := by
  unfold Update.totalled
  cases hw : u.waiting m seen with
  | none => exact List.not_mem_nil
  | some w =>
    intro hmem
    rcases List.mem_append.mp hmem with hbefore | hnow
    · exact waiting_contested h hw hbefore
    · obtain ⟨i, hi, hcounted⟩ := List.mem_filterMap.mp hnow
      obtain ⟨hteams, hffa⟩ := counted_neutral hcolors hcounted
      rw [hsafe w hw hteams hffa i hi] at hcounted
      cases hcounted

-- An update that goes on waiting has looked at the slots.
theorem resume_waiting {t : Server} {next : Update σ} {w : Waiting σ}
    (h : u.resume num seen s = (.ok (some next), t)) (hnext : next.stage = .waiting w) :
    ∃ before, u.waiting (s.matchAt u.target) seen = some before ∧
      before.poll num (s.matchAt u.target) seen before.slots = .ok w := by
  have hended {x : Handler Unit} {v : Server}
      (hx : (x >>= fun _ => pure none) v = (.ok (some next), t)) : False := by
    rw [bind_run] at hx
    split at hx <;> cases hx
  unfold Update.resume at h
  rw [read_bind_run] at h
  cases hstart : u.start (s.matchAt u.target) with
  | some started =>
    rw [hstart] at h
    cases h
    unfold Update.start at hstart
    split at hstart
    · cases hstart
      cases hnext
    · cases hstart
  | none =>
    rw [hstart] at h
    cases hbefore : u.waiting (s.matchAt u.target) seen with
    | none =>
      rw [hbefore] at h
      exact (hended h).elim
    | some before =>
      rw [hbefore] at h
      dsimp only at h
      cases hpoll : before.poll num (s.matchAt u.target) seen before.slots with
      | error e =>
        rw [hpoll] at h
        cases h
      | ok polled =>
        rw [hpoll, bind_run_ok (lift_ok_run polled s)] at h
        split at h
        · exact (hended h).elim
        · cases h
          cases hnext
          exact ⟨before, rfl, hpoll⟩

theorem resume_contested {t : Server} {next : Update σ}
    (h : u.resume num seen s = (.ok (some next), t))
    (htotals : .team .neutral ∉ u.totalled num (s.matchAt u.target) seen) : next.Contested := by
  intro w hstage hmem
  obtain ⟨before, hbefore, hpoll⟩ := resume_waiting h hstage
  refine htotals ?_
  unfold Update.totalled
  rw [hbefore]
  exact List.mem_append.mpr (mem_poll hpoll hmem)

end Totals

section Runs

variable {σ : Type} {num : Numbers σ} {a : Arena σ}

namespace Arena

-- Teams come only to matches that have teams.
def TeamSafe (num : Numbers σ) (a : Arena σ) : Happening σ → Prop
  | .event event => event.TeamSafe a.world
  | .resume i seen => ∀ pending ∈ a.updates[i]?,
      pending.1.TeamSafe num (a.matchAt pending.1.target) seen

instance TeamSafe.decidable (num : Numbers σ) (a : Arena σ) (happening : Happening σ) :
    Decidable (a.TeamSafe num happening) :=
  match happening with
  | .event event => inferInstanceAs (Decidable (event.TeamSafe a.world))
  | .resume i _ => inferInstanceAs (Decidable (∀ pending ∈ a.updates[i]?, _))

-- The contestants that the update which goes on has totals for.
def totalled (num : Numbers σ) (a : Arena σ) : Happening σ → List Contestant
  | .event _ => []
  | .resume i seen =>
      match a.updates[i]? with
      | some (u, _) => u.totalled num (a.matchAt u.target) seen
      | none => []

structure Teamed (a : Arena σ) : Prop where
  colors : ∀ r, (a.matchAt r).Colored
  contested : ∀ pending ∈ a.updates, pending.1.Contested

end Arena

theorem Arena.Teamed.totalled (h : a.Teamed) {happening : Happening σ}
    (hsafe : a.TeamSafe num happening) : .team .neutral ∉ a.totalled num happening := by
  cases happening with
  | event event => exact List.not_mem_nil
  | resume i seen =>
    unfold Arena.totalled
    dsimp only
    split
    · rename_i u stamp hpending
      exact (h.contested _ (List.mem_of_getElem? hpending)).totalled (h.colors u.target)
        (hsafe (u, stamp) hpending)
    · exact List.not_mem_nil

theorem happen_updates {event : Event} {pending : Update σ × Stamp}
    (h : pending ∈ (a.happen event).updates) :
    pending ∈ a.updates ∨ pending.1.stage = .spawned := by
  unfold Arena.happen at h
  dsimp only at h
  split at h
  · rcases List.mem_append.mp h with hold | hnew
    · exact .inl hold
    · rw [List.mem_singleton.mp hnew]
      exact .inr rfl
  · exact .inl h

theorem happen_teamed {event : Event} (hsafe : event.TeamSafe a.world) (h : a.Teamed) :
    (a.happen event).Teamed := by
  refine ⟨fun r => ?_, fun pending hpending => ?_⟩
  · rw [happen_matchAt]
    exact step_colors hsafe r (h.colors r)
  · rcases happen_updates hpending with hold | hspawned
    · exact h.contested pending hold
    · intro w hw
      rw [hspawned] at hw
      cases hw

theorem resume_teamed {i : Nat} {seen : Sighting σ} {u : Update σ} {stamp : Stamp}
    (hpending : a.updates[i]? = some (u, stamp))
    (hsafe : u.TeamSafe num (a.matchAt u.target) seen) (h : a.Teamed) :
    (a.resume num i seen u stamp).Teamed := by
  have htotals : .team .neutral ∉ u.totalled num (a.matchAt u.target) seen :=
    (h.contested _ (List.mem_of_getElem? hpending)).totalled (h.colors u.target) hsafe
  refine ⟨fun r => ?_, fun pending hmem => ?_⟩
  · exact Update.resume_colors u seen a.world.server r (h.colors r)
  · unfold Arena.resume at hmem
    dsimp only at hmem
    split at hmem
    · rename_i next hnext
      rcases List.mem_or_eq_of_mem_set hmem with hold | rfl
      · exact h.contested pending hold
      · exact resume_contested (Prod.ext hnext rfl) htotals
    · exact h.contested pending (List.mem_of_mem_eraseIdx hmem)

theorem step_teamed {happening : Happening σ} (hsafe : a.TeamSafe num happening) (h : a.Teamed) :
    (a.step num happening).Teamed := by
  cases happening with
  | event event => exact happen_teamed hsafe h
  | resume i seen =>
    unfold Arena.step
    dsimp only
    split
    · rename_i u stamp hpending
      exact resume_teamed hpending (hsafe (u, stamp) hpending) h
    · exact h

theorem start_teamed (setup : Setup) : (Arena.start setup : Arena σ).Teamed := by
  refine ⟨fun r => ?_, fun pending hmem => absurd hmem List.not_mem_nil⟩
  show (setup.start.server.matchAt r).Colored
  rw [(start_matches setup).2]
  exact fun _ => ⟨fun _ => .inr rfl, fun _ => rfl⟩

-- The teams of every match and the totals of every round, along every run in which teams come
-- only to matches that have teams.
theorem teams_kept (num : Numbers σ) (setup : Setup) (run : List (Happening σ))
    (h : Guarded (Arena.step num) (Arena.TeamSafe num) (Arena.start setup) run) :
    let a := runFrom (Arena.step num) (Arena.start setup) run
    (∀ r, (a.matchAt r).Teamed) ∧
      ∀ happening, a.TeamSafe num happening → .team .neutral ∉ a.totalled num happening := by
  have hteamed := Guarded.invariant Arena.Teamed (fun _ _ hkept hsafe => step_teamed hsafe hkept)
    (start_teamed setup) h
  exact ⟨fun r => (hteamed.colors r).teamed, fun happening hsafe => hteamed.totalled hsafe⟩

-- Two players of a team-vs match, each in a team of their own; a round of their scrim is over.
def teamRound : List (Happening Nat) :=
  [.event (visit 11), .event (visit 12),
    .event (.packet 1 (.createMatch { plainMatch 11 with teamType := 2 }) { now := 10 }),
    .event (.packet 2 (.joinMatch 0 "") { now := 10 }),
    .event (.packet 2 .changeTeam { now := 10 }), said 1 "scrim" ["3"],
    .event (.packet 1 .start { now := 10 }), .event (.packet 1 .complete { now := 10 }),
    .event (.packet 2 .complete { now := 10 }), .resume 0 (sighting false),
    .resume 0 (sighting false)]

theorem teams_kept_teamRound :
    let a := runFrom (Arena.step counting) (Arena.start refereed) teamRound
    ((∀ r, (a.matchAt r).Teamed) ∧ ∀ happening, a.TeamSafe counting happening →
      .team .neutral ∉ a.totalled counting happening) ∧
      a.totalled counting (.resume 0 (sighting true)) = [.team .red] := by
  intro a
  exact ⟨teams_kept counting refereed teamRound (by decide +kernel), by decide +kernel⟩

-- A player changes teams in a head-to-head match, a host sends a type that there is not, and a
-- round by teams goes on after !mp teams ffa.
theorem not_teams_kept :
    let two := twoInAMatch.map Happening.event
    let run := fun happenings => runFrom (Arena.step counting) (Arena.start refereed) happenings
    ¬((run (two ++ [.event (.packet 2 .changeTeam { now := 10 })])).matchAt 0).Teamed ∧
      ¬((run (two ++ [.event (.packet 1 (.changeSettings { plainMatch 11 with teamType := 4 })
        { now := 10 })])).matchAt 0).Teamed ∧
      .team .neutral ∈ (run (teamRound ++ [said 1 "teams" ["ffa"]])).totalled counting
        (.resume 0 (sighting true)) := by
  decide +kernel

end Runs

end BanchoPrism
