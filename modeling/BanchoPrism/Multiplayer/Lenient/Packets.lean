import BanchoPrism.Multiplayer.Lenient
import BanchoPrism.Multiplayer.Quiet.Commands

namespace BanchoPrism

open Library Prog

section Sides

section Updates

def Match.sides (m : Match) : MatchTeamTypes × (Fin 16 → Slot) × Scrim :=
  (m.teamType, m.slots, m.scrim)

variable {m m' m'' : Match} {R : Server → Server → Prop}

theorem SameSides.of_sides (h : SameSides m m') (hsides : m''.sides = m'.sides) :
    SameSides m m'' := by
  simp only [Match.sides, Prod.mk.injEq] at hsides
  obtain ⟨htype, hslots, hscrim⟩ := hsides
  exact h.trans ⟨⟨htype, fun i => by rw [hslots]⟩, fun i => by rw [hslots], hscrim⟩

-- The players get these mods.
theorem SameSides.playerMods (mods : Mods) (hsides : m'.sides =
    (m.mapPlayers fun slot => { slot with mods := mods }).sides) : SameSides m m' := by
  refine SameSides.of_sides (SameSides.mapSlots (fun slot => ?_) fun slot => ?_) hsides
  · split <;> rfl
  · split <;> rfl

theorem Sideless.unmentioned (hR : Sideless R) {r : MatchRef} {f : Match → Match}
    (hf : ∀ m, (f m).sides = m.sides) : Within R (BanchoPrism.updateMatch r f) :=
  hR.updateMatch fun m => (SameSides.refl m).of_sides (hf m)

end Updates

variable {R : Server → Server → Prop} [Std.Refl R]

theorem setSlotMods_sideless (hR : Sideless R) (p : PlayerRef) (r : MatchRef) (mods : Mods) :
    Within R (setSlotMods p r mods) := by
  refine Within.read_bind fun s => ?_
  split
  · rename_i i _
    refine Within.moves (Within.update fun t => hR.sides ⟨⟨rfl, fun j => ?_⟩, fun j => ?_, rfl⟩)
    · by_cases hj : j = i <;> simp [hj]
    · by_cases hj : j = i <;> simp [hj]
  · exact Moves.raise _

variable [IsTrans Server R]

theorem changeFreemods_sideless (hR : Sideless R) (r : MatchRef) (freemods : Bool) :
    Within R (changeFreemods r freemods) := by
  refine Within.bind (hR.unmentioned fun _ => rfl) fun _ => Within.ite ?_ ?_
  · exact hR.updateMatch fun m => SameSides.playerMods _ rfl
  · refine Within.read_bind fun s => Moves.lift_bind fun i _ => ?_
    split
    · refine Within.moves (hR.updateMatch fun m => ?_)
      exact SameSides.playerMods _ rfl
    · exact Moves.raise _

theorem matchChangeMods_sideless (hR : Sideless R) (p : PlayerRef) (mods : Int) :
    Within R (matchChangeMods p mods) := by
  have hsend := fun r => hR.along (enqueueState_work r true)
  refine within_inMatch fun r => Within.read_bind fun s => Moves.lift_bind fun host _ => ?_
  refine Within.moves (Within.ite ?_ (Within.ite ?_ (Within.pure ())))
  · refine Within.bind (Within.onlyIf (hR.unmentioned fun _ => rfl)) fun _ => ?_
    exact Within.bind (setSlotMods_sideless hR p r _) fun _ => hsend r
  · exact Within.bind (hR.unmentioned fun _ => rfl) fun _ => hsend r

theorem setCommandMods_sideless (hR : Sideless R) (p : PlayerRef) (r : MatchRef) (mods : Mods) :
    Within R (setCommandMods p r mods) := by
  refine Within.read_bind fun s => Moves.ite (fun _ => ?_) fun _ => Within.moves ?_
  · refine Moves.lift_bind fun host _ => Within.moves (Within.bind (Within.onlyIf ?_) fun _ => ?_)
    · exact hR.unmentioned fun _ => rfl
    · exact setSlotMods_sideless hR p r _
  · exact hR.unmentioned fun _ => rfl

theorem mpMods_sideless (hR : Sideless R) (ctx : Context) (r : MatchRef) :
    Within R (mpMods ctx r) := by
  refine within_oneArg fun arg => Within.ite (within_answer _) (Within.read_bind fun s => ?_)
  refine Within.moves (Within.bind (setCommandMods_sideless hR ctx.player r _) fun _ => ?_)
  exact Within.bind (hR.along (enqueueState_work r true)) fun _ => within_answer _

theorem mpFreemods_sideless (hR : Sideless R) (ctx : Context) (r : MatchRef) :
    Within R (mpFreemods ctx r) := by
  refine within_oneArg fun arg => Within.ite ?_ (within_answer _)
  refine Within.bind (changeFreemods_sideless hR r _) fun _ => ?_
  exact Within.bind (hR.along (enqueueState_work r true)) fun _ => within_answer _

theorem resumePickMap_sideless (hR : Sideless R) (r : MatchRef) (modsSlot : String) (mods : Mods)
    (found : Option Beatmap) : Within R (resumePickMap r modsSlot mods found) := by
  cases found with
  | none => exact within_answer _
  | some bmap =>
    refine Within.bind (hR.unmentioned fun _ => rfl) fun _ => ?_
    refine Within.bind (hR.updateMatch fun m => ?_) fun _ => ?_
    · split
      · exact SameSides.playerMods _ rfl
      · exact SameSides.refl m
    refine Within.bind (hR.unmentioned fun _ => rfl) fun _ => ?_
    refine Within.bind (hR.along (enqueueState_work r true)) fun _ => ?_
    exact Within.read_bind fun t => within_answer _ t

theorem chooseMap_sideless (hR : Sideless R) (r : MatchRef) (data : MultiplayerMatch)
    (found : Option Beatmap) : Within R (chooseMap r data found) := by
  cases found with
  | none =>
    refine Within.bind (hR.unmentioned fun _ => rfl) fun _ => ?_
    exact Within.bind (Within.lift _) fun mode => hR.unmentioned fun _ => rfl
  | some bmap =>
    refine Within.bind (hR.unmentioned fun _ => rfl) fun _ => Within.read_bind fun t => ?_
    refine Moves.lift_bind fun host _ => Moves.lift_bind fun mode _ => Within.moves ?_
    exact hR.unmentioned fun _ => rfl

end Sides

variable {maps : Int → Prop} {R : Server → Server → Prop} [Std.Refl R] [IsTrans Server R]

section Settings

theorem changeTeamType_restating (hR : Restating maps R) (r : MatchRef) (teamType : Int) :
    Within R (changeTeamType r teamType) := by
  refine Within.read_bind fun s => Moves.ite (fun _ => ?_) fun _ => ?_
  · exact Moves.lift_bind fun name _ => (hR.along (sendBot_work _ _)) s
  · refine Within.moves (Within.bind ?_ fun _ => Within.bind (Within.lift _) fun teamType => ?_)
    · exact hR.updateMatch fun m => Plain.of_mapPlayers fun _ => ⟨rfl, rfl, .inl, .inl rfl⟩
    · exact hR.unmentioned fun _ => rfl

theorem changeWinCondition_lenient (hR : Sparing maps R) (r : MatchRef) (winCondition : Int) :
    Within R (changeWinCondition r winCondition) := by
  refine Within.bind (hR.unmentioned (fun _ => rfl) fun _ => rfl) fun _ => ?_
  exact Within.bind (Within.lift _) fun winCondition => hR.unmentioned (fun _ => rfl) fun _ => rfl

-- The type of the teams is what R has to have room for.
theorem changeTypes_lenient (hR : Sparing maps R) (p : PlayerRef) (data : MultiplayerMatch)
    {s : Server} (htype : ∀ r, (s.player p).matchRef = some r →
      (((s.matchAt r).teamType.value : Int) ≠ data.teamType) →
        Moves R s (changeTeamType r data.teamType)) :
    Moves R s (changeTypes p data) := by
  refine Moves.read_bind ?_
  split
  · exact Moves.raise _
  rename_i r hr
  refine Moves.bind (Moves.onlyIf (htype r hr)) fun _ t _ => Within.moves ?_
  refine Within.bind (Within.onlyIf (changeWinCondition_lenient hR r _)) fun _ => ?_
  refine Within.bind ?_ fun _ => hR.along (enqueueState_work r true)
  exact hR.unmentioned (fun _ => rfl) fun _ => rfl

theorem changeTypes_restating (hR : Restating maps R) (p : PlayerRef) (data : MultiplayerMatch) :
    Within R (changeTypes p data) := fun s =>
  changeTypes_lenient hR.sparing p data fun r _ _ => changeTeamType_restating hR r _ s

-- MatchChangeSettings from the map to the lookup, for a packet that found the server as s.
def changeSelected (s : Server) (p : PlayerRef) (r : MatchRef) (data : MultiplayerMatch) :
    Handler Bool :=
  if data.mapId = -1 then do
    updateMatch r fun m => m.unreadyPlayers .ready
    updateMatch r fun m =>
      { m with prevMapId := m.mapId, mapId := -1, mapMd5 := "", mapName := "" }
    changeTypes p data
    pure false
  else if (s.matchAt r).mapId = -1 then do
    Prog.onlyIf ((s.matchAt r).prevMapId ≠ data.mapId)
      (sendBot (s.matchAt r).chat ("Selected: " ++ mapEmbed s data.mapId data.mapName ++ "."))
    pure true
  else do
    changeTypes p data
    pure false

-- What the packet of a host does.
def changeSettings (s : Server) (p : PlayerRef) (r : MatchRef) (data : MultiplayerMatch) :
    Handler Bool := do
  Prog.onlyIf (data.freemods ≠ (s.matchAt r).freemods) (changeFreemods r data.freemods)
  changeSelected s p r data

theorem matchChangeSettings_host {p : PlayerRef} {data : MultiplayerMatch} {s : Server}
    {r : MatchRef} (hr : (s.player p).matchRef = some r)
    (hhost : matchHost s (s.matchAt r) = .ok p)
    (hvalid : validateMatchData data (s.player p).id) :
    matchChangeSettings p data s = changeSettings s p r data s := by
  unfold matchChangeSettings
  rw [read_bind_run, if_neg (by simpa using hvalid), hr]
  simp only [hhost]
  rw [bind_run_ok (lift_ok_run p s), if_pos rfl]
  rfl

theorem matchChangeSettings_cases (p : PlayerRef) (data : MultiplayerMatch) (s : Server) :
    (matchChangeSettings p data s).2 = s ∨ ∃ r, (s.player p).matchRef = some r ∧
      matchHost s (s.matchAt r) = .ok p ∧ validateMatchData data (s.player p).id ∧
      matchChangeSettings p data s = changeSettings s p r data s := by
  by_cases hvalid : validateMatchData data (s.player p).id
  case neg =>
    left
    unfold matchChangeSettings
    rw [read_bind_run, if_pos (by simpa using hvalid)]
    rfl
  cases hr : (s.player p).matchRef with
  | none =>
    left
    unfold matchChangeSettings
    rw [read_bind_run, if_neg (by simpa using hvalid), hr]
    rfl
  | some r =>
    by_cases hhost : matchHost s (s.matchAt r) = .ok p
    · exact .inr ⟨r, rfl, hhost, hvalid, matchChangeSettings_host hr hhost hvalid⟩
    · left
      unfold matchChangeSettings
      rw [read_bind_run, if_neg (by simpa using hvalid), hr]
      cases hfound : matchHost s (s.matchAt r) with
      | error e => simp only [hfound, lift_error_run, bind_run]
      | ok host =>
        have hp : p ≠ host := fun h => hhost (h ▸ hfound)
        simp only [hfound]
        rw [bind_run_ok (lift_ok_run host s), if_neg hp]
        rfl

-- The map is cleared without a change of sides, before the types are looked at.
theorem changeSelected_lenient (hR : Sparing maps R) (s : Server) (p : PlayerRef) (r : MatchRef)
    (data : MultiplayerMatch) {t : Server}
    (htypes : data.mapId = -1 ∨ (s.matchAt r).mapId ≠ -1 →
      ∀ u, KeepsSides t u → Moves R u (changeTypes p data)) :
    Moves R t (changeSelected s p r data) := by
  refine Moves.ite (fun hcleared => ?_) fun _ => Moves.ite (fun _ => ?_) fun hmap => ?_
  · have hunready : ∀ m : Match, SameSides m (m.unreadyPlayers .ready) := fun m =>
      SameSides.mapSlots (fun slot => by split <;> rfl) fun slot => by split <;> rfl
    have hS := keepsSides_sideless
    refine Moves.update_bind (hR.plain (Plain.unreadyPlayers rfl) (hunready _).toSameTeams) ?_
    refine Moves.update_bind (hR.plain (Plain.of_map hR.cleared rfl) ⟨rfl, fun _ => rfl⟩) ?_
    refine Moves.bind (htypes (.inl hcleared) _ ?_) fun _ _ _ => Moves.pure false
    exact trans_of KeepsSides (hS.sides (hunready _))
      (hS.sides ⟨⟨rfl, fun _ => rfl⟩, fun _ => rfl, rfl⟩)
  · refine Within.moves (Within.bind (Within.onlyIf (hR.along (sendBot_work _ _))) fun _ => ?_)
    exact Within.pure true
  · exact Moves.bind (htypes (.inr hmap) t (refl_of KeepsSides t)) fun _ _ _ => Moves.pure false

theorem changeSelected_restating (hR : Restating maps R) (s : Server) (p : PlayerRef) (r : MatchRef)
    (data : MultiplayerMatch) : Within R (changeSelected s p r data) := fun _ =>
  changeSelected_lenient hR.sparing s p r data fun _ u _ => changeTypes_restating hR p data u

-- The host may switch freemods and change the type, which is what R has to have room for.
theorem matchChangeSettings_lenient (hR : Sparing maps R) (p : PlayerRef) (data : MultiplayerMatch)
    {s : Server}
    (hfreemods : ∀ r, (s.player p).matchRef = some r → matchHost s (s.matchAt r) = .ok p →
      validateMatchData data (s.player p).id → data.freemods ≠ (s.matchAt r).freemods →
      Moves R s (changeFreemods r data.freemods))
    (htypes : ∀ r, (s.player p).matchRef = some r → matchHost s (s.matchAt r) = .ok p →
      validateMatchData data (s.player p).id → data.mapId = -1 ∨ (s.matchAt r).mapId ≠ -1 →
      (Prog.onlyIf (data.freemods ≠ (s.matchAt r).freemods)
        (changeFreemods r data.freemods) s).1 = .ok () →
      ∀ t, KeepsSides s t → Moves R t (changeTypes p data)) :
    Moves R s (matchChangeSettings p data) := by
  rcases matchChangeSettings_cases p data s with hsame | ⟨r, hr, hhost, hvalid, hrun⟩
  · unfold Moves
    rw [hsame]
    exact refl_of R s
  · unfold Moves
    rw [hrun]
    refine Moves.bind (Moves.onlyIf (hfreemods r hr hhost hvalid)) fun _ t ht => ?_
    have hkept : KeepsSides s t :=
      Within.run (Within.onlyIf (changeFreemods_sideless keepsSides_sideless r _)) ht
    refine changeSelected_lenient hR s p r data fun hreached u hu => ?_
    have hok := congrArg Prod.fst ht
    exact htypes r hr hhost hvalid hreached hok u (trans_of KeepsSides hkept hu)

theorem matchChangeSettings_restating (hR : Restating maps R) (p : PlayerRef)
    (data : MultiplayerMatch) {s : Server}
    (hfreemods : ∀ r, (s.player p).matchRef = some r → matchHost s (s.matchAt r) = .ok p →
      validateMatchData data (s.player p).id → data.freemods ≠ (s.matchAt r).freemods →
      Moves R s (changeFreemods r data.freemods)) :
    Moves R s (matchChangeSettings p data) :=
  matchChangeSettings_lenient hR.sparing p data hfreemods fun _ _ _ _ _ _ t _ =>
    changeTypes_restating hR p data t

-- The map is one of the beatmaps or the one the packet names.
theorem chooseMap_lenient (hR : Sparing maps R) (r : MatchRef) {data : MultiplayerMatch}
    {found : Option Beatmap} (hdata : maps data.mapId) (hfound : ∀ bmap ∈ found, maps bmap.id) :
    Within R (chooseMap r data found) := by
  cases found with
  | none =>
    refine Within.bind (hR.updateMatch (fun _ => Plain.of_map hdata rfl) fun _ => ?_) fun _ => ?_
    · exact ⟨rfl, fun _ => rfl⟩
    · exact Within.bind (Within.lift _) fun mode => hR.unmentioned (fun _ => rfl) fun _ => rfl
  | some bmap =>
    have hmap := hfound bmap rfl
    refine Within.bind (hR.updateMatch (fun _ => Plain.of_map hmap rfl) fun _ => ?_) fun _ => ?_
    · exact ⟨rfl, fun _ => rfl⟩
    · refine Within.read_bind fun t => Moves.lift_bind fun host _ => Moves.lift_bind fun mode _ =>
        Within.moves ?_
      exact hR.unmentioned (fun _ => rfl) fun _ => rfl

theorem resumeChangeSettings_restating (hR : Restating maps R) (p : PlayerRef)
    {data : MultiplayerMatch} {found : Option Beatmap} (hdata : maps data.mapId)
    (hfound : ∀ bmap ∈ found, maps bmap.id) :
    Within R (resumeChangeSettings p data found) := by
  refine Within.read_bind fun s => ?_
  split
  · exact Moves.raise _
  · exact Within.moves (Within.bind (chooseMap_lenient hR.sparing _ hdata hfound) fun _ =>
      changeTypes_restating hR p data)

end Settings

section Creating

variable {data : MultiplayerMatch}

theorem registerMatch_lenient (hR : Tolerant maps R) {id : Fin 64} {m : Match}
    (hadd : ∀ s : Server, R s
      { s with
        matchAt := Function.update s.matchAt s.nextMatch m
        nextMatch := s.nextMatch + 1
        matchList := Function.update s.matchList id (some s.nextMatch) }) :
    Within R (registerMatch id m) := by
  refine Within.read_bind fun s => Within.moves (Within.bind (Within.update hadd) fun _ => ?_)
  exact Within.bind (hR.along (channelsAppend_work _)) fun _ => Within.pure _

-- The match that MATCH_CREATE makes, if it is not refused.
def created (s : Server) (p : PlayerRef) (data : MultiplayerMatch) (now : Int) : Option Match :=
  if validateMatchData data (s.player p).id ∧ !(s.player p).restricted ∧
      !(s.player p).silenced now then
    s.freeMatchId.bind fun id => (newMatch data id s.nextChannel).toOption
  else none

theorem created_eq_some {s : Server} {p : PlayerRef} {now : Int} {m : Match}
    (h : created s p data now = some m) : ∃ id, newMatch data id s.nextChannel = .ok m := by
  unfold created at h
  split at h
  · obtain ⟨id, -, hm⟩ := Option.bind_eq_some_iff.mp h
    refine ⟨id, ?_⟩
    cases hnew : newMatch data id s.nextChannel with
    | error e =>
      rw [hnew] at hm
      cases hm
    | ok m' =>
      rw [hnew] at hm
      exact congrArg Except.ok (Option.some.inj hm)
  · cases h

theorem matchCreate_lenient (hR : Tolerant maps R) (p : PlayerRef) (now : Int) {s : Server}
    (hnew : ∀ m ∈ created s p data now, ∀ id, Within R (registerMatch id m)) :
    Moves R s (matchCreate p data now) := by
  have hrefuse : ∀ reason, Within R (refuseMultiplayer p reason) := fun reason =>
    Within.bind (hR.along (send_work p _)) fun _ => hR.along (send_work p _)
  unfold created at hnew
  refine Moves.read_bind (Moves.ite (fun _ => Moves.pure ()) fun hvalid => ?_)
  refine Moves.ite (fun _ => hrefuse _ s) fun hrestricted => ?_
  refine Moves.ite (fun _ => hrefuse _ s) fun hsilenced => ?_
  rw [if_pos (by simp_all)] at hnew
  split
  · refine Within.moves (Within.bind (hR.along (sendPlayerBot_work p _)) fun _ => ?_)
    exact hR.along (send_work p _)
  rename_i id hid
  refine Moves.bind (hR.along (allocChannel_work rfl) s) fun chat t hchat => ?_
  obtain rfl : s.nextChannel = chat := Except.ok.inj (congrArg Prod.fst hchat)
  refine Moves.lift_bind fun m hm => Within.moves ?_
  refine Within.bind (hnew m ?_ id) fun r => ?_
  · rw [hid]
    exact congrArg Except.toOption hm
  · exact Within.bind (joinMatch_lenient hR p r _) fun _ => hR.along (sendBot_work _ _)

theorem matchJoin_lenient (hR : Tolerant maps R) (p : PlayerRef) (matchId : Int) (passwd : String)
    (now : Int) :
    Within R (matchJoin p matchId passwd now) := by
  have hrefuse : ∀ reason, Within R (refuseMultiplayer p reason) := fun reason =>
    Within.bind (hR.along (send_work p _)) fun _ => hR.along (send_work p _)
  refine Within.read_bind fun s => Moves.lift_bind fun found _ => ?_
  split
  · exact (hR.along (send_work p _)) s
  · refine Within.moves (Within.ite (hrefuse _) (Within.ite (hrefuse _) ?_))
    exact Within.bind (joinMatch_lenient hR p _ _) fun _ => Within.pure ()

end Creating

section Slots

theorem matchChangeSlot_lenient (hR : Tolerant maps R) (p : PlayerRef) (slotId : Int) :
    Within R (matchChangeSlot p slotId) := by
  refine within_inMatch fun r => within_withSlotId fun j => Within.read_bind fun s => ?_
  refine Moves.ite (fun _ => Moves.pure ()) fun _ => ?_
  split
  · exact Moves.raise _
  rename_i i _
  refine Moves.update_bind (hR.copy s r i j) (Within.moves ?_)
  refine Within.bind (Within.update fun t => ?_) fun _ => ?_
  · exact hR.reset (f := fun _ => .open_) (fun _ => rfl) fun _ => nofun
  exact hR.along (enqueueState_work r true)

theorem setOwnStatus_lenient (hR : Tolerant maps R) (p : PlayerRef) {status : SlotStatus}
    (hs : status ≠ .quit) : Within R (setOwnStatus p status) :=
  within_inSlot fun _ r _ hi => Moves.bind (ownStatus_lenient hR.toSparing hi hs) fun _ t _ =>
    (hR.along (enqueueState_work r false)) t

theorem matchLock_lenient (hR : Tolerant maps R) (p : PlayerRef) (slotId : Int) :
    Within R (matchLock p slotId) := by
  refine within_asHost fun r => within_withSlotId fun i => Within.read_bind fun s => ?_
  refine Within.moves (Within.ite ?_ (Within.ite (Within.pure ()) ?_))
  · refine Within.bind (hR.updateSlot (fun slot => ?_) fun _ => rfl) fun _ =>
      hR.along (enqueueState_work r true)
    exact ⟨rfl, rfl, nofun, .inr nofun⟩
  · refine Within.bind (hR.updateSlot (fun slot => ?_) fun _ => rfl) fun _ =>
      hR.along (enqueueState_work r true)
    exact ⟨rfl, rfl, nofun, .inr nofun⟩

theorem matchComplete_lenient (hR : Tolerant maps R) (p : PlayerRef) :
    Within R (matchComplete p) := by
  have hR' := hR.toSparing
  refine within_inSlot fun s r i hi => Moves.bind (ownStatus_lenient hR' hi nofun) fun _ t _ => ?_
  refine Moves.read_bind (Moves.ite (fun _ => Moves.pure ()) fun _ => Within.moves ?_)
  refine Within.bind (hR.updateMatch (fun m => Plain.unreadyPlayers rfl) fun m => ?_) fun _ => ?_
  · exact SameTeams.unreadyPlayers _
  refine Within.bind (hR.updateMatch (fun m => ?_) fun m => ?_) fun _ => ?_
  · exact Plain.of_mapSlots fun _ => ⟨rfl, rfl, .inl, .inl rfl⟩
  · exact SameTeams.mapSlots fun _ => rfl
  refine Within.bind (hR.unmentioned (fun _ => rfl) fun _ => rfl) fun _ => ?_
  refine Within.bind (hR.along (enqueueMatch_work r _ _ _)) fun _ => ?_
  exact hR.along (enqueueState_work r true)

theorem matchScoreUpdate_lenient (hR : Tolerant maps R) (p : PlayerRef) (playData : List UInt8) :
    Within R (matchScoreUpdate p playData) := by
  refine within_inSlot fun s r i _ => Within.moves (Within.bind ?_ fun _ => ?_)
  · exact hR.updateSlot (fun _ => ⟨rfl, rfl, .inl, .inl rfl⟩) fun _ => rfl
  · exact Within.ite (Within.raise _) (hR.along (enqueueMatch_work r _ _ _))

theorem matchLoadComplete_lenient (hR : Tolerant maps R) (p : PlayerRef) :
    Within R (matchLoadComplete p) := by
  refine within_inSlot fun s r i _ => Within.moves (Within.bind ?_ fun _ => ?_)
  · exact hR.updateSlot (fun _ => ⟨rfl, rfl, .inl, .inl rfl⟩) fun _ => rfl
  · refine Within.read_bind fun t => Within.moves (Within.ite (Within.pure ()) ?_)
    exact hR.along (enqueueMatch_work r _ _ _)

theorem matchFailed_lenient (hR : Tolerant maps R) (p : PlayerRef) : Within R (matchFailed p) := by
  refine within_inSlot fun s r i _ => Within.moves (Within.bind ?_ fun _ => ?_)
  · exact hR.updateSlot (fun _ => ⟨rfl, rfl, .inl, .inl rfl⟩) fun _ => rfl
  · exact hR.along (enqueueMatch_work r _ _ _)

theorem matchSkipRequest_lenient (hR : Tolerant maps R) (p : PlayerRef) :
    Within R (matchSkipRequest p) := by
  refine within_inSlot fun s r i _ => Within.moves (Within.bind ?_ fun _ => ?_)
  · exact hR.updateSlot (fun _ => ⟨rfl, rfl, .inl, .inl rfl⟩) fun _ => rfl
  refine Within.read_bind fun t => Within.moves (Within.bind ?_ fun _ => ?_)
  · exact hR.along (enqueueMatch_work r _ _ _)
  · exact Within.ite (Within.pure ()) (hR.along (enqueueMatch_work r _ _ _))

theorem matchChangeTeam_lenient (hR : Lenient maps R) (p : PlayerRef) :
    Within R (matchChangeTeam p) := by
  refine within_inSlot fun s r i _ => Within.moves (Within.bind ?_ fun _ => ?_)
  · exact Within.update fun _ => hR.slotAt ⟨rfl, rfl, .inl, .inl rfl⟩
  · exact hR.along (enqueueState_work r false)

theorem matchTransferHost_lenient (hR : Tolerant maps R) (p : PlayerRef) (slotId : Int) :
    Within R (matchTransferHost p slotId) := by
  refine within_asHost fun r => within_withSlotId fun i => Within.read_bind fun s => ?_
  split
  · refine Within.moves (Within.bind (setHost_lenient hR r _) fun _ => ?_)
    exact hR.along (enqueueState_work r true)
  · exact Moves.pure ()

theorem matchChangePassword_lenient (hR : Tolerant maps R) (p : PlayerRef)
    (data : MultiplayerMatch) :
    Within R (matchChangePassword p data) := by
  refine Within.read_bind fun s => Moves.ite (fun _ => Moves.pure ()) fun _ => Within.moves ?_
  refine within_asHost fun r => Within.bind ?_ fun _ => hR.along (enqueueState_work r true)
  exact hR.unmentioned (fun _ => rfl) fun _ => rfl

end Slots

section Rooms

theorem lobbyJoin_lenient (hR : Tolerant maps R) (p : PlayerRef) : Within R (lobbyJoin p) := by
  refine Within.bind (hR.modifyPlayer fun _ => rfl) fun _ => Within.read_bind fun s => ?_
  refine Within.each (fun r => Within.read_bind fun t => Within.moves ?_) _ s
  refine Within.attempt ?_ fun e => ?_
  · exact Within.bind (Within.lift _) fun packet => hR.along (send_work p _)
  · exact Within.ite (Within.pure ()) (Within.raise e)

theorem channelJoin_work (p : PlayerRef) (name : String) :
    Within ChannelWork (channelJoin p name) := by
  refine Within.read_bind fun s => Moves.ite (fun _ => Moves.pure ()) fun _ => ?_
  split
  · exact Within.moves (Within.bind (joinChannel_work p _) fun _ => Within.pure ())
  · exact Moves.pure ()

theorem channelPart_work (p : PlayerRef) (name : String) :
    Within ChannelWork (channelPart p name) := by
  refine Within.read_bind fun s => Moves.ite (fun _ => Moves.pure ()) fun _ => ?_
  split
  · exact leaveChannel_work p _ true s
  · exact Moves.pure ()

theorem tourneyMatchJoinChannel_lenient (hR : Tolerant maps R) (p : PlayerRef) (matchId : Int) :
    Within R (tourneyMatchJoinChannel p matchId) := by
  refine within_tourneyMatch fun r => Within.read_bind fun s => ?_
  refine Moves.ite (fun _ => Moves.pure ()) fun _ => Within.moves ?_
  refine Within.bind (hR.along (joinChannel_work p _)) fun joined => ?_
  exact Within.ite (hR.unmentioned (fun _ => rfl) fun _ => rfl) (Within.pure ())

theorem tourneyMatchLeaveChannel_lenient (hR : Tolerant maps R) (p : PlayerRef) (matchId : Int) :
    Within R (tourneyMatchLeaveChannel p matchId) := by
  refine within_tourneyMatch fun r => Within.read_bind fun s => ?_
  refine Moves.ite (fun _ => ?_) fun _ => Moves.pure ()
  refine Within.moves (Within.bind (hR.along (leaveChannel_work p _ true)) fun _ => ?_)
  exact hR.unmentioned (fun _ => rfl) fun _ => rfl

theorem sendInvite_work (p target : PlayerRef) (r : MatchRef) :
    Within ChannelWork (sendInvite p target r) :=
  Within.read_bind fun s => send_work target _ s

theorem matchInvite_work (p : PlayerRef) (userId : Int) : Within ChannelWork
    (matchInvite p userId) := by
  refine within_inMatch fun r => Within.read_bind fun s => ?_
  split
  · exact Moves.pure ()
  · exact Within.moves (Within.ite (sendPlayerBot_work p _) (sendInvite_work p _ r))

theorem startSpectating_lenient (hR : Tolerant maps R) (p : PlayerRef) (targetId : Int) :
    Within R (startSpectating p targetId) := by
  refine Within.read_bind fun s => ?_
  split
  · exact Moves.pure ()
  rename_i newHost _
  split
  · exact addSpectator_lenient hR newHost p s
  refine Within.moves (Within.ite (Within.ite (Within.pure ()) ?_) ?_)
  · exact Within.bind (hR.along (send_work newHost _)) fun _ => hR.along (sendAll_work _ _)
  · exact Within.bind (removeSpectator_lenient hR _ p) fun _ => addSpectator_lenient hR newHost p

theorem stopSpectating_lenient (hR : Tolerant maps R) (p : PlayerRef) :
    Within R (stopSpectating p) := by
  refine Within.read_bind fun s => ?_
  split
  · exact Moves.pure ()
  · exact removeSpectator_lenient hR _ p s

theorem cantSpectate_work (p : PlayerRef) : Within ChannelWork (cantSpectate p) := by
  refine Within.read_bind fun s => ?_
  split
  · exact Moves.pure ()
  refine Within.moves (Within.ite (Within.pure ()) ?_)
  exact Within.bind (send_work _ _) fun _ => sendAll_work _ _

end Rooms

end BanchoPrism
