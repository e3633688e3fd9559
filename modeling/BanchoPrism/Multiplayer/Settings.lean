import BanchoPrism.Multiplayer.Freemods

namespace BanchoPrism

open Library Prog

-- A settings packet with a win condition and a team type that exist.
structure Settings where
  data : MultiplayerMatch
  winCondition : MatchWinConditions
  teamType : MatchTeamTypes
  winCondition_eq : MatchWinConditions.ofValue data.winCondition = some winCondition
  teamType_eq : MatchTeamTypes.ofValue data.teamType = some teamType

namespace Settings

-- The team type stays while scrimming; a new one comes with new teams.
def retype (x : Settings) (m : Match) : Match :=
  if x.teamType = m.teamType ∨ m.isScrimming then m
  else
    { m.mapPlayers fun slot => { slot with team := x.teamType.defaultTeam } with
      teamType := x.teamType }

def rescore (x : Settings) (m : Match) : Match :=
  if x.winCondition = m.winCondition then m
  else { m with usePpScoring := false, winCondition := x.winCondition }

def withTypes (x : Settings) (m : Match) : Match :=
  { x.rescore (x.retype m) with name := x.data.name }

-- Freemods, for a host in slot i
def withFreemods (x : Settings) (i : Fin 16) (m : Match) : Match :=
  if x.data.freemods = m.freemods then m
  else if x.data.freemods then freemodsOn { m with freemods := true }
  else freemodsOff { m with freemods := false } i

def deselect (m : Match) : Match :=
  { m.unreadyPlayers .ready with prevMapId := m.mapId, mapId := -1, mapMd5 := "", mapName := "" }

-- The serverside version of the map, or what the packet names.
def select (x : Settings) (mode : GameMode) (m : Match) : Option Beatmap → Match
  | some bmap =>
      { m with mapId := bmap.id, mapMd5 := bmap.md5, mapName := bmap.fullName, mode := mode }
  | none =>
      { m with
        mapId := x.data.mapId
        mapMd5 := x.data.mapMd5
        mapName := x.data.mapName
        mode := mode }

-- The mode of the host for a map of the server, and that of the packet for another one.
def chosenMode (x : Settings) (s : Server) (r : MatchRef) : Option Beatmap → Option GameMode
  | some _ => do
      let host ← (matchHost s (s.matchAt r)).toOption
      GameMode.ofValue (s.player host).mode.asVanilla
  | none => GameMode.ofValue x.data.mode

-- Only a match without a map takes the one that the packet names.
def awaits (x : Settings) (m : Match) : Prop := x.data.mapId ≠ -1 ∧ m.mapId = -1

instance awaits.decidable (x : Settings) (m : Match) : Decidable (x.awaits m) :=
  inferInstanceAs (Decidable (_ ∧ _))

-- What becomes of a match before the map is looked up.
def asked (x : Settings) (i : Fin 16) (m : Match) : Match :=
  let m := x.withFreemods i m
  if x.data.mapId = -1 then x.withTypes (deselect m)
  else if x.awaits m then m
  else x.withTypes m

end Settings

-- Match r is rewritten by f, and besides that there are only messages.
def Rewrites (r : MatchRef) (f : Match → Match) (s t : Server) : Prop :=
  ChannelWork (s.modifyMatch r f) t

section Rewriting

variable {r : MatchRef} {f g : Match → Match} {s t u : Server}

theorem ChannelWork.modifyMatch (h : ChannelWork s t) (r : MatchRef) (f : Match → Match) :
    ChannelWork (s.modifyMatch r f) (t.modifyMatch r f) where
  player := h.player
  players := h.players
  matchAt := by
    unfold Server.modifyMatch
    rw [h.matchAt]
  matchList := h.matchList
  nextMatch := h.nextMatch
  nextPlayer := h.nextPlayer
  listed := h.listed

theorem Rewrites.trans (h : Rewrites r f s t) (h' : Rewrites r g t u) :
    Rewrites r (fun m => g (f m)) s u := by
  have hboth := (ChannelWork.modifyMatch h r g).trans h'
  rwa [modifyMatch_modifyMatch] at hboth

theorem Rewrites.work (h : Rewrites r f s t) (h' : ChannelWork t u) : Rewrites r f s u :=
  ChannelWork.trans h h'

theorem rewrites_id (r : MatchRef) (h : ChannelWork s t) : Rewrites r (fun m => m) s t := by
  unfold Rewrites
  have hsame : s.modifyMatch r (fun m => m) = s := by
    show { s with matchAt := Function.update s.matchAt r (s.matchAt r) } = s
    rw [Function.update_eq_self]
  rw [hsame]
  exact h

theorem rewrites_modifyMatch (s : Server) (r : MatchRef) (f : Match → Match) :
    Rewrites r f s (s.modifyMatch r f) := ChannelWork.refl _

theorem Rewrites.congr (h : Rewrites r f s t) (hfg : f (s.matchAt r) = g (s.matchAt r)) :
    Rewrites r g s t := by
  unfold Rewrites Server.modifyMatch at *
  rwa [← hfg]

theorem Rewrites.matchAt (h : Rewrites r f s t) : t.matchAt r = f (s.matchAt r) := by
  have hkept : t.matchAt = (s.modifyMatch r f).matchAt := ChannelWork.matchAt h
  rw [hkept]
  simp [Server.modifyMatch]

theorem Rewrites.matchRef (h : Rewrites r f s t) (p : PlayerRef) :
    (t.player p).matchRef = (s.player p).matchRef := by
  rw [ChannelWork.player h p]
  rfl

end Rewriting

section Types

theorem MatchTeamTypes.value_of_ofValue {n : Int} {teamType : MatchTeamTypes}
    (h : MatchTeamTypes.ofValue n = some teamType) : (teamType.value : Int) = n := by
  unfold MatchTeamTypes.ofValue at h
  split at h <;> cases h <;> rfl

theorem MatchWinConditions.value_of_ofValue {n : Int} {winCondition : MatchWinConditions}
    (h : MatchWinConditions.ofValue n = some winCondition) : (winCondition.value : Int) = n := by
  unfold MatchWinConditions.ofValue at h
  split at h <;> cases h <;> rfl

theorem MatchTeamTypes.value_inj {a b : MatchTeamTypes} : a.value = b.value ↔ a = b := by
  cases a <;> cases b <;> decide

theorem MatchWinConditions.value_inj {a b : MatchWinConditions} : a.value = b.value ↔ a = b := by
  cases a <;> cases b <;> decide

variable (x : Settings) {s : Server} {p : PlayerRef} {r : MatchRef}

theorem Settings.newTeam : (if x.data.teamType = 0 ∨ x.data.teamType = 1 then MatchTeams.neutral
    else .red) = x.teamType.defaultTeam := by
  rw [← MatchTeamTypes.value_of_ofValue x.teamType_eq]
  cases x.teamType <;> rfl

theorem Settings.nameAt : ∃ name, MatchTeamTypes.nameAt x.data.teamType = .ok name := by
  rw [← MatchTeamTypes.value_of_ofValue x.teamType_eq]
  cases x.teamType <;> exact ⟨_, rfl⟩

theorem changeTeamType_rewrites (hm : x.teamType ≠ (s.matchAt r).teamType) :
    ∃ t, changeTeamType r x.data.teamType s = (.ok (), t) ∧ Rewrites r x.retype s t := by
  unfold changeTeamType
  rw [read_bind_run]
  dsimp only
  by_cases hscrim : (s.matchAt r).isScrimming
  · obtain ⟨name, hname⟩ := x.nameAt
    rw [if_pos hscrim, hname, bind_run_ok (lift_ok_run _ _)]
    refine ⟨_, rfl, (rewrites_id r (sendBot_work _ _ s)).congr ?_⟩
    rw [Settings.retype, if_pos (.inr hscrim)]
  · rw [if_neg hscrim, x.newTeam, x.teamType_eq]
    refine ⟨_, rfl, ?_⟩
    have htwice := (rewrites_modifyMatch s r fun m =>
      m.mapPlayers fun slot => { slot with team := x.teamType.defaultTeam }).trans
        (rewrites_modifyMatch _ r fun m => { m with teamType := x.teamType })
    refine htwice.congr ?_
    rw [Settings.retype, if_neg (by simp [hm, hscrim])]

theorem changeWinCondition_rewrites (hm : x.winCondition ≠ (s.matchAt r).winCondition) :
    ∃ t, changeWinCondition r x.data.winCondition s = (.ok (), t) ∧ Rewrites r x.rescore s t := by
  unfold changeWinCondition
  rw [x.winCondition_eq]
  refine ⟨_, rfl, ?_⟩
  have htwice := (rewrites_modifyMatch s r fun m => { m with usePpScoring := false }).trans
    (rewrites_modifyMatch _ r fun m => { m with winCondition := x.winCondition })
  refine htwice.congr ?_
  rw [Settings.rescore, if_neg hm]

theorem onlyIf_rewrites {c : Prop} [Decidable c] {body : Handler Unit} {f : Match → Match}
    (hbody : c → ∃ t, body s = (.ok (), t) ∧ Rewrites r f s t)
    (hskip : ¬c → f (s.matchAt r) = s.matchAt r) :
    ∃ t, Prog.onlyIf c body s = (.ok (), t) ∧ Rewrites r f s t := by
  unfold Prog.onlyIf
  split
  · exact hbody ‹_›
  · exact ⟨s, rfl, (rewrites_id r (ChannelWork.refl s)).congr (hskip ‹_›).symm⟩

theorem changeTypes_rewrites (hr : (s.player p).matchRef = some r) :
    Rewrites r x.withTypes s (changeTypes p x.data s).2 := by
  have hteam : ((s.matchAt r).teamType.value : Int) ≠ x.data.teamType ↔
      x.teamType ≠ (s.matchAt r).teamType := by
    rw [← MatchTeamTypes.value_of_ofValue x.teamType_eq, Ne, Nat.cast_inj,
      MatchTeamTypes.value_inj, eq_comm]
  have hwin : ((s.matchAt r).winCondition.value : Int) ≠ x.data.winCondition ↔
      x.winCondition ≠ (s.matchAt r).winCondition := by
    rw [← MatchWinConditions.value_of_ofValue x.winCondition_eq, Ne, Nat.cast_inj,
      MatchWinConditions.value_inj, eq_comm]
  obtain ⟨t, hrun, ht⟩ := onlyIf_rewrites (s := s) (r := r)
    (c := ((s.matchAt r).teamType.value : Int) ≠ x.data.teamType)
    (fun hne => changeTeamType_rewrites x (hteam.mp hne)) fun hsame => by
      rw [Settings.retype, if_pos (.inl (not_not.mp fun hne => hsame (hteam.mpr hne)))]
  have hkept : (t.matchAt r).winCondition = (s.matchAt r).winCondition := by
    rw [ht.matchAt, Settings.retype]
    split <;> rfl
  obtain ⟨u, hrun', hu⟩ := onlyIf_rewrites (s := t) (r := r)
    (c := ((s.matchAt r).winCondition.value : Int) ≠ x.data.winCondition)
    (fun hne => changeWinCondition_rewrites x (hkept ▸ hwin.mp hne)) fun hsame => by
      rw [Settings.rescore, if_pos (hkept ▸ not_not.mp fun hne => hsame (hwin.mpr hne))]
  unfold changeTypes
  rw [read_bind_run, hr]
  dsimp only
  rw [bind_run_ok hrun, bind_run_ok hrun', updateMatch_bind_run]
  have hname := rewrites_modifyMatch u r fun m => { m with name := x.data.name }
  exact ((ht.trans hu).trans hname).work (enqueueState_work r true _)

end Types

section Phases

variable (x : Settings) {s : Server} {p : PlayerRef} {r : MatchRef} {i : Fin 16}

theorem switch_rewrites
    (hslot : x.data.freemods = false → (s.matchAt r).freemods → hostSlot s r = some i) :
    ∃ t, Prog.onlyIf (x.data.freemods ≠ (s.matchAt r).freemods)
        (changeFreemods r x.data.freemods) s = (.ok (), t) ∧
      Rewrites r (x.withFreemods i) s t := by
  refine onlyIf_rewrites (fun hne => ?_) fun hsame => ?_
  · cases hfreemods : x.data.freemods with
    | true =>
      refine ⟨_, changeFreemods_on r s, (rewrites_modifyMatch s r _).congr ?_⟩
      rw [Settings.withFreemods, if_neg hne, if_pos hfreemods]
    | false =>
      have hon : (s.matchAt r).freemods := by simpa [hfreemods] using hne
      refine ⟨_, changeFreemods_off_seated (hslot hfreemods hon), ?_⟩
      refine (rewrites_modifyMatch s r _).congr ?_
      rw [Settings.withFreemods, if_neg hne, if_neg (by simp [hfreemods])]
  · rw [Settings.withFreemods, if_pos (not_not.mp hsame)]

theorem Settings.withFreemods_mapId (m : Match) : (x.withFreemods i m).mapId = m.mapId := by
  unfold Settings.withFreemods
  split
  · rfl
  · split <;> rfl

theorem bind_pure_state {α β : Type} (y : Handler α) (b : β) (t : Server) :
    ((y >>= fun _ => pure b) t).2 = (y t).2 := by
  rw [bind_run]
  rcases y t with ⟨e | a, u⟩ <;> rfl

theorem changeSelected_rewrites {t : Server} (hr : (t.player p).matchRef = some r)
    (hmap : (t.matchAt r).mapId = (s.matchAt r).mapId) :
    Rewrites r (fun m => if x.data.mapId = -1 then x.withTypes (Settings.deselect m)
      else if x.awaits m then m else x.withTypes m) t (changeSelected s p r x.data t).2 := by
  unfold changeSelected
  by_cases hnone : x.data.mapId = -1
  · rw [if_pos hnone, updateMatch_bind_run, updateMatch_bind_run, modifyMatch_modifyMatch,
      bind_pure_state]
    have hdeselected := rewrites_modifyMatch t r Settings.deselect
    have hr' := (hdeselected.matchRef p).trans hr
    refine (hdeselected.trans (changeTypes_rewrites x hr')).congr ?_
    rw [if_pos hnone]
  rw [if_neg hnone]
  by_cases hwaits : (s.matchAt r).mapId = -1
  · rw [if_pos hwaits, bind_pure_state]
    refine (rewrites_id r (Within.onlyIf (sendBot_work _ _) t)).congr ?_
    rw [if_neg hnone, if_pos ⟨hnone, hmap.trans hwaits⟩]
  · rw [if_neg hwaits, bind_pure_state]
    refine (changeTypes_rewrites x hr).congr ?_
    rw [if_neg hnone, if_neg fun h => hwaits (hmap ▸ h.2)]

-- The whole effect of the packet of a host, up to the lookup of the map.
theorem matchChangeSettings_rewrites (hr : (s.player p).matchRef = some r)
    (hhost : matchHost s (s.matchAt r) = .ok p)
    (hvalid : validateMatchData x.data (s.player p).id)
    (hslot : x.data.freemods = false → (s.matchAt r).freemods → hostSlot s r = some i) :
    Rewrites r (x.asked i) s (matchChangeSettings p x.data s).2 := by
  obtain ⟨t, hrun, ht⟩ := switch_rewrites x hslot
  rw [matchChangeSettings_host hr hhost hvalid]
  unfold changeSettings
  rw [bind_run_ok hrun]
  refine ht.trans (changeSelected_rewrites x ((ht.matchRef p).trans hr) ?_)
  rw [ht.matchAt, x.withFreemods_mapId]

-- A packet that names a map for a match without one goes on to look it up.
theorem matchChangeSettings_awaits (hr : (s.player p).matchRef = some r)
    (hhost : matchHost s (s.matchAt r) = .ok p)
    (hvalid : validateMatchData x.data (s.player p).id)
    (hslot : x.data.freemods = false → (s.matchAt r).freemods → hostSlot s r = some i)
    (hawaits : x.awaits (s.matchAt r)) : (matchChangeSettings p x.data s).1 = .ok true := by
  obtain ⟨t, hrun, -⟩ := switch_rewrites x hslot
  rw [matchChangeSettings_host hr hhost hvalid]
  unfold changeSettings
  rw [bind_run_ok hrun]
  unfold changeSelected
  rw [if_neg hawaits.1, if_pos hawaits.2]
  unfold Prog.onlyIf
  split <;> rfl

theorem chooseMap_rewrites {mode : GameMode} {found : Option Beatmap}
    (hmode : x.chosenMode s r found = some mode) :
    ∃ t, chooseMap r x.data found s = (.ok (), t) ∧
      Rewrites r (fun m => x.select mode m found) s t := by
  cases found with
  | none =>
    have hmode' : GameMode.ofValue x.data.mode = some mode := hmode
    unfold chooseMap
    dsimp only
    rw [updateMatch_bind_run, hmode']
    refine ⟨_, rfl, ?_⟩
    exact (rewrites_modifyMatch s r fun m => { m with
      mapId := x.data.mapId
      mapMd5 := x.data.mapMd5
      mapName := x.data.mapName }).trans (rewrites_modifyMatch _ r fun m => { m with mode := mode })
  | some bmap =>
    obtain ⟨host, hhost, hmode⟩ := Option.bind_eq_some_iff.mp hmode
    let t := s.modifyMatch r fun m =>
      { m with mapId := bmap.id, mapMd5 := bmap.md5, mapName := bmap.fullName }
    have hsame : matchHost t (t.matchAt r) = matchHost s (s.matchAt r) := by
      simp [t, Server.modifyMatch, matchHost]
    have hmode' : GameMode.ofValue (t.player host).mode.asVanilla = some mode := hmode
    unfold chooseMap
    dsimp only
    rw [updateMatch_bind_run, read_bind_run, hsame]
    cases hfound : matchHost s (s.matchAt r) with
    | error e =>
      rw [hfound] at hhost
      cases hhost
    | ok host' =>
      rw [hfound] at hhost
      obtain rfl : host' = host := Option.some.inj hhost
      rw [bind_run_ok (lift_ok_run host' t), hmode']
      refine ⟨_, rfl, ?_⟩
      exact (rewrites_modifyMatch s r _).trans (rewrites_modifyMatch t r fun m =>
        { m with mode := mode })

-- The effect of the rest, once the lookup of the map is back.
theorem resumeChangeSettings_rewrites {mode : GameMode} {found : Option Beatmap}
    (hr : (s.player p).matchRef = some r) (hmode : x.chosenMode s r found = some mode) :
    Rewrites r (fun m => x.withTypes (x.select mode m found)) s
      (resumeChangeSettings p x.data found s).2 := by
  obtain ⟨t, hrun, ht⟩ := chooseMap_rewrites x hmode
  unfold resumeChangeSettings
  rw [read_bind_run, hr]
  dsimp only
  rw [bind_run_ok hrun]
  exact ht.trans (changeTypes_rewrites x ((ht.matchRef p).trans hr))

end Phases

section Atomic

-- Every field of a settings packet is in the match.
structure AllApplied (data : MultiplayerMatch) (m : Match) : Prop where
  name : m.name = data.name
  freemods : m.freemods = data.freemods
  winCondition : (m.winCondition.value : Int) = data.winCondition
  teamType : (m.teamType.value : Int) = data.teamType
  mapId : m.mapId = data.mapId
  mapMd5 : m.mapMd5 = data.mapMd5
  mapName : m.mapName = data.mapName

-- The packet of the host is refused as a whole, or its settings are all that happens: before the
-- lookup of a map and, if the sender is still in the match, after it.
theorem settings_applied (s : Server) (p : PlayerRef) (r : MatchRef) (data : MultiplayerMatch)
    (hr : (s.player p).matchRef = some r) (hhost : matchHost s (s.matchAt r) = .ok p) :
    (¬validateMatchData data (s.player p).id → (matchChangeSettings p data s).2 = s) ∧
    (validateMatchData data (s.player p).id → ∀ x : Settings, x.data = data → ∀ i,
      (data.freemods = false → (s.matchAt r).freemods → hostSlot s r = some i) →
      Rewrites r (x.asked i) s (matchChangeSettings p data s).2 ∧
      KeepsTidy s (matchChangeSettings p data s).2 ∧
      (x.awaits (s.matchAt r) → (matchChangeSettings p data s).1 = .ok true ∧
        ∀ t mode found, (t.player p).matchRef = some r →
          x.chosenMode t r found = some mode →
          Rewrites r (fun m => x.withTypes (x.select mode m found)) t
            (resumeChangeSettings p data found t).2 ∧
          KeepsTidy t (resumeChangeSettings p data found t).2)) := by
  have hR : Restating (fun _ => True) KeepsTidy := keepsTidy_lenient.toRestating
  refine ⟨fun hinvalid => ?_, ?_⟩
  · rcases matchChangeSettings_cases p data s with hsame | ⟨r', -, -, hvalid, -⟩
    · exact hsame
    · exact absurd hvalid hinvalid
  rintro hvalid x rfl i hslot
  refine ⟨matchChangeSettings_rewrites x hr hhost hvalid hslot, ?_, fun hawaits => ⟨?_, ?_⟩⟩
  · refine matchChangeSettings_restating hR p x.data fun r' hr' _ _ hswitch => ?_
    refine changeFreemods_tidy ?_
    obtain rfl : r = r' := Option.some.inj (hr.symm.trans hr')
    cases hfreemods : x.data.freemods with
    | true => exact .inl rfl
    | false =>
      have hon : (s.matchAt r).freemods := by simpa [hfreemods] using hswitch
      exact .inr (.inl (by rw [hslot hfreemods hon]; rfl))
  · exact matchChangeSettings_awaits x hr hhost hvalid hslot hawaits
  · intro t mode found hr' hmode
    refine ⟨resumeChangeSettings_rewrites x hr' hmode, ?_⟩
    exact resumeChangeSettings_restating hR p trivial (fun _ _ => trivial) t

def unknownMap : Settings where
  data := { plainMatch 11 with name := "x", mapId := 5, teamType := 2, freemods := true }
  winCondition := .score
  teamType := .teamVs
  winCondition_eq := rfl
  teamType_eq := rfl

-- The host of a match without a map names one that the server does not have.
theorem settings_applied_unknownMap :
    let w := runFrom World.step (Setup.start {}) twoInAMatch
    Rewrites 0 (unknownMap.asked 0) w.server (matchChangeSettings 1 unknownMap.data w.server).2 ∧
      ((resumeChangeSettings 1 unknownMap.data none
        (matchChangeSettings 1 unknownMap.data w.server).2).2.matchAt 0).teamType = .teamVs := by
  intro w
  have happlied := (settings_applied w.server 1 0 unknownMap.data rfl rfl).2 rfl unknownMap rfl 0
    (fun hoff => absurd hoff (by decide))
  refine ⟨happlied.1, ?_⟩
  have hresumed := (happlied.2.2 (by decide)).2
    (matchChangeSettings 1 unknownMap.data w.server).2 .VANILLA_OSU none
    (by decide) rfl
  rw [hresumed.1.matchAt]
  decide

-- A scrim is on: the packet changes the name, but not the team type.
theorem not_settings_atomic :
    let setup : Setup := { decimal := fun text => if text = "3" then some 3 else none }
    let w := runFrom World.step setup.start (twoInAMatch ++
      ([.packet 1 (.sendMessage "!mp scrim 3" "#multiplayer" (some ("scrim", ["3"])))
        { now := 10 }] : List Event))
    let data := { plainMatch 11 with name := "x", teamType := 2 }
    let m := (w.step (.packet 1 (.changeSettings data) { now := 10 })).server.matchAt 0
    ¬(AllApplied data m ∨ m = w.server.matchAt 0) := by
  intro setup w data m hatomic
  rcases hatomic with hall | hsame
  · have hteam := hall.teamType
    revert hteam
    decide +kernel
  · have hname := congrArg Match.name hsame
    revert hname
    decide +kernel

end Atomic

end BanchoPrism
