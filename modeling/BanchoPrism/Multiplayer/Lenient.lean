import BanchoPrism.Multiplayer.Quiet
import BanchoPrism.Multiplayer.Scrims

namespace BanchoPrism

open Library Prog

-- What may become of a slot where neither who is in it nor the mods are meant.
structure Restated (slot slot' : Slot) : Prop where
  player : slot'.player = slot.player
  mods : slot'.mods = slot.mods
  taken : slot'.status.hasPlayer → slot.status.hasPlayer ∨ slot.player.isSome
  status : slot'.status = slot.status ∨ slot'.status ≠ .quit

-- The same for a match; a map it comes to is one of these.
structure Plain (maps : Int → Prop) (m m' : Match) : Prop where
  id : m'.id = m.id
  mods : m'.mods = m.mods
  freemods : m'.freemods = m.freemods
  seed : m'.seed = m.seed
  mapId : m'.mapId = m.mapId ∨ maps m'.mapId
  slots : ∀ i, Restated (m.slots i) (m'.slots i)
  scrim : Relation.ReflTransGen Scrim.Step m.scrim m'.scrim

-- A relation that has room for the messages and for what is plain.
structure Restating (maps : Int → Prop) (R : Server → Server → Prop) : Prop where
  cleared : maps (-1)
  work : ∀ {s t}, ChannelWork s t → R s t
  plain : ∀ {s r} {f : Match → Match}, Plain maps (s.matchAt r) (f (s.matchAt r)) →
    R s (s.modifyMatch r f)

-- The same for all that handlers do, but for a new match or session and for the mods of a match.
structure Lenient (maps : Int → Prop) (R : Server → Server → Prop) : Prop
    extends Restating maps R where
  player : ∀ {s p} {f : Player → Player}, (f (s.player p)).id = (s.player p).id →
    R s (s.modifyPlayer p f)
  players : ∀ {s players}, (∀ id p, players.byId id = some p → s.players.byId id = some p) →
    R s { s with players := players }
  matchList : ∀ s matchList, R s { s with matchList := matchList }
  seat : ∀ {s r i p} {f : Slot → Slot}, (∀ slot, (f slot).player = some p) →
    (∀ slot, (f slot).status = .notReady) → (∀ slot, (f slot).mods = slot.mods) →
    R s (s.modifySlot r i f)
  reset : ∀ {s r i} {f : Slot → SlotStatus}, (∀ slot, (f slot).hasPlayer = false) →
    (∀ slot, f slot ≠ .quit) → R s (s.modifySlot r i fun slot => Slot.reset (f slot))
  copy : ∀ s r i j, R s (s.modifySlot r j fun slot => slot.copyFrom ((s.matchAt r).slots i))

-- The teams of a match stay what they were.
structure SameTeams (m m' : Match) : Prop where
  teamType : m'.teamType = m.teamType
  slots : ∀ i, (m'.slots i).team = (m.slots i).team

-- As Restating, for a relation to which the teams matter.
structure Sparing (maps : Int → Prop) (R : Server → Server → Prop) : Prop where
  cleared : maps (-1)
  work : ∀ {s t}, ChannelWork s t → R s t
  plain : ∀ {s r} {f : Match → Match}, Plain maps (s.matchAt r) (f (s.matchAt r)) →
    SameTeams (s.matchAt r) (f (s.matchAt r)) → R s (s.modifyMatch r f)

-- As Lenient, where whoever sits down gets a team of the match.
structure Tolerant (maps : Int → Prop) (R : Server → Server → Prop) : Prop
    extends Sparing maps R where
  player : ∀ {s p} {f : Player → Player}, (f (s.player p)).id = (s.player p).id →
    R s (s.modifyPlayer p f)
  players : ∀ {s players}, (∀ id p, players.byId id = some p → s.players.byId id = some p) →
    R s { s with players := players }
  matchList : ∀ s matchList, R s { s with matchList := matchList }
  seat : ∀ {s r i p} {f : Slot → Slot}, (∀ slot, (f slot).player = some p) →
    (∀ slot, (f slot).status = .notReady) → (∀ slot, (f slot).mods = slot.mods) →
    (∀ slot, (f slot).team =
      if (s.matchAt r).teamType.defaultTeam = .red then .red else slot.team) →
    R s (s.modifySlot r i f)
  reset : ∀ {s r i} {f : Slot → SlotStatus}, (∀ slot, (f slot).hasPlayer = false) →
    (∀ slot, f slot ≠ .quit) → R s (s.modifySlot r i fun slot => Slot.reset (f slot))
  copy : ∀ s r i j, R s (s.modifySlot r j fun slot => slot.copyFrom ((s.matchAt r).slots i))

-- Nor do those in its slots change, nor the scrim.
structure SameSides (m m' : Match) : Prop extends SameTeams m m' where
  player : ∀ i, (m'.slots i).player = (m.slots i).player
  scrim : m'.scrim = m.scrim

-- A relation that has room for the messages and for what leaves the sides of a match.
structure Sideless (R : Server → Server → Prop) : Prop where
  work : ∀ {s t}, ChannelWork s t → R s t
  sides : ∀ {s r} {f : Match → Match}, SameSides (s.matchAt r) (f (s.matchAt r)) →
    R s (s.modifyMatch r f)

-- Everyone stays where they are, on the side that they are on.
structure KeepsSides (s t : Server) : Prop where
  matchRef : ∀ p, (t.player p).matchRef = (s.player p).matchRef
  sides : ∀ r, SameSides (s.matchAt r) (t.matchAt r)

section Leniency

variable {maps : Int → Prop} {R : Server → Server → Prop}

theorem Restating.sparing (hR : Restating maps R) : Sparing maps R :=
  ⟨hR.cleared, hR.work, fun hplain _ => hR.plain hplain⟩

theorem Lenient.tolerant (hR : Lenient maps R) : Tolerant maps R where
  toSparing := hR.toRestating.sparing
  player := hR.player
  players := hR.players
  matchList := hR.matchList
  seat hplayer hstatus hmods _ := hR.seat hplayer hstatus hmods
  reset := hR.reset
  copy := hR.copy

end Leniency

section Updates

theorem Restated.refl (slot : Slot) : Restated slot slot := ⟨rfl, rfl, Or.inl, .inl rfl⟩

-- What an update of a match has to leave alone to be of no concern here.
def Match.kept (m : Match) : Nat × Mods × Bool × Int × Int × (Fin 16 → Slot) × Scrim :=
  (m.id, m.mods, m.freemods, m.seed, m.mapId, m.slots, m.scrim)

variable {maps : Int → Prop} {m m' : Match}

theorem Plain.of_scrim (hscrim : Relation.ReflTransGen Scrim.Step m.scrim m'.scrim)
    (h : m'.kept = (m.id, m.mods, m.freemods, m.seed, m.mapId, m.slots, m'.scrim)) :
    Plain maps m m' := by
  simp only [Match.kept, Prod.mk.injEq] at h
  obtain ⟨hid, hmods, hfreemods, hseed, hmap, hslots, -⟩ := h
  exact ⟨hid, hmods, hfreemods, hseed, .inl hmap, fun i => hslots ▸ Restated.refl _, hscrim⟩

theorem Plain.of_kept (h : m'.kept = m.kept) : Plain maps m m' := by
  have hscrim : m'.scrim = m.scrim := by
    simp only [Match.kept, Prod.mk.injEq] at h
    exact h.2.2.2.2.2.2
  refine Plain.of_scrim (hscrim ▸ .refl) (h.trans ?_)
  rw [hscrim]
  rfl

theorem Plain.of_map {mapId : Int} (h : maps mapId)
    (hm : m'.kept = ({ m with mapId := mapId } : Match).kept) : Plain maps m m' := by
  simp only [Match.kept, Prod.mk.injEq] at hm
  obtain ⟨hid, hmods, hfreemods, hseed, hmap, hslots, hscrim⟩ := hm
  refine ⟨hid, hmods, hfreemods, hseed, .inr (hmap ▸ h), fun i => ?_, ?_⟩
  · exact hslots ▸ Restated.refl _
  · rw [hscrim]
    exact .refl

theorem Plain.of_mapSlots {f : Slot → Slot} (h : ∀ slot, Restated slot (f slot)) :
    Plain maps m (m.mapSlots f) := ⟨rfl, rfl, rfl, rfl, .inl rfl, fun i => h (m.slots i), .refl⟩

theorem Plain.of_mapPlayers {f : Slot → Slot} (h : ∀ slot, Restated slot (f slot)) :
    Plain maps m (m.mapPlayers f) := by
  refine Plain.of_mapSlots fun slot => ?_
  split
  · exact h slot
  · exact Restated.refl slot

theorem Plain.unreadyPlayers {expected : SlotStatus} (h : expected.hasPlayer) :
    Plain maps m (m.unreadyPlayers expected) := by
  refine Plain.of_mapSlots fun slot => ?_
  split
  · rename_i hstatus
    exact ⟨rfl, rfl, fun _ => .inl (hstatus ▸ h), .inr nofun⟩
  · exact Restated.refl slot

theorem Plain.startSlots : Plain maps m m.startSlots := by
  refine Plain.of_mapSlots fun slot => ⟨rfl, rfl, fun h => ?_, ?_⟩
  · dsimp only at h
    split at h
    · rename_i hplays
      exact .inr hplays.1
    · exact .inl h
  · dsimp only
    split
    · exact .inr nofun
    · exact .inl rfl

theorem SameTeams.mapSlots {f : Slot → Slot} (h : ∀ slot, (f slot).team = slot.team) :
    SameTeams m (m.mapSlots f) := ⟨rfl, fun i => h (m.slots i)⟩

theorem SameTeams.unreadyPlayers (expected : SlotStatus) :
    SameTeams m (m.unreadyPlayers expected) :=
  SameTeams.mapSlots fun slot => by split <;> rfl

theorem SameSides.mapSlots {f : Slot → Slot} (hteam : ∀ slot, (f slot).team = slot.team)
    (hplayer : ∀ slot, (f slot).player = slot.player) : SameSides m (m.mapSlots f) :=
  ⟨SameTeams.mapSlots hteam, fun i => hplayer (m.slots i), rfl⟩

variable {R : Server → Server → Prop} {r : MatchRef}

theorem Sideless.updateMatch (hR : Sideless R) {f : Match → Match} (hf : ∀ m, SameSides m (f m)) :
    Within R (BanchoPrism.updateMatch r f) := Within.update fun _ => hR.sides (hf _)

theorem Sideless.along (hR : Sideless R) {α : Type} {x : Handler α}
    (h : Within ChannelWork x) : Within R x := Within.mono (fun _ _ => hR.work) h

theorem SameSides.refl (m : Match) : SameSides m m := ⟨⟨rfl, fun _ => rfl⟩, fun _ => rfl, rfl⟩

theorem SameSides.trans {m'' : Match} (h : SameSides m m') (h' : SameSides m' m'') :
    SameSides m m'' where
  teamType := h'.teamType.trans h.teamType
  slots i := (h'.slots i).trans (h.slots i)
  player i := (h'.player i).trans (h.player i)
  scrim := h'.scrim.trans h.scrim

instance : Std.Refl KeepsSides := ⟨fun _ => ⟨fun _ => rfl, fun _ => SameSides.refl _⟩⟩
instance : IsTrans Server KeepsSides := ⟨fun _ _ _ h h' =>
  ⟨fun p => (h'.matchRef p).trans (h.matchRef p), fun r => (h.sides r).trans (h'.sides r)⟩⟩

theorem keepsSides_sideless : Sideless KeepsSides where
  work h := by
    refine ⟨fun p => ?_, fun r => ?_⟩
    · rw [h.player p]
    · rw [h.matchAt]
      exact SameSides.refl _
  sides {s r f} h := by
    refine ⟨fun p => rfl, fun r' => ?_⟩
    by_cases hr : r' = r
    · subst hr
      simpa [Server.modifyMatch] using h
    · simpa [Server.modifyMatch, hr] using SameSides.refl _

theorem Restating.updateMatch (hR : Restating maps R) {f : Match → Match} (hf : ∀ m, Plain maps m
    (f m)) :
    Within R (BanchoPrism.updateMatch r f) := Within.update fun _ => hR.plain (hf _)

theorem Restating.unmentioned (hR : Restating maps R) {f : Match → Match}
    (hf : ∀ m, (f m).kept = m.kept) : Within R (BanchoPrism.updateMatch r f) :=
  hR.updateMatch fun m => Plain.of_kept (hf m)

theorem Sparing.updateMatch (hR : Sparing maps R) {f : Match → Match}
    (hf : ∀ m, Plain maps m (f m)) (hteams : ∀ m, SameTeams m (f m)) :
    Within R (BanchoPrism.updateMatch r f) := Within.update fun _ => hR.plain (hf _) (hteams _)

theorem Sparing.unmentioned (hR : Sparing maps R) {f : Match → Match}
    (hf : ∀ m, (f m).kept = m.kept) (htype : ∀ m, (f m).teamType = m.teamType) :
    Within R (BanchoPrism.updateMatch r f) := by
  refine hR.updateMatch (fun m => Plain.of_kept (hf m)) fun m => ⟨htype m, fun i => ?_⟩
  have hkept := hf m
  simp only [Match.kept, Prod.mk.injEq] at hkept
  rw [hkept.2.2.2.2.2.1]

theorem Plain.of_slot {i : Fin 16} {f : Slot → Slot} (h : Restated (m.slots i) (f (m.slots i))) :
    Plain maps m { m with slots := Function.update m.slots i (f (m.slots i)) } := by
  refine ⟨rfl, rfl, rfl, rfl, .inl rfl, fun j => ?_, .refl⟩
  by_cases hj : j = i
  · subst hj
    simpa using h
  · simpa [hj] using Restated.refl _

theorem Restating.slotAt (hR : Restating maps R) {s : Server} {i : Fin 16} {f : Slot → Slot}
    (hf : Restated ((s.matchAt r).slots i) (f ((s.matchAt r).slots i))) :
    R s (s.modifySlot r i f) := hR.plain (Plain.of_slot hf)

theorem Sparing.slotAt (hR : Sparing maps R) {s : Server} {i : Fin 16} {f : Slot → Slot}
    (hf : Restated ((s.matchAt r).slots i) (f ((s.matchAt r).slots i)))
    (hteam : (f ((s.matchAt r).slots i)).team = ((s.matchAt r).slots i).team) :
    R s (s.modifySlot r i f) := by
  refine hR.plain (Plain.of_slot hf) ⟨rfl, fun j => ?_⟩
  by_cases hj : j = i
  · subst hj
    simpa using hteam
  · simp [hj]

theorem Sparing.updateSlot (hR : Sparing maps R) {i : Fin 16} {f : Slot → Slot}
    (hf : ∀ slot, Restated slot (f slot)) (hteam : ∀ slot, (f slot).team = slot.team) :
    Within R (BanchoPrism.updateSlot r i f) :=
  Within.update fun _ => hR.slotAt (hf _) (hteam _)

theorem ownStatus_lenient (hR : Sparing maps R) {s : Server} {i : Fin 16} {p : PlayerRef}
    {status : SlotStatus} (hi : ((s.matchAt r).slots i).player = some p) (hs : status ≠ .quit) :
    Moves R s (BanchoPrism.updateSlot r i fun slot => { slot with status := status }) :=
  Moves.update (hR.slotAt ⟨rfl, rfl, fun _ => .inr (hi ▸ rfl), .inr hs⟩ rfl)

theorem Tolerant.modifyPlayer (hR : Tolerant maps R) {p : PlayerRef} {f : Player → Player}
    (hf : ∀ player, (f player).id = player.id) :
    Within R (Prog.update fun s => s.modifyPlayer p f : Handler Unit) :=
  Within.update fun _ => hR.player (hf _)

theorem Sparing.along (hR : Sparing maps R) {α : Type} {x : Handler α}
    (h : Within ChannelWork x) : Within R x := Within.mono (fun _ _ => hR.work) h

theorem Restating.along (hR : Restating maps R) {α : Type} {x : Handler α}
    (h : Within ChannelWork x) : Within R x := Within.mono (fun _ _ => hR.work) h

theorem sitDown_lenient [IsTrans Server R] (hR : Tolerant maps R) (p : PlayerRef) (r : MatchRef)
    (i : Fin 16) : Within R (Prog.update fun s => sitDown s p r i : Handler Unit) := by
  refine Within.update fun s => ?_
  unfold sitDown
  refine trans_of R ?_ (hR.player (f := fun player => { player with matchRef := some r }) rfl)
  exact hR.seat (fun _ => rfl) (fun _ => rfl) (fun _ => rfl) fun _ => rfl

variable [Std.Refl R]

theorem removeMatch_lenient (hR : Tolerant maps R) (r : MatchRef) : Within R (matchesRemove r) := by
  refine Within.update fun s => ?_
  unfold Server.removeMatch
  split
  · exact hR.matchList s _
  · exact refl_of R s

theorem deleteKey_lenient (hR : Tolerant maps R) {κ : Type} [DecidableEq κ]
    {index : Players → κ → Option PlayerRef}
    {write : Players → (κ → Option PlayerRef) → Players} {key : κ}
    (h : ∀ ps id p, (write ps (Function.update (index ps) key none)).byId id = some p →
      ps.byId id = some p) :
    Within R (deleteKey index write key) :=
  Within.read_bind fun s => Moves.ite (fun _ => Moves.raise _) fun _ =>
    hR.players fun id p => h s.players id p

end Updates

section Sessions

variable {maps : Int → Prop} {R : Server → Server → Prop} [Std.Refl R] [IsTrans Server R]

theorem startMatch_lenient (hR : Tolerant maps R) (r : MatchRef) : Within R (startMatch r) := by
  refine Within.read_bind fun s => Within.bind ?_ (fun _ => Within.bind ?_ fun _ => ?_) s
  · exact hR.updateMatch (fun m => Plain.startSlots) fun _ => ⟨rfl, fun _ => rfl⟩
  · exact hR.unmentioned (fun _ => rfl) fun _ => rfl
  · refine Within.read_bind fun t => Moves.lift_bind fun packet _ => ?_
    exact Within.bind (hR.along (enqueueMatch_work r _ _ _))
      (fun _ => (hR.along (enqueueState_work r true))) t

theorem joinMatch_lenient (hR : Tolerant maps R) (p : PlayerRef) (r : MatchRef) (passwd : String) :
    Within R (joinMatch p r passwd) := by
  have hrefuse : Within R (refuseJoin p) :=
    Within.bind (hR.along (send_work p _)) fun _ => Within.pure false
  refine Within.read_bind fun s => Moves.ite (fun _ => hrefuse s) fun _ =>
    Moves.ite (fun _ => hrefuse s) fun _ => Moves.lift_bind fun host _ => ?_
  split
  · exact hrefuse s
  · rename_i i _
    refine Within.moves (Within.bind (hR.along (joinChannel_work p _)) fun joined => ?_)
    refine Within.ite (Within.bind (hR.along (leaveLobby_work p)) fun _ => ?_) (Within.pure false)
    refine Within.bind (sitDown_lenient hR p r i) fun _ => Within.read_bind fun t => ?_
    refine Moves.lift_bind fun packet _ => Within.moves ?_
    refine Within.bind (hR.along (send_work p _)) fun _ => ?_
    exact Within.bind (hR.along (enqueueState_work r true)) fun _ => Within.pure true

theorem setHost_lenient (hR : Tolerant maps R) (r : MatchRef) (p : PlayerRef) :
    Within R (setHost r p) := by
  refine Within.bind (Within.update fun s => hR.plain (Plain.of_kept rfl) ⟨rfl, fun _ => rfl⟩)
    fun _ => ?_
  exact Within.read_bind fun t => Moves.lift_bind fun host _ => hR.along (send_work host _) t

theorem passHost_lenient (hR : Tolerant maps R) (r : MatchRef) : Within R (passHost r) := by
  refine Within.read_bind fun s => ?_
  split
  · exact setHost_lenient hR r _ s
  · exact Moves.pure ()

theorem disposeMatch_work (r : MatchRef) : Within ChannelWork (disposeMatch r) := by
  refine Within.read_bind fun s => ?_
  split
  · exact sendAll_work _ _ s
  · exact Moves.pure ()

theorem afterLeaving_lenient (hR : Tolerant maps R) (p : PlayerRef) (r : MatchRef) :
    Within R (afterLeaving p r) := by
  refine Within.read_bind fun s => Within.moves (Within.ite ?_ ?_)
  · refine Within.bind (hR.unmentioned (fun _ => rfl) fun _ => rfl) fun _ => ?_
    exact Within.bind (removeMatch_lenient hR r) fun _ => hR.along (disposeMatch_work r)
  · refine Within.read_bind fun t => Moves.lift_bind fun host _ => Within.moves ?_
    refine Within.bind (Within.onlyIf (passHost_lenient hR r)) fun _ => ?_
    refine Within.bind (Within.onlyIf (Within.bind ?_ fun _ => ?_)) fun _ =>
      (hR.along (enqueueState_work r true))
    · exact hR.unmentioned (fun _ => rfl) fun _ => rfl
    · exact hR.along (sendBot_work _ _)

theorem leaveMatch_lenient (hR : Tolerant maps R) (p : PlayerRef) : Within R (leaveMatch p) := by
  refine Within.read_bind fun s => ?_
  split
  · exact Moves.pure ()
  rename_i r hr
  split
  · exact Moves.raise _
  have hleft : ∀ slot, (leftStatus slot).hasPlayer = false ∧ leftStatus slot ≠ .quit := by
    intro slot
    unfold leftStatus
    split
    · exact ⟨rfl, nofun⟩
    · exact ⟨rfl, nofun⟩
  refine Within.moves (Within.bind (Within.update fun _ => ?_) fun _ => ?_)
  · exact hR.reset (fun slot => (hleft slot).1) fun slot => (hleft slot).2
  refine Within.bind (hR.along (leaveChannel_work p _ true)) fun _ => ?_
  refine Within.bind (afterLeaving_lenient hR p r) fun _ => ?_
  exact hR.modifyPlayer fun _ => rfl

theorem spectatorChannel_work (host : PlayerRef) : Within ChannelWork (spectatorChannel host) := by
  refine Within.read_bind fun s => ?_
  split
  · exact Moves.pure _
  · refine Within.moves (Within.bind (allocChannel_work rfl) fun c => ?_)
    refine Within.bind (joinChannel_work host c) fun _ => ?_
    exact Within.bind (channelsAppend_work c) fun _ => Within.pure c

theorem addSpectator_lenient (hR : Tolerant maps R) (host p : PlayerRef) :
    Within R (addSpectator host p) := by
  refine Within.bind (hR.along (spectatorChannel_work host)) fun c => ?_
  refine Within.bind (hR.along (joinChannel_work p c)) fun joined => ?_
  refine Within.ite ?_ (Within.pure ())
  refine Within.read_bind fun s => ?_
  refine Within.moves (Within.bind (Within.onlyIf (hR.along (sendAll_work _ _))) fun _ => ?_)
  refine Within.bind (Within.each (fun q => (hR.along (send_work p _))) _) fun _ => ?_
  refine Within.bind (Within.onlyIf (hR.along (send_work host _))) fun _ => ?_
  exact Within.bind (hR.modifyPlayer fun _ => rfl) fun _ => hR.modifyPlayer fun _ => rfl

theorem removeSpectator_lenient (hR : Tolerant maps R) (host p : PlayerRef) :
    Within R (removeSpectator host p) := by
  refine Within.read_bind fun s => Moves.ite (fun _ => ?_) fun _ => Moves.raise _
  refine Within.moves (Within.bind ?_ fun _ => Within.bind ?_ fun _ => ?_)
  · exact hR.modifyPlayer fun _ => rfl
  · exact hR.modifyPlayer fun _ => rfl
  split
  · exact Within.raise _
  refine Within.bind (hR.along (leaveChannel_work p _ true)) fun _ => Within.read_bind fun t => ?_
  refine Within.moves (Within.bind (Within.onlyIf (hR.along (leaveChannel_work host _ true)))
    fun _ => ?_)
  refine Within.bind (Within.onlyIf (Within.bind (Within.lift _) fun info => ?_)) fun _ =>
    hR.along (send_work host _)
  refine Within.bind (hR.along (send_work host info)) fun _ => ?_
  exact Within.bind (hR.along (sendAll_work _ _)) fun _ => hR.along (sendAll_work _ info)

theorem playersRemove_lenient (hR : Tolerant maps R) (p : PlayerRef) :
    Within R (playersRemove p) := by
  refine Within.read_bind fun s => Moves.ite (fun _ => ?_) fun _ => Moves.pure ()
  refine Within.moves (Within.bind (Within.update fun t => ?_) fun _ => ?_)
  · exact hR.players fun _ _ => id
  refine Within.bind (deleteKey_lenient hR fun _ _ _ => id) fun _ => ?_
  refine Within.bind (deleteKey_lenient hR ?_) fun _ => deleteKey_lenient hR fun _ _ _ => id
  intro ps id q hq
  simp only [Function.update_apply] at hq
  split at hq
  · cases hq
  · exact hq

theorem logout_lenient (hR : Tolerant maps R) (p : PlayerRef) : Within R (logout p) := by
  refine Within.bind (leaveMatch_lenient hR p) fun _ => Within.bind ?_ fun _ => ?_
  · refine Within.read_bind fun s => ?_
    split
    · exact removeSpectator_lenient hR _ p s
    · exact Moves.pure ()
  refine Within.read_bind fun s => ?_
  refine Within.moves (Within.bind (hR.along (leaveChannels_work p _)) fun _ => ?_)
  refine Within.bind (playersRemove_lenient hR p) fun _ => ?_
  refine Within.bind (hR.modifyPlayer fun _ => rfl) fun _ => ?_
  exact Within.read_bind fun t => Within.onlyIf (hR.along (sendAll_work _ _)) t

end Sessions

end BanchoPrism
