import BanchoPrism.Multiplayer.Lenient.Events
import BanchoPrism.Multiplayer.SeatsAgree
import BanchoPrism.Packets.RoundTrip

namespace BanchoPrism

open Library Prog

-- A slot as write_match needs it: who is said to be in it is in it.
structure Slot.Sendable (slot : Slot) : Prop where
  mods : slot.mods < 2 ^ 31
  taken : slot.status.hasPlayer → slot.player.isSome
  status : slot.status ≠ .quit

-- The fields that reach the wire as numbers of a fixed width.
structure Match.Sendable (m : Match) : Prop where
  id : m.id < 64
  mods : m.mods < 2 ^ 31
  mapId : fitsI32 m.mapId
  seed : fitsI32 m.seed
  slots : ∀ i, (m.slots i).Sendable

structure Server.Sendable (s : Server) : Prop where
  matchAt : ∀ r, (s.matchAt r).Sendable
  ids : ∀ q, (s.player q).id < 2 ^ 31
  byId : ∀ id p, s.players.byId id = some p → p < s.nextPlayer ∧ (s.player p).id = id

def KeepsSendable (s t : Server) : Prop := s.Sendable → t.Sendable

instance : Std.Refl KeepsSendable := ⟨fun _ => id⟩
instance : IsTrans Server KeepsSendable := ⟨fun _ _ _ h h' hs => h' (h hs)⟩

section Slots

variable {slot : Slot} {m m' : Match}

theorem Slot.Sendable.reset {status : SlotStatus} (hplayer : status.hasPlayer = false)
    (hquit : status ≠ .quit) : (Slot.reset status).Sendable where
  mods := show (0 : Nat) < 2 ^ 31 by decide
  taken h := by
    change status.hasPlayer = true at h
    rw [hplayer] at h
    cases h
  status := hquit

theorem Slot.Sendable.blank : ({} : Slot).Sendable :=
  @Slot.Sendable.reset .open_ rfl nofun

theorem Slot.Sendable.withMods (h : slot.Sendable) {mods : Mods} (hm : mods < 2 ^ 31) :
    ({ slot with mods := mods } : Slot).Sendable := { h with mods := hm }

theorem Slot.Sendable.seated (h : slot.Sendable) {status : SlotStatus} (hp : slot.player.isSome)
    (hs : status ≠ .quit) : ({ slot with status := status } : Slot).Sendable :=
  { h with taken := fun _ => hp, status := hs }

theorem Match.Sendable.mapSlots (h : m.Sendable) {f : Slot → Slot}
    (hf : ∀ slot, slot.Sendable → (f slot).Sendable) : (m.mapSlots f).Sendable :=
  { h with slots := fun i => hf _ (h.slots i) }

theorem Match.Sendable.mapPlayers (h : m.Sendable) {f : Slot → Slot}
    (hf : ∀ slot, slot.Sendable → (f slot).Sendable) : (m.mapPlayers f).Sendable := by
  refine h.mapSlots fun slot hslot => ?_
  split
  · exact hf slot hslot
  · exact hslot

theorem Match.Sendable.withMods (h : m.Sendable) {mods : Mods} (hm : mods < 2 ^ 31) :
    ({ m with mods := mods } : Match).Sendable := { h with mods := hm }

theorem Match.Sendable.freemodsOn (h : m.Sendable) : (BanchoPrism.freemodsOn m).Sendable :=
  (h.mapPlayers (f := fun slot => { slot with mods := m.mods.without Mods.SPEED_CHANGING_MODS })
    fun _ hslot => hslot.withMods (Mods.without_lt _ _)).withMods
      (Nat.and_lt_two_pow _ (by decide))

theorem Match.Sendable.freemodsOff (h : m.Sendable) (i : Fin 16) :
    (BanchoPrism.freemodsOff m i).Sendable :=
  (h.mapPlayers (f := fun slot => { slot with mods := Mods.NOMOD })
    fun _ hslot => hslot.withMods (by decide)).withMods
      (Nat.or_lt_two_pow (Nat.and_lt_two_pow _ (by decide)) (h.slots i).mods)

end Slots

section Updates

variable {s : Server} {r : MatchRef} {f : Match → Match}

theorem Server.Sendable.modifyMatch (h : s.Sendable) (hf : (f (s.matchAt r)).Sendable) :
    (s.modifyMatch r f).Sendable := by
  refine { h with matchAt := fun r' => ?_ }
  by_cases hr : r' = r
  · subst hr
    simpa [Server.modifyMatch] using hf
  · simpa [Server.modifyMatch, hr] using h.matchAt r'

theorem Server.Sendable.modifySlot (h : s.Sendable) {i : Fin 16} {f : Slot → Slot}
    (hf : (f ((s.matchAt r).slots i)).Sendable) : (s.modifySlot r i f).Sendable := by
  refine h.modifyMatch { h.matchAt r with slots := fun j => ?_ }
  by_cases hj : j = i
  · subst hj
    simpa using hf
  · simpa [hj] using (h.matchAt r).slots j

theorem Server.Sendable.modifyPlayer (h : s.Sendable) {p : PlayerRef} {f : Player → Player}
    (hf : (f (s.player p)).id = (s.player p).id) : (s.modifyPlayer p f).Sendable := by
  have hid : ∀ q, ((s.modifyPlayer p f).player q).id = (s.player q).id := by
    intro q
    by_cases hq : q = p
    · subst hq
      simpa [Server.modifyPlayer] using hf
    · simp [Server.modifyPlayer, hq]
  exact { h with
    ids := fun q => hid q ▸ h.ids q
    byId := fun id q hq => ⟨(h.byId id q hq).1, (hid q).trans (h.byId id q hq).2⟩ }

theorem keepsSendable_updateMatch (hf : ∀ m, m.Sendable → (f m).Sendable) :
    Within KeepsSendable (updateMatch r f) :=
  Within.update fun _ h => h.modifyMatch (hf _ (h.matchAt r))

theorem ChannelWork.sendable {s t : Server} (h : ChannelWork s t) : KeepsSendable s t := by
  have hid : ∀ q, (t.player q).id = (s.player q).id := fun q => by rw [h.player q]
  intro hs
  constructor
  · rw [h.matchAt]
    exact hs.matchAt
  · exact fun q => hid q ▸ hs.ids q
  · intro id p hp
    rw [h.players] at hp
    rw [h.nextPlayer, hid]
    exact hs.byId id p hp

theorem Server.Sendable.of_players (h : s.Sendable) {players : Players}
    (hp : ∀ id p, players.byId id = some p → s.players.byId id = some p) :
    Server.Sendable { s with players := players } :=
  { h with byId := fun id p hfound => h.byId id p (hp id p hfound) }

-- Who is said to be in a slot stays in it, and a map that is chosen fits.
theorem keepsSendable_lenient : Lenient (fun mapId => fitsI32 mapId) KeepsSendable where
  cleared := by decide
  work h := h.sendable
  player hid h := h.modifyPlayer hid
  players hp h := h.of_players hp
  matchList _ _ h := { h with }
  plain := by
    intro s r f hplain h
    have hm := h.matchAt r
    refine h.modifyMatch ⟨hplain.id ▸ hm.id, hplain.mods ▸ hm.mods, ?_, hplain.seed ▸ hm.seed, ?_⟩
    · exact hplain.mapId.elim (fun hsame => hsame ▸ hm.mapId) id
    · intro i
      have hslot := hm.slots i
      have hrestated := hplain.slots i
      refine ⟨hrestated.mods ▸ hslot.mods, fun htaken => ?_, ?_⟩
      · rw [hrestated.player]
        exact (hrestated.taken htaken).elim hslot.taken id
      · exact hrestated.status.elim (fun hsame => hsame ▸ hslot.status) id
  seat := by
    intro s r i p f hplayer hstatus hmods h
    have hslot := (h.matchAt r).slots i
    refine h.modifySlot ⟨?_, fun _ => ?_, ?_⟩
    · rw [hmods]
      exact hslot.mods
    · rw [hplayer]
      rfl
    · rw [hstatus]
      exact nofun
  reset hplayer hquit h := h.modifySlot (Slot.Sendable.reset (hplayer _) (hquit _))
  copy := by
    intro s r i j h
    have hcopied := (h.matchAt r).slots i
    exact h.modifySlot ⟨hcopied.mods, hcopied.taken, hcopied.status⟩

end Updates

section Creating

theorem newMatch_sendable {id : Fin 64} {chat : ChannelRef} {m : Match} {data : MultiplayerMatch}
    (hdata : data.OnWire) (h : newMatch data id chat = .ok m) : m.Sendable := by
  unfold newMatch at h
  obtain ⟨mode, -, h⟩ := of_bind_ok h
  obtain ⟨winCondition, -, h⟩ := of_bind_ok h
  obtain ⟨teamType, -, h⟩ := of_bind_ok h
  cases h
  have hmods := hdata.mods
  simp only [fitsI32, Bool.and_eq_true, decide_eq_true_eq] at hmods
  exact ⟨id.isLt, Mods.ofInt_lt hmods.1 hmods.2, hdata.mapId, hdata.seed,
    fun _ => Slot.Sendable.blank⟩

theorem registerMatch_sendable (id : Fin 64) {m : Match} (hm : m.Sendable) :
    Within KeepsSendable (registerMatch id m) := by
  refine registerMatch_lenient keepsSendable_lenient.tolerant fun t h => { h with matchAt := fun r => ?_ }
  by_cases hr : r = t.nextMatch
  · subst hr
    simpa using hm
  · simpa [hr] using h.matchAt r

end Creating

section Mods

theorem changeFreemods_sendable (r : MatchRef) (freemods : Bool) :
    Within KeepsSendable (changeFreemods r freemods) := by
  refine Within.bind (keepsSendable_updateMatch fun m h => { h with }) fun _ => Within.ite ?_ ?_
  · exact keepsSendable_updateMatch fun m h => h.freemodsOn
  · refine Within.read_bind fun s => Moves.lift_bind fun i _ => ?_
    split
    · exact Within.moves (keepsSendable_updateMatch fun m h => h.freemodsOff _)
    · exact Moves.raise _

theorem setSlotMods_sendable (p : PlayerRef) (r : MatchRef) {mods : Mods} (hm : mods < 2 ^ 31) :
    Within KeepsSendable (setSlotMods p r mods) := by
  refine Within.read_bind fun s => ?_
  split
  · exact Within.moves (Within.update fun s h => h.modifySlot (((h.matchAt r).slots _).withMods hm))
  · exact Moves.raise _

theorem matchChangeMods_sendable (p : PlayerRef) {mods : Int} (hm : fitsI32 mods) :
    Within KeepsSendable (matchChangeMods p mods) := by
  simp only [fitsI32, Bool.and_eq_true, decide_eq_true_eq] at hm
  refine within_inMatch fun r => Within.read_bind fun s => Moves.lift_bind fun host _ => ?_
  refine Within.moves (Within.ite ?_ (Within.ite ?_ (Within.pure ())))
  · refine Within.bind (Within.onlyIf (keepsSendable_updateMatch fun m h => ?_)) fun _ => ?_
    · exact h.withMods (Mods.maskInt_lt _ (by decide))
    · exact Within.bind (setSlotMods_sendable p r (Mods.maskInt_lt _ (Mods.invert_lt _)))
        fun _ => (keepsSendable_lenient.along (enqueueState_work r true))
  · refine Within.bind (keepsSendable_updateMatch fun m h => ?_) fun _ =>
      (keepsSendable_lenient.along (enqueueState_work r true))
    exact h.withMods (Mods.ofInt_lt hm.1 hm.2)

theorem setCommandMods_sendable (p : PlayerRef) (r : MatchRef) {mods : Mods}
    (hm : mods < 2 ^ 31) : Within KeepsSendable (setCommandMods p r mods) := by
  refine Within.read_bind fun s => Moves.ite (fun _ => ?_) fun _ => Within.moves ?_
  · refine Moves.lift_bind fun host _ => Within.moves (Within.bind (Within.onlyIf ?_) fun _ => ?_)
    · exact keepsSendable_updateMatch fun m h => h.withMods (Nat.and_lt_two_pow _ (by decide))
    · exact setSlotMods_sendable p r (Mods.without_lt _ _)
  · exact keepsSendable_updateMatch fun m h => h.withMods hm

theorem mpMods_sendable (ctx : Context) (r : MatchRef) : Within KeepsSendable (mpMods ctx r) := by
  refine within_oneArg fun arg => Within.ite (within_answer _) (Within.read_bind fun s => ?_)
  have hmods := Mods.filterInvalidCombos_lt (Mods.fromModChars_lt arg.toList)
    (s.matchAt r).mode.asVanilla
  refine Within.moves (Within.bind (setCommandMods_sendable ctx.player r hmods) fun _ => ?_)
  refine Within.bind (keepsSendable_lenient.along (enqueueState_work r true)) fun _ => ?_
  exact within_answer _

theorem mpFreemods_sendable (ctx : Context) (r : MatchRef) :
    Within KeepsSendable (mpFreemods ctx r) := by
  refine within_oneArg fun arg => Within.ite ?_ (within_answer _)
  refine Within.bind (changeFreemods_sendable r _) fun _ => ?_
  refine Within.bind (keepsSendable_lenient.along (enqueueState_work r true)) fun _ => ?_
  exact within_answer _

theorem resumePickMap_sendable (r : MatchRef) (modsSlot : String) {mods : Mods}
    {found : Option Beatmap} (hm : mods < 2 ^ 31) (hfound : ∀ bmap ∈ found, fitsI32 bmap.id) :
    Within KeepsSendable (resumePickMap r modsSlot mods found) := by
  cases found with
  | none => exact within_answer _
  | some bmap =>
    have hmap := hfound bmap rfl
    refine Within.bind (keepsSendable_updateMatch fun m h => { h with mapId := hmap }) fun _ => ?_
    refine Within.bind (keepsSendable_updateMatch fun m h => ?_) fun _ => ?_
    · split
      · exact { h.mapPlayers (f := fun slot => { slot with mods := Mods.NOMOD })
          fun _ hslot => hslot.withMods (by decide) with }
      · exact h
    refine Within.bind (keepsSendable_updateMatch fun m h => h.withMods hm) fun _ => ?_
    refine Within.bind (keepsSendable_lenient.along (enqueueState_work r true)) fun _ => ?_
    exact Within.read_bind fun t => within_answer _ t

end Mods

section Sessions

theorem playersAppend_sendable {s : Server} {p : PlayerRef} (h : s.Sendable)
    (hp : p < s.nextPlayer) : (playersAppend p s).2.Sendable := by
  unfold playersAppend
  rw [update_run]
  dsimp only
  split
  · exact h
  · refine { h with byId := fun id q hq => ?_ }
    dsimp only at hq
    rw [Function.update_apply] at hq
    split at hq
    · rename_i hkey
      obtain rfl := Option.some.inj hq
      exact ⟨hp, hkey.symm⟩
    · exact h.byId id q hq

-- A new session comes with an id of the users table.
theorem login_sendable {profile : Profile} (hid : profile.id < 2 ^ 31) :
    Within KeepsSendable (login profile) := by
  intro s h
  have hother : ∀ q, q ≠ s.nextPlayer → (freshSession s profile).player q = s.player q :=
    fun q hq => Function.update_of_ne hq _ _
  have hself : ((freshSession s profile).player s.nextPlayer).id = profile.id := by
    simp [freshSession, Server.modifyPlayer]
  rw [login_run]
  refine playersAppend_sendable ⟨h.matchAt, fun q => ?_, fun id p hp => ?_⟩ (Nat.lt_succ_self _)
  · by_cases hq : q = s.nextPlayer
    · rw [hq, hself]
      exact hid
    · rw [hother q hq]
      exact h.ids q
  · obtain ⟨hlt, hkey⟩ := h.byId id p hp
    rw [hother p (Nat.ne_of_lt hlt)]
    exact ⟨Nat.lt_succ_of_lt hlt, hkey⟩

end Sessions

end BanchoPrism
