import BanchoPrism.Library.Seating
import BanchoPrism.Multiplayer.Step
import BanchoPrism.Sessions.ChannelWork

namespace BanchoPrism

open Library
open Library Prog

namespace Server

-- The two sides of match membership: player.match and the slots of the matches.
def seating (s : Server) : Seating PlayerRef MatchRef (Fin 16) where
  place p := (s.player p).matchRef
  seat r i := ((s.matchAt r).slots i).player

-- The name index points at sessions that have logged in.
def Known (s : Server) : Prop :=
  ∀ name p, s.players.byName name = some p → p < s.nextPlayer

end Server

-- Nobody changes seats, and no match changes its place in the list.
structure Still (s t : Server) : Prop where
  place : ∀ p, (t.player p).matchRef = (s.player p).matchRef
  playerId : ∀ p, (t.player p).id = (s.player p).id
  seat : ∀ r i, ((t.matchAt r).slots i).player = ((s.matchAt r).slots i).player
  matchId : ∀ r, (t.matchAt r).id = (s.matchAt r).id
  matchList : t.matchList = s.matchList
  nextMatch : t.nextMatch = s.nextMatch
  nextPlayer : t.nextPlayer = s.nextPlayer
  listed : s.Listed → t.Listed
  known : s.Known → t.Known

-- The status of a slot keeps saying whether somebody is in it, or says so of a
-- slot that is occupied.
def StatusKept (before after : Slot) : Prop :=
  after.status.hasPlayer = before.status.hasPlayer ∨
    (before.player.isSome ∧ after.status.hasPlayer)

-- Nor does a slot change between occupied and free.
structure Seated (s t : Server) : Prop extends Still s t where
  status : ∀ r i, StatusKept ((s.matchAt r).slots i) ((t.matchAt r).slots i)

-- Nor does a match change its host.
structure Hosted (s t : Server) : Prop extends Still s t where
  hostId : ∀ r, (t.matchAt r).hostId = (s.matchAt r).hostId

structure Quiet (s t : Server) : Prop extends Seated s t, Hosted s t

theorem Still.refl (s : Server) : Still s s := by
  constructor <;> intros <;> first | rfl | assumption

theorem Still.trans {s t u : Server} (h : Still s t) (h' : Still t u) : Still s u where
  place p := (h'.place p).trans (h.place p)
  playerId p := (h'.playerId p).trans (h.playerId p)
  seat r i := (h'.seat r i).trans (h.seat r i)
  matchId r := (h'.matchId r).trans (h.matchId r)
  matchList := h'.matchList.trans h.matchList
  nextMatch := h'.nextMatch.trans h.nextMatch
  nextPlayer := h'.nextPlayer.trans h.nextPlayer
  listed hs := h'.listed (h.listed hs)
  known hs := h'.known (h.known hs)

theorem StatusKept.refl (slot : Slot) : StatusKept slot slot := .inl rfl

theorem StatusKept.trans {a b c : Slot} (hab : StatusKept a b) (hbc : StatusKept b c)
    (hp : b.player = a.player) : StatusKept a c := by
  unfold StatusKept at *
  rcases hbc with hbc | ⟨hb, hc⟩
  · rcases hab with hab | ⟨ha, hb⟩
    · exact .inl (hbc.trans hab)
    · exact .inr ⟨ha, hbc.trans hb⟩
  · exact .inr ⟨hp ▸ hb, hc⟩

theorem Seated.refl (s : Server) : Seated s s := ⟨Still.refl s, fun _ _ => StatusKept.refl _⟩

theorem Seated.trans {s t u : Server} (h : Seated s t) (h' : Seated t u) : Seated s u :=
  ⟨h.toStill.trans h'.toStill, fun r i => (h.status r i).trans (h'.status r i) (h.seat r i)⟩

theorem Hosted.refl (s : Server) : Hosted s s := ⟨Still.refl s, fun _ => rfl⟩

theorem Hosted.trans {s t u : Server} (h : Hosted s t) (h' : Hosted t u) : Hosted s u :=
  ⟨h.toStill.trans h'.toStill, fun r => (h'.hostId r).trans (h.hostId r)⟩

theorem Quiet.refl (s : Server) : Quiet s s := ⟨Seated.refl s, (Hosted.refl s).hostId⟩

theorem Quiet.trans {s t u : Server} (h : Quiet s t) (h' : Quiet t u) : Quiet s u :=
  ⟨h.toSeated.trans h'.toSeated, (h.toHosted.trans h'.toHosted).hostId⟩

instance : Std.Refl Seated := ⟨Seated.refl⟩
instance : IsTrans Server Seated := ⟨fun _ _ _ => Seated.trans⟩
instance : Std.Refl Hosted := ⟨Hosted.refl⟩
instance : IsTrans Server Hosted := ⟨fun _ _ _ => Hosted.trans⟩
instance : Std.Refl Quiet := ⟨Quiet.refl⟩
instance : IsTrans Server Quiet := ⟨fun _ _ _ => Quiet.trans⟩

theorem Still.seating_eq {s t : Server} (h : Still s t) : t.seating = s.seating :=
  Seating.ext (funext h.place) (funext fun r => funext fun i => h.seat r i)

section Updates

open Prog

-- What a match update may change without moving anybody.
structure SlotsKept (m m' : Match) : Prop where
  player : ∀ i, (m'.slots i).player = (m.slots i).player
  status : ∀ i, StatusKept (m.slots i) (m'.slots i)
  hostId : m'.hostId = m.hostId
  id : m'.id = m.id

theorem Quiet.of_modifyMatch {s : Server} {r : MatchRef} {f : Match → Match}
    (h : SlotsKept (s.matchAt r) (f (s.matchAt r))) : Quiet s (s.modifyMatch r f) := by
  have hkept : ∀ r', SlotsKept (s.matchAt r') ((s.modifyMatch r f).matchAt r') := by
    intro r'
    by_cases hr : r' = r
    · subst hr
      simpa [Server.modifyMatch] using h
    · simpa [Server.modifyMatch, hr] using
        (⟨fun _ => rfl, fun _ => StatusKept.refl _, rfl, rfl⟩ : SlotsKept _ (s.matchAt r'))
  exact {
    place := fun _ => rfl
    playerId := fun _ => rfl
    seat := fun r' i => (hkept r').player i
    hostId := fun r' => (hkept r').hostId
    matchId := fun r' => (hkept r').id
    matchList := rfl
    nextMatch := rfl
    nextPlayer := rfl
    listed := id
    known := id
    status := fun r' i => (hkept r').status i }

theorem quiet_updateMatch {r : MatchRef} {f : Match → Match} (h : ∀ m, SlotsKept m (f m)) :
    Within Quiet (updateMatch r f) :=
  Within.update fun s => Quiet.of_modifyMatch (h (s.matchAt r))

-- Updates of a match that leave its slots alone.
theorem SlotsKept.of_slots_eq {m m' : Match} (hs : m'.slots = m.slots)
    (hh : m'.hostId = m.hostId) (hi : m'.id = m.id) : SlotsKept m m' :=
  ⟨fun i => by rw [hs], fun i => by rw [hs]; exact StatusKept.refl _, hh, hi⟩

theorem SlotsKept.of_mapSlots (m : Match) {f : Slot → Slot}
    (hp : ∀ i, (f (m.slots i)).player = (m.slots i).player)
    (hs : ∀ i, StatusKept (m.slots i) (f (m.slots i))) : SlotsKept m (m.mapSlots f) :=
  ⟨hp, hs, rfl, rfl⟩

theorem SlotsKept.of_mapPlayers (m : Match) {f : Slot → Slot}
    (hp : ∀ slot, (f slot).player = slot.player) (hs : ∀ slot, (f slot).status = slot.status) :
    SlotsKept m (m.mapPlayers f) := by
  refine SlotsKept.of_mapSlots m (fun i => ?_) fun i => ?_
  · split
    · exact hp _
    · rfl
  · split
    · exact .inl (by rw [hs])
    · exact StatusKept.refl _

theorem SlotsKept.trans {m m' m'' : Match} (h : SlotsKept m m') (h' : SlotsKept m' m'') :
    SlotsKept m m'' where
  player i := (h'.player i).trans (h.player i)
  status i := (h.status i).trans (h'.status i) (h.player i)
  hostId := h'.hostId.trans h.hostId
  id := h'.id.trans h.id

theorem SlotsKept.unreadyPlayers (m : Match) {expected : SlotStatus}
    (he : expected.hasPlayer) : SlotsKept m (m.unreadyPlayers expected) := by
  refine SlotsKept.of_mapSlots m (fun i => ?_) fun i => ?_
  · split <;> rfl
  · split
    · rename_i h
      exact .inl (by rw [h, he]; rfl)
    · exact StatusKept.refl _

theorem quiet_modifySlot {s : Server} {r : MatchRef} {i : Fin 16} {f : Slot → Slot}
    (hp : (f ((s.matchAt r).slots i)).player = ((s.matchAt r).slots i).player)
    (hs : StatusKept ((s.matchAt r).slots i) (f ((s.matchAt r).slots i))) :
    Quiet s (s.modifySlot r i f) := by
  refine Quiet.of_modifyMatch ⟨fun j => ?_, fun j => ?_, rfl, rfl⟩
  all_goals
    by_cases hj : j = i
    · subst hj
      simpa using ‹_›
    · simp [hj, StatusKept.refl]

theorem quiet_updateSlot {r : MatchRef} {i : Fin 16} {f : Slot → Slot}
    (hp : ∀ slot, (f slot).player = slot.player) (hs : ∀ slot, (f slot).status = slot.status) :
    Within Quiet (updateSlot r i f) :=
  Within.update fun _ => quiet_modifySlot (hp _) (.inl (by rw [hs]))

theorem Quiet.of_modifyPlayer {s : Server} {p : PlayerRef} {f : Player → Player}
    (hm : (f (s.player p)).matchRef = (s.player p).matchRef)
    (hi : (f (s.player p)).id = (s.player p).id)
    (hc : (s.player p).channels ⊆ (f (s.player p)).channels) : Quiet s (s.modifyPlayer p f) := by
  have hplayer : ∀ q, ((s.modifyPlayer p f).player q).matchRef = (s.player q).matchRef ∧
      ((s.modifyPlayer p f).player q).id = (s.player q).id ∧
      (s.player q).channels ⊆ ((s.modifyPlayer p f).player q).channels := by
    intro q
    by_cases hq : q = p
    · subst hq
      simpa [Server.modifyPlayer] using ⟨hm, hi, hc⟩
    · simp [Server.modifyPlayer, hq]
  exact {
    place := fun q => (hplayer q).1
    playerId := fun q => (hplayer q).2.1
    seat := fun _ _ => rfl
    hostId := fun _ => rfl
    matchId := fun _ => rfl
    matchList := rfl
    nextMatch := rfl
    nextPlayer := rfl
    listed := fun hl c => ⟨(hl c).1, fun q hq => (hplayer q).2.2 ((hl c).2 q hq)⟩
    known := id
    status := fun _ _ => StatusKept.refl _ }

theorem quiet_modifyPlayer {p : PlayerRef} {f : Player → Player}
    (hm : ∀ player, (f player).matchRef = player.matchRef)
    (hi : ∀ player, (f player).id = player.id)
    (hc : ∀ player, (f player).channels = player.channels) :
    Within Quiet (Prog.update fun s => s.modifyPlayer p f : Handler Unit) :=
  Within.update fun s => Quiet.of_modifyPlayer (hm _) (hi _) (by rw [hc]; exact List.Subset.refl _)

theorem Quiet.of_players {s : Server} {players : Players}
    (h : ∀ name p, players.byName name = some p → s.players.byName name = some p) :
    Quiet s { s with players := players } := by
  constructor
  · constructor
    · constructor
      case known => exact fun hk name p hp => hk name p (h name p hp)
      all_goals intros; first | rfl | assumption
    · exact fun _ _ => StatusKept.refl _
  · exact fun _ => rfl

-- Channels and packets are nobody's seat.
theorem ChannelWork.quiet {s t : Server} (h : ChannelWork s t) : Quiet s t where
  place q := by rw [h.player q]
  playerId q := by rw [h.player q]
  seat r i := by rw [h.matchAt]
  hostId r := by rw [h.matchAt]
  matchId r := by rw [h.matchAt]
  matchList := h.matchList
  nextMatch := h.nextMatch
  nextPlayer := h.nextPlayer
  listed := h.listed
  known hk name q hq := by
    rw [h.nextPlayer]
    exact hk name q (by rwa [h.players] at hq)
  status r i := by
    rw [h.matchAt]
    exact StatusKept.refl _

theorem Library.Prog.Within.quiet {α : Type} {x : Handler α} (h : Within ChannelWork x) : Within Quiet x :=
  Within.mono (fun _ _ => ChannelWork.quiet) h

theorem Library.Prog.Within.seated {α : Type} {x : Handler α} (h : Within Quiet x) :
    Within Seated x :=
  Within.mono (fun _ _ => Quiet.toSeated) h

theorem Library.Prog.Within.hosted {α : Type} {x : Handler α} (h : Within Quiet x) :
    Within Hosted x :=
  Within.mono (fun _ _ => Quiet.toHosted) h

end Updates

-- What the status of a slot says of the game that is played.
inductive Phase
  | playing
  | complete
  | idle
  deriving DecidableEq

def SlotStatus.phase : SlotStatus → Phase
  | .playing => .playing
  | .complete => .complete
  | _ => .idle

theorem playing_iff (status : SlotStatus) : status = .playing ↔ status.phase = .playing := by
  cases status <;> simp [SlotStatus.phase]

theorem complete_iff (status : SlotStatus) : status = .complete ↔ status.phase = .complete := by
  cases status <;> simp [SlotStatus.phase]

-- What a slot has of the game.
structure Seat where
  player : Option PlayerRef
  phase : Phase
  frame : Option (List UInt8)
  passed : Bool
  deriving DecidableEq

structure Game where
  inProgress : Bool
  seats : Fin 16 → Seat

def Slot.seat (slot : Slot) : Seat :=
  { player := slot.player
    phase := slot.status.phase
    frame := slot.lastScoreFrame
    passed := slot.passed }

def Match.game (m : Match) : Game :=
  { inProgress := m.inProgress
    seats := fun i => (m.slots i).seat }

def Server.game (s : Server) (r : MatchRef) : Game := (s.matchAt r).game

-- Quiet, and no game changes.
structure Calm (s t : Server) : Prop extends Quiet s t where
  game : ∀ r, t.game r = s.game r

theorem Calm.refl (s : Server) : Calm s s := ⟨Quiet.refl s, fun _ => rfl⟩

theorem Calm.trans {s t u : Server} (h : Calm s t) (h' : Calm t u) : Calm s u :=
  ⟨h.toQuiet.trans h'.toQuiet, fun r => (h'.game r).trans (h.game r)⟩

instance : Std.Refl Calm := ⟨Calm.refl⟩
instance : IsTrans Server Calm := ⟨fun _ _ _ => Calm.trans⟩

theorem ChannelWork.calm {s t : Server} (h : ChannelWork s t) : Calm s t :=
  ⟨h.quiet, fun r => by rw [Server.game, h.matchAt]; rfl⟩

theorem Library.Prog.Within.calm {α : Type} {x : Handler α} (h : Within ChannelWork x) :
    Within Calm x := Within.mono (fun _ _ => ChannelWork.calm) h

theorem Library.Prog.Within.toQuiet {α : Type} {x : Handler α} (h : Within Calm x) :
    Within Quiet x := Within.mono (fun _ _ => Calm.toQuiet) h

section Updates

theorem Server.modifyMatch_game (s : Server) (r r' : MatchRef) (f : Match → Match) :
    (s.modifyMatch r f).game r' = if r' = r then (f (s.matchAt r)).game else s.game r' := by
  by_cases hr : r' = r
  · subst hr
    simp [Server.game, Server.modifyMatch]
  · simp [Server.game, Server.modifyMatch, hr]

theorem Calm.of_modifyMatch {s : Server} {r : MatchRef} {f : Match → Match}
    (h : SlotsKept (s.matchAt r) (f (s.matchAt r)))
    (hg : (f (s.matchAt r)).game = (s.matchAt r).game) : Calm s (s.modifyMatch r f) := by
  refine ⟨Quiet.of_modifyMatch h, fun r' => ?_⟩
  rw [Server.modifyMatch_game]
  split
  · rename_i hr
    rw [hg, hr]
    rfl
  · rfl

theorem calm_updateMatch {r : MatchRef} {f : Match → Match} (h : ∀ m, SlotsKept m (f m))
    (hg : ∀ m, (f m).game = m.game) : Within Calm (updateMatch r f) :=
  Within.update fun s => Calm.of_modifyMatch (h (s.matchAt r)) (hg (s.matchAt r))

-- Updates of a match that leave the slots, the host, the id and the game alone.
theorem calm_of_slots_eq {r : MatchRef} {f : Match → Match} (hs : ∀ m, (f m).slots = m.slots)
    (hh : ∀ m, (f m).hostId = m.hostId) (hi : ∀ m, (f m).id = m.id)
    (hp : ∀ m, (f m).inProgress = m.inProgress) : Within Calm (updateMatch r f) :=
  calm_updateMatch (fun m => SlotsKept.of_slots_eq (hs m) (hh m) (hi m)) fun m => by
    unfold Match.game
    rw [hs, hp]

theorem mapSlots_game (m : Match) {f : Slot → Slot}
    (hf : ∀ i, (f (m.slots i)).seat = (m.slots i).seat) : (m.mapSlots f).game = m.game := by
  unfold Match.game Match.mapSlots
  dsimp only
  congr 1
  exact funext hf

theorem mapPlayers_game (m : Match) {f : Slot → Slot} (hf : ∀ slot, (f slot).seat = slot.seat) :
    (m.mapPlayers f).game = m.game := by
  refine mapSlots_game m fun i => ?_
  split
  · exact hf _
  · rfl

theorem calm_updateSlot {r : MatchRef} {i : Fin 16} {f : Slot → Slot}
    (hp : ∀ slot, (f slot).player = slot.player) (hs : ∀ slot, (f slot).status = slot.status)
    (hf : ∀ slot, (f slot).seat = slot.seat) : Within Calm (updateSlot r i f) := by
  refine Within.update fun s => ⟨quiet_modifySlot (hp _) (.inl (by rw [hs])), fun r' => ?_⟩
  unfold Server.modifySlot
  rw [Server.modifyMatch_game]
  split
  · rename_i hr
    rw [hr]
    unfold Server.game Match.game
    dsimp only
    congr 1
    funext j
    by_cases hj : j = i
    · subst hj
      rw [Function.update_self, hf]
    · rw [Function.update_of_ne hj]
  · rfl

theorem calm_modifyPlayer {p : PlayerRef} {f : Player → Player}
    (hm : ∀ player, (f player).matchRef = player.matchRef)
    (hi : ∀ player, (f player).id = player.id)
    (hc : ∀ player, (f player).channels = player.channels) :
    Within Calm (Prog.update fun s => s.modifyPlayer p f : Handler Unit) :=
  fun s => ⟨quiet_modifyPlayer hm hi hc s, fun _ => rfl⟩

theorem Calm.of_players {s : Server} {players : Players}
    (h : ∀ name p, players.byName name = some p → s.players.byName name = some p) :
    Calm s { s with players := players } := ⟨Quiet.of_players h, fun _ => rfl⟩

end Updates

end BanchoPrism
